import SessionTokens.Proofs.Ledger.Linkage

set_option autoImplicit false

namespace SessionTokens

/-- The same record now or later: as it is, or revoked since. -/
def Record.Ages (r r' : Record) : Prop :=
  r' = r ∨
    (r.revoked = false ∧ ∃ successor, r' = { r with revoked := true, replacedBy := successor })

namespace Record.Ages

variable {r r' r'' : Record}

theorem refl (r : Record) : r.Ages r :=
  Or.inl rfl

theorem trans (first : r.Ages r') (second : r'.Ages r'') : r.Ages r'' := by
  rcases first with rfl | ⟨active, successor, rfl⟩
  · exact second
  · rcases second with rfl | ⟨still, _⟩
    · exact Or.inr ⟨active, successor, rfl⟩
    · cases still

theorem owner (ages : r.Ages r') : r'.owner = r.owner := by
  rcases ages with rfl | ⟨_, _, rfl⟩ <;> rfl

theorem expiresAt (ages : r.Ages r') : r'.expiresAt = r.expiresAt := by
  rcases ages with rfl | ⟨_, _, rfl⟩ <;> rfl

theorem createdAt (ages : r.Ages r') : r'.createdAt = r.createdAt := by
  rcases ages with rfl | ⟨_, _, rfl⟩ <;> rfl

theorem eq_of_revoked (ages : r.Ages r') (revoked : r.revoked = true) : r' = r := by
  rcases ages with rfl | ⟨active, _⟩
  · rfl
  · rw [revoked] at active
    cases active

theorem replace {old : TokenId} (child : TokenId) (active : r.tokenId = old → r.revoked = false) :
    r.Ages (Ledger.replace old child r) := by
  by_cases same : r.tokenId = old
  · rw [Ledger.replace_same child same]
    exact Or.inr ⟨active same, some child, rfl⟩
  · rw [Ledger.replace_other child same]
    exact refl r

theorem revoke (user : UserId) (r : Record) : r.Ages (Ledger.revoke user r) := by
  unfold Ledger.revoke
  split
  · rename_i isOpen
    simp only [Ledger.isOpen, Bool.and_eq_true, Bool.not_eq_true'] at isOpen
    exact Or.inr ⟨isOpen.2, r.replacedBy, rfl⟩
  · exact refl r

end Record.Ages

namespace Ledger

/-- Every record of the first ledger stands in the second under the same identifier. -/
def Keeps (l l' : Ledger) : Prop :=
  ∀ id r, l.find? id = some r → ∃ r', l'.find? id = some r' ∧ r.Ages r'

theorem Keeps.refl (l : Ledger) : l.Keeps l :=
  fun _ r found => ⟨r, found, .refl r⟩

theorem Keeps.trans (l m n : Ledger) (first : l.Keeps m) (second : m.Keeps n) : l.Keeps n := by
  intro id r found
  obtain ⟨r', found', ages⟩ := first id r found
  obtain ⟨r'', found'', further⟩ := second id r' found'
  exact ⟨r'', found'', ages.trans further⟩

theorem keeps_insert {l l' : Ledger} {r : Record} (inserted : l.insert r = .ok l') :
    l.Keeps l' := by
  intro id a found
  refine ⟨a, ?_, .refl a⟩
  rw [find?_insert inserted, if_neg, found]
  intro same
  rw [← same, ((insert_ok_iff l l' r).mp inserted).1] at found
  cases found

theorem keeps_rotate {l l' : Ledger} {old : TokenId} {child : Record}
    (rotated : l.rotate old child = .ok l') : l.Keeps l' := by
  obtain ⟨fresh, ⟨r, present, active⟩, -⟩ := (rotate_ok_iff l l' old child).mp rotated
  intro id a found
  refine ⟨replace old child.tokenId a, ?_, ?_⟩
  · rw [find?_rotate rotated, if_neg, found, Option.map_some]
    intro same
    rw [← same, fresh] at found
    cases found
  · apply Record.Ages.replace
    intro same
    rw [← tokenId_of_find? found, same, present] at found
    obtain rfl := Option.some.inj found
    exact active

theorem keeps_revokeAll (l : Ledger) (user : UserId) : l.Keeps (l.revokeAll user).2 := by
  intro id a found
  exact ⟨revoke user a, by rw [find?_revokeAll, found, Option.map_some], .revoke user a⟩

theorem Change.keeps {l l' : Ledger} (change : Change l l') : l.Keeps l' := by
  cases change with
  | same => exact .refl l
  | insert _ inserted => exact keeps_insert inserted
  | rotate _ _ _ rotated => exact keeps_rotate rotated
  | revokeAll user => exact keeps_revokeAll l user

/-- What is found of a revoked record never changes again. -/
theorem Keeps.find?_revoked {l l' : Ledger} (keeps : l.Keeps l') {id : TokenId} {r : Record}
    (found : l.find? id = some r) (revoked : r.revoked = true) : l'.find? id = some r := by
  obtain ⟨r', found', ages⟩ := keeps id r found
  rw [found', ages.eq_of_revoked revoked]

end Ledger

end SessionTokens
