import SessionTokens.Proofs.Ledger.Persistence

set_option autoImplicit false

namespace SessionTokens

namespace Ledger

variable {l l' : Ledger}

/-- No record is dated later. -/
def CreatedBy (l : Ledger) (t : Instant) : Prop :=
  ∀ r ∈ l.records, r.createdAt ≤ t

/-- No record is older than the one whose place it took. -/
def InOrder (l : Ledger) : Prop :=
  ∀ id successor r next, l.find? id = some r → r.replacedBy = some successor →
    l.find? successor = some next → r.createdAt ≤ next.createdAt

theorem CreatedBy.append {records : List Record} {r : Record} {t : Instant}
    (old : CreatedBy ⟨records⟩ t) (new : r.createdAt ≤ t) : CreatedBy ⟨records ++ [r]⟩ t := by
  intro a member
  rcases List.mem_append.mp member with inside | last
  · exact old a inside
  · rw [List.mem_singleton.mp last]
    exact new

theorem CreatedBy.map {f : Record → Record} {t : Instant} (old : l.CreatedBy t)
    (keeps : ∀ r, (f r).createdAt = r.createdAt) : CreatedBy ⟨l.records.map f⟩ t := by
  intro a member
  obtain ⟨r, inside, rfl⟩ := List.mem_map.mp member
  rw [keeps]
  exact old r inside

theorem CreatedBy.find? {t : Instant} (created : l.CreatedBy t) {id : TokenId} {r : Record}
    (found : l.find? id = some r) : r.createdAt ≤ t :=
  created r (mem_of_find? found)

/-- No record names as its successor what is not in the ledger. -/
theorem Sound.replacedBy_ne (sound : l.Sound) {id fresh : TokenId} {r : Record}
    (found : l.find? id = some r) (absent : l.find? fresh = none) :
    r.replacedBy ≠ some fresh := by
  intro replaced
  obtain ⟨-, next, present, -⟩ := sound.linked (mem_of_find? found) replaced
  rw [absent] at present
  cases present

theorem InOrder.insert (inOrder : l.InOrder) (sound : l.Sound) {r : Record} (new : r.IsNew)
    (inserted : l.insert r = .ok l') : l'.InOrder := by
  obtain ⟨fresh, -⟩ := (insert_ok_iff l l' r).mp inserted
  intro id successor a next found replaced follows
  rw [find?_insert inserted] at found follows
  split at found
  · obtain rfl := Option.some.inj found
    rw [new.2] at replaced
    cases replaced
  · split at follows
    · rename_i same
      subst same
      exact absurd replaced (sound.replacedBy_ne found fresh)
    · exact inOrder id successor a next found replaced follows

theorem InOrder.rotate (inOrder : l.InOrder) (sound : l.Sound) {old : TokenId}
    {record child : Record} (new : child.IsNew) (found : l.find? old = some record)
    (later : record.createdAt ≤ child.createdAt) (rotated : l.rotate old child = .ok l') :
    l'.InOrder := by
  obtain ⟨fresh, -, -⟩ := (rotate_ok_iff l l' old child).mp rotated
  intro id successor a next present replaced follows
  rw [find?_rotate rotated] at present follows
  split at present
  · obtain rfl := Option.some.inj present
    rw [new.2] at replaced
    cases replaced
  · obtain ⟨before, known, rfl⟩ := Option.map_eq_some_iff.mp present
    rw [createdAt_replace]
    by_cases same : before.tokenId = old
    · -- The record that is replaced names the child, which is dated no earlier.
      rw [replace_same child.tokenId same] at replaced
      obtain rfl := Option.some.inj replaced
      rw [if_pos rfl] at follows
      obtain rfl := Option.some.inj follows
      rw [tokenId_of_find? known] at same
      subst same
      rw [found] at known
      obtain rfl := Option.some.inj known
      exact later
    · rw [replace_other child.tokenId same] at replaced
      split at follows
      · rename_i isChild
        subst isChild
        exact absurd replaced (sound.replacedBy_ne known fresh)
      · obtain ⟨after, led, rfl⟩ := Option.map_eq_some_iff.mp follows
        rw [createdAt_replace]
        exact inOrder id successor before after known replaced led

theorem InOrder.revokeAll (inOrder : l.InOrder) (user : UserId) :
    (l.revokeAll user).2.InOrder := by
  intro id successor a next found replaced follows
  rw [find?_revokeAll] at found follows
  obtain ⟨before, known, rfl⟩ := Option.map_eq_some_iff.mp found
  obtain ⟨after, led, rfl⟩ := Option.map_eq_some_iff.mp follows
  rw [replacedBy_revoke] at replaced
  rw [createdAt_revoke, createdAt_revoke]
  exact inOrder id successor before after known replaced led

/-- Along a chain of a ledger in order no record is older than an earlier one. -/
theorem IsChain.pairwise {c : List Record} (chain : IsChain c) (sound : l.Sound)
    (inOrder : l.InOrder) (within : ∀ r ∈ c, r ∈ l.records) :
    c.Pairwise fun a b => a.createdAt ≤ b.createdAt := by
  induction chain with
  | last _ => exact List.pairwise_singleton _ _
  | @link r next rest _ replaced _ _ ih =>
    have ordered := ih fun a inside => within a (.tail r inside)
    have first := inOrder r.tokenId next.tokenId r next (sound.keyed (within r (.head _))) replaced
      (sound.keyed (within next (.tail r (.head _))))
    refine List.pairwise_cons.mpr ⟨fun a inside => ?_, ordered⟩
    rcases List.mem_cons.mp inside with rfl | later
    · exact first
    · exact Instant.le_trans first ((List.pairwise_cons.mp ordered).1 a later)

end Ledger

end SessionTokens
