import SessionTokens.Ledger

set_option autoImplicit false

namespace SessionTokens.Ledger

theorem insert_ok_iff (l l' : Ledger) (r : Record) :
    l.insert r = .ok l' ↔ l.find? r.tokenId = none ∧ l' = ⟨l.records ++ [r]⟩ := by
  unfold insert has
  cases found : l.find? r.tokenId with
  | none => simp [eq_comm]
  | some old => simp

theorem rotate_ok_iff (l l' : Ledger) (old : TokenId) (child : Record) :
    l.rotate old child = .ok l' ↔
      l.find? child.tokenId = none ∧ (∃ r, l.find? old = some r ∧ r.revoked = false) ∧
        l' = ⟨l.records.map (replace old child.tokenId) ++ [child]⟩ := by
  unfold rotate has
  cases taken : l.find? child.tokenId with
  | some r => simp
  | none =>
    cases found : l.find? old with
    | none => simp
    | some r =>
      cases revoked : r.revoked with
      | false => simp [revoked, eq_comm (b := l')]
      | true => simp [revoked]

theorem rotate_of_taken {l : Ledger} {child other : Record}
    (taken : l.find? child.tokenId = some other) (old : TokenId) :
    l.rotate old child = .error (.duplicate child.tokenId) := by
  rw [rotate, has, taken]
  rfl

/-- A rotation is refused for the first of three causes. -/
theorem rotate_error (l : Ledger) (old : TokenId) (child : Record)
    (fresh : l.find? child.tokenId = none) :
    (l.rotate old child = .error (.notFound old) ∧ l.find? old = none) ∨
      (l.rotate old child = .error (.alreadyRevoked old) ∧
        ∃ r, l.find? old = some r ∧ r.revoked = true) ∨
      (∃ l', l.rotate old child = .ok l') := by
  unfold rotate has
  cases found : l.find? old with
  | none => simp [fresh]
  | some r => cases revoked : r.revoked <;> simp [fresh, revoked]

@[simp] theorem tokenId_replace (old child : TokenId) (r : Record) :
    (replace old child r).tokenId = r.tokenId := by
  unfold replace
  split <;> rfl

@[simp] theorem owner_replace (old child : TokenId) (r : Record) :
    (replace old child r).owner = r.owner := by
  unfold replace
  split <;> rfl

@[simp] theorem createdAt_replace (old child : TokenId) (r : Record) :
    (replace old child r).createdAt = r.createdAt := by
  unfold replace
  split <;> rfl

theorem replace_other {old : TokenId} (child : TokenId) {r : Record} (other : r.tokenId ≠ old) :
    replace old child r = r := by
  simp [replace, other]

theorem map_replace_other {old : TokenId} (child : TokenId) {records : List Record}
    (others : ∀ r ∈ records, r.tokenId ≠ old) : records.map (replace old child) = records := by
  have same := List.map_congr_left (fun r member => replace_other child (others r member))
  rw [same]
  exact List.map_id' records

theorem replace_same {old : TokenId} (child : TokenId) {r : Record} (same : r.tokenId = old) :
    replace old child r = { r with revoked := true, replacedBy := some child } := by
  simp [replace, same]

@[simp] theorem tokenId_revoke (user : UserId) (r : Record) :
    (revoke user r).tokenId = r.tokenId := by
  unfold revoke
  split <;> rfl

@[simp] theorem owner_revoke (user : UserId) (r : Record) : (revoke user r).owner = r.owner := by
  unfold revoke
  split <;> rfl

@[simp] theorem replacedBy_revoke (user : UserId) (r : Record) :
    (revoke user r).replacedBy = r.replacedBy := by
  unfold revoke
  split <;> rfl

@[simp] theorem createdAt_revoke (user : UserId) (r : Record) :
    (revoke user r).createdAt = r.createdAt := by
  unfold revoke
  split <;> rfl

theorem revoke_of_revoked (user : UserId) {r : Record} (revoked : r.revoked = true) :
    revoke user r = r := by
  simp [revoke, isOpen, revoked]

theorem revoked_revoke {user : UserId} {r : Record} (own : r.owner = user) :
    (revoke user r).revoked = true := by
  cases revoked : r.revoked <;> simp [revoke, isOpen, own, revoked]

theorem revoke_other {user : UserId} {r : Record} (other : r.owner ≠ user) :
    revoke user r = r := by
  simp [revoke, isOpen, other]

/-- A change of records that keeps their identifiers changes what is found and not where. -/
theorem find?_map (l : Ledger) (f : Record → Record) (keeps : ∀ r, (f r).tokenId = r.tokenId)
    (id : TokenId) : find? ⟨l.records.map f⟩ id = (l.find? id).map f := by
  have same : ((fun r : Record => r.tokenId == id) ∘ f) = fun r => r.tokenId == id := by
    funext r
    simp only [Function.comp_apply, keeps]
  simp only [find?, List.find?_map, same]

theorem find?_append (l : Ledger) (r : Record) (id : TokenId) :
    find? ⟨l.records ++ [r]⟩ id = (l.find? id).or (if r.tokenId = id then some r else none) := by
  simp only [find?, List.find?_append, List.find?_cons, List.find?_nil]
  by_cases same : r.tokenId = id
  · simp [same]
  · rw [beq_eq_false_iff_ne.mpr same, if_neg same]

theorem find?_insert {l l' : Ledger} {r : Record} (inserted : l.insert r = .ok l') (id : TokenId) :
    l'.find? id = if r.tokenId = id then some r else l.find? id := by
  obtain ⟨fresh, rfl⟩ := (insert_ok_iff l l' r).mp inserted
  rw [find?_append]
  split
  · rename_i same
    rw [← same, fresh, Option.none_or]
  · exact Option.or_none

theorem find?_rotate {l l' : Ledger} {old : TokenId} {child : Record}
    (rotated : l.rotate old child = .ok l') (id : TokenId) :
    l'.find? id = if child.tokenId = id then some child
      else (l.find? id).map (replace old child.tokenId) := by
  obtain ⟨fresh, -, rfl⟩ := (rotate_ok_iff l l' old child).mp rotated
  have moved := find?_append ⟨l.records.map (replace old child.tokenId)⟩ child id
  rw [find?_map l _ (tokenId_replace old child.tokenId)] at moved
  rw [moved]
  split
  · rename_i same
    rw [← same, fresh, Option.map_none, Option.none_or]
  · exact Option.or_none

theorem find?_revokeAll (l : Ledger) (user : UserId) (id : TokenId) :
    (l.revokeAll user).2.find? id = (l.find? id).map (revoke user) :=
  find?_map l (revoke user) (tokenId_revoke user) id

theorem find?_eq_none_iff (l : Ledger) (id : TokenId) :
    l.find? id = none ↔ ∀ r ∈ l.records, r.tokenId ≠ id := by
  simp [find?, List.find?_eq_none]

/-- With distinct identifiers every record is the one found under its own. -/
theorem find?_of_mem {l : Ledger} (distinct : (l.records.map Record.tokenId).Nodup) {r : Record}
    (member : r ∈ l.records) : l.find? r.tokenId = some r := by
  obtain ⟨records⟩ := l
  induction records with
  | nil => cases member
  | cons first rest ih =>
    simp only [List.map_cons, List.nodup_cons] at distinct
    rcases List.mem_cons.mp member with rfl | inRest
    · simp [find?]
    · have other : first.tokenId ≠ r.tokenId := by
        intro same
        exact distinct.1 (same ▸ List.mem_map_of_mem inRest)
      have found := ih distinct.2 inRest
      simpa [find?, other] using found

/-- The records of the second ledger whose identifiers the first does not have. -/
def additions (l l' : Ledger) : List Record :=
  l'.records.filter fun r => !l.has r.tokenId

theorem filter_has (l : Ledger) (records : List Record)
    (old : ∀ r ∈ records, ∃ before ∈ l.records, before.tokenId = r.tokenId) :
    records.filter (fun r => !l.has r.tokenId) = [] := by
  rw [List.filter_eq_nil_iff]
  intro r member
  obtain ⟨before, inside, same⟩ := old r member
  rw [Bool.not_eq_true, Bool.not_eq_false', has, Option.isSome_iff_ne_none]
  intro absent
  exact (find?_eq_none_iff l r.tokenId).mp absent before inside same

theorem additions_self (l : Ledger) : l.additions l = [] :=
  l.filter_has l.records fun r member => ⟨r, member, rfl⟩

theorem additions_rotate {l l' : Ledger} {old : TokenId} {child : Record}
    (stored : l.rotate old child = .ok l') : l.additions l' = [child] := by
  obtain ⟨fresh, -, rfl⟩ := (rotate_ok_iff l l' old child).mp stored
  have kept : (l.records.map (replace old child.tokenId)).filter
      (fun r => !l.has r.tokenId) = [] := by
    refine l.filter_has _ ?_
    intro r member
    obtain ⟨before, inside, rfl⟩ := List.mem_map.mp member
    exact ⟨before, inside, (tokenId_replace old child.tokenId before).symm⟩
  have new : (!l.has child.tokenId) = true := by rw [has, fresh]; rfl
  rw [additions, List.filter_append, kept, List.nil_append]
  exact List.filter_cons_of_pos new

end SessionTokens.Ledger
