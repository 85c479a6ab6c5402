import SessionTokens.Proofs.Ledger.Lookup

set_option autoImplicit false

namespace SessionTokens.Ledger

theorem countP_insert (p : Record → Bool) {l l' : Ledger} {r : Record}
    (inserted : l.insert r = .ok l') :
    l'.records.countP p = l.records.countP p + [r].countP p := by
  obtain ⟨-, rfl⟩ := (insert_ok_iff l l' r).mp inserted
  exact List.countP_append

/-- A record in its place among others. -/
theorem split_of_find? {l : Ledger} (distinct : (l.records.map Record.tokenId).Nodup) {id : TokenId}
    {r : Record} (found : l.find? id = some r) :
    ∃ before after, l.records = before ++ r :: after ∧
      ∀ a ∈ before ++ after, a.tokenId ≠ id := by
  obtain rfl := tokenId_of_find? found
  obtain ⟨before, after, whole⟩ := List.append_of_mem (mem_of_find? found)
  refine ⟨before, after, whole, ?_⟩
  have apart : (r :: (before ++ after)).map Record.tokenId |>.Nodup := by
    refine List.Perm.nodup ?_ distinct
    rw [whole]
    exact List.perm_middle.map Record.tokenId
  rw [List.map_cons, List.nodup_cons] at apart
  intro a member same
  exact apart.1 (same ▸ List.mem_map_of_mem member)

/-- A rotation puts two records in the place of one. -/
theorem countP_rotate (p : Record → Bool) {l l' : Ledger}
    (distinct : (l.records.map Record.tokenId).Nodup) {old : TokenId} {r child : Record}
    (found : l.find? old = some r) (rotated : l.rotate old child = .ok l') :
    l'.records.countP p + [r].countP p =
      l.records.countP p + [replace old child.tokenId r, child].countP p := by
  obtain ⟨-, -, rfl⟩ := (rotate_ok_iff l l' old child).mp rotated
  obtain ⟨before, after, whole, others⟩ := split_of_find? distinct found
  rw [List.forall_mem_append] at others
  simp only [whole, List.map_append, List.map_cons, map_replace_other child.tokenId others.1,
    map_replace_other child.tokenId others.2, List.countP_append, List.countP_cons,
    List.countP_nil]
  omega

theorem isOpen_of_revoked (user : UserId) {r : Record} (revoked : r.revoked = true) :
    isOpen user r = false := by
  rw [isOpen, revoked, Bool.not_true, Bool.and_false]

theorem isOpen_of_unrevoked (user : UserId) {r : Record} (unrevoked : r.revoked = false) :
    isOpen user r = (r.owner == user) := by
  rw [isOpen, unrevoked, Bool.not_false, Bool.and_true]

theorem isOpen_revoke_self (user : UserId) (r : Record) : isOpen user (revoke user r) = false := by
  by_cases own : r.owner = user
  · exact isOpen_of_revoked user (revoked_revoke own)
  · rw [revoke_other own, isOpen, beq_eq_false_iff_ne.mpr own, Bool.false_and]

theorem isOpen_revoke_other {user other : UserId} (different : other ≠ user) (r : Record) :
    isOpen user (revoke other r) = isOpen user r := by
  by_cases own : r.owner = other
  · rw [isOpen, isOpen, owner_revoke, own, beq_eq_false_iff_ne.mpr different, Bool.false_and,
      Bool.false_and]
  · rw [revoke_other own]

/-- The child of a rotation is open in the place of the record it replaces. -/
theorem countP_isOpen_rotate (user : UserId) {l l' : Ledger}
    (distinct : (l.records.map Record.tokenId).Nodup) {old : TokenId} {r child : Record}
    (found : l.find? old = some r) (unrevoked : child.revoked = false)
    (own : child.owner = r.owner) (rotated : l.rotate old child = .ok l') :
    l'.records.countP (isOpen user) = l.records.countP (isOpen user) := by
  obtain ⟨-, ⟨r', found', active⟩, -⟩ := (rotate_ok_iff l l' old child).mp rotated
  obtain rfl : r = r' := Option.some.inj (found.symm.trans found')
  have balance := countP_rotate (isOpen user) distinct found rotated
  have closed : isOpen user (replace old child.tokenId r) = false := by
    rw [replace_same child.tokenId (tokenId_of_find? found)]
    exact isOpen_of_revoked user rfl
  simp only [List.countP_cons, List.countP_nil, closed, isOpen_of_unrevoked user unrevoked,
    isOpen_of_unrevoked user active, own, Bool.false_eq_true, if_false] at balance
  omega

theorem countP_isOpen_revokeAll (user : UserId) (l : Ledger) :
    (l.revokeAll user).2.records.countP (isOpen user) = 0 := by
  rw [List.countP_eq_zero]
  intro r member
  obtain ⟨before, -, rfl⟩ := List.mem_map.mp member
  rw [isOpen_revoke_self]
  exact Bool.false_ne_true

theorem countP_isOpen_revokeAll_other {user other : UserId} (different : other ≠ user)
    (l : Ledger) :
    (l.revokeAll other).2.records.countP (isOpen user) = l.records.countP (isOpen user) := by
  rw [revokeAll, List.countP_map]
  refine List.countP_congr fun r _ => ?_
  rw [Function.comp_apply, isOpen_revoke_other different]

/-- A record of a user, open or not. -/
def isOwn (user : UserId) (r : Record) : Bool :=
  r.owner == user

@[simp] theorem isOwn_replace (user : UserId) (old child : TokenId) (r : Record) :
    isOwn user (replace old child r) = isOwn user r := by
  rw [isOwn, isOwn, owner_replace]

@[simp] theorem isOwn_revoke (user other : UserId) (r : Record) :
    isOwn user (revoke other r) = isOwn user r := by
  rw [isOwn, isOwn, owner_revoke]

theorem countP_isOwn_rotate (user : UserId) {l l' : Ledger}
    (distinct : (l.records.map Record.tokenId).Nodup) {old : TokenId} {r child : Record}
    (found : l.find? old = some r) (rotated : l.rotate old child = .ok l') :
    l'.records.countP (isOwn user) =
      l.records.countP (isOwn user) + [child].countP (isOwn user) := by
  have balance := countP_rotate (isOwn user) distinct found rotated
  simp only [List.countP_cons, List.countP_nil, isOwn_replace] at balance ⊢
  omega

theorem countP_isOwn_revokeAll (user other : UserId) (l : Ledger) :
    (l.revokeAll other).2.records.countP (isOwn user) = l.records.countP (isOwn user) := by
  rw [revokeAll, List.countP_map]
  refine List.countP_congr fun r _ => ?_
  rw [Function.comp_apply, isOwn_revoke]

/-- A logout leaves the records of other users as they are. -/
theorem filter_not_isOwn_revokeAll (user : UserId) (l : Ledger) :
    (l.revokeAll user).2.records.filter (fun r => !isOwn user r) =
      l.records.filter fun r => !isOwn user r := by
  have same : (fun r => !isOwn user r) ∘ revoke user = fun r => !isOwn user r := by
    funext r
    rw [Function.comp_apply, isOwn_revoke]
  have kept : ∀ r ∈ l.records.filter fun r => !isOwn user r, revoke user r = r := by
    intro r member
    have others := (List.mem_filter.mp member).2
    rw [isOwn, Bool.not_eq_true', beq_eq_false_iff_ne] at others
    exact revoke_other others
  rw [revokeAll, List.filter_map, same, List.map_congr_left kept, List.map_id']

end SessionTokens.Ledger
