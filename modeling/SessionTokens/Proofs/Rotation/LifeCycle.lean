import SessionTokens.Proofs.Rotation.Logout
import SessionTokens.Proofs.Rotation.Opening

set_option autoImplicit false

namespace SessionTokens.Rotation

variable {codec : Codec}

/-- The one change in the life of a record, by the last step of a request. The ledger is `l` before
the step and `l'` after it. -/
inductive Turn (codec : Codec) (l l' : Ledger) (r : Record) :
    Request → Program Outcome → Record → Prop
  | replaced {token successor : String} {child : Record} {account : Account}
      (reads : Reads codec token r.tokenId) (unrevoked : r.revoked = false)
      (unreplaced : r.replacedBy = none) (new : l.find? child.tokenId = none)
      (added : l'.find? child.tokenId = some child) :
      Turn codec l l' r (.rotate token) (.done (.ok (.rotated ⟨successor, child, account⟩)))
        { r with revoked := true, replacedBy := some child.tokenId }
  | revoked {count : Nat} (unrevoked : r.revoked = false) (unreplaced : r.replacedBy = none) :
      Turn codec l l' r (.revokeAll r.owner) (.done (.ok (.revoked count)))
        { r with revoked := true }

theorem unreplaced_of_unrevoked {l : Ledger} (sound : l.Sound) {r : Record}
    (member : r ∈ l.records) (unrevoked : r.revoked = false) : r.replacedBy = none := by
  cases replaced : r.replacedBy with
  | none => rfl
  | some child =>
    have revoked := (sound.linked member replaced).1
    rw [unrevoked] at revoked
    cases revoked

/-- A logout revokes what its user has, and only that. -/
theorem turn_revokeAll {l : Ledger} (sound : l.Sound) (user : UserId) {r : Record}
    (member : r ∈ l.records) (count : Nat) :
    Ledger.revoke user r = r ∨
      Turn codec l (l.revokeAll user).2 r (.revokeAll user) (.done (.ok (.revoked count)))
        (Ledger.revoke user r) := by
  cases state : Ledger.isOpen user r with
  | false =>
    left
    rw [Ledger.revoke, state, if_neg Bool.false_ne_true]
  | true =>
    right
    rw [Ledger.revoke, state, if_pos rfl]
    simp only [Ledger.isOpen, Bool.and_eq_true, beq_iff_eq, Bool.not_eq_true'] at state
    obtain ⟨rfl, unrevoked⟩ := state
    exact .revoked unrevoked (unreplaced_of_unrevoked sound member unrevoked)

/-- Whatever a request does in one step, every record is still there and has at most taken its
turn. -/
theorem Deed.turn {request : Request} {l l' : Ledger} {rest : Program Outcome}
    (deed : Deed codec request l l' rest) (sound : l.Sound) {r : Record} (member : r ∈ l.records) :
    ∃ r', l'.find? r.tokenId = some r' ∧ (r' = r ∨ Turn codec l l' r request rest r') := by
  have found := sound.keyed member
  cases deed with
  | nothing _ => exact ⟨r, found, Or.inl rfl⟩
  | @issue _ _ record _ _ _ stored =>
    have fresh := ((Ledger.insert_ok_iff _ _ _).mp stored).1
    have other : record.tokenId ≠ r.tokenId := by
      intro same
      rw [same, found] at fresh
      cases fresh
    refine ⟨r, ?_, Or.inl rfl⟩
    rw [Ledger.find?_insert stored, if_neg other, found]
  | @rotate _ id _ _ _ child _ _ reads _ _ _ stored =>
    obtain ⟨fresh, ⟨active, present, unrevoked⟩, -⟩ := (Ledger.rotate_ok_iff _ _ _ _).mp stored
    have other : child.tokenId ≠ r.tokenId := by
      intro same
      rw [same, found] at fresh
      cases fresh
    have place : l'.find? r.tokenId = some (Ledger.replace id child.tokenId r) := by
      rw [Ledger.find?_rotate stored, if_neg other, found, Option.map_some]
    have added : l'.find? child.tokenId = some child := by
      rw [Ledger.find?_rotate stored, if_pos rfl]
    by_cases own : r.tokenId = id
    · subst own
      rw [found] at present
      obtain rfl := Option.some.inj present
      rw [Ledger.replace_same _ rfl] at place
      have unreplaced := unreplaced_of_unrevoked sound member unrevoked
      exact ⟨_, place, Or.inr (.replaced reads unrevoked unreplaced fresh added)⟩
    · rw [Ledger.replace_other _ own] at place
      exact ⟨r, place, Or.inl rfl⟩
  | @revokeAll user =>
    refine ⟨Ledger.revoke user r, ?_, turn_revokeAll sound user member _⟩
    rw [Ledger.find?_revokeAll, found, Option.map_some]

/-- The event is the step of a request by which the record takes its turn. -/
def Turns (codec : Codec) (event : Event Request) (t t' : Service) (r r' : Record) : Prop :=
  ∃ i request e next rest, event = .step i ∧
    t.threads[i]? = some ⟨request, .perform e next⟩ ∧ t'.threads[i]? = some ⟨request, rest⟩ ∧
    Turn codec t.ledger t'.ledger r request rest r'

theorem turns_of_move {t t' : Service} {event : Event Request}
    (moved : t.Move (program codec) (Deed codec) event t') (sound : t.ledger.Sound) {r : Record}
    (member : r ∈ t.ledger.records) :
    ∃ r', t'.ledger.find? r.tokenId = some r' ∧ (r' = r ∨ Turns codec event t t' r r') := by
  cases moved with
  | idle ledger _ =>
    refine ⟨r, ?_, Or.inl rfl⟩
    rw [ledger]
    exact sound.keyed member
  | arrive _ => exact ⟨r, sound.keyed member, Or.inl rfl⟩
  | @act _ _ i request e next answer present deed threads =>
    obtain ⟨r', found, turn⟩ := deed.turn sound member
    obtain ⟨inside, -⟩ := List.getElem?_eq_some_iff.mp present
    refine ⟨r', found, turn.imp_right fun turn => ?_⟩
    refine ⟨i, request, e, next, next answer, rfl, present, ?_, turn⟩
    rw [threads, List.getElem?_set_self inside]

/-- Whatever happens next, every record stays in its place, and it stays as it is or takes its one
turn: an exchange that presents its token replaces it by the child added in that step, or a logout
of its owner revokes it. From then on it is final: it is the same in every later state, and no
request that presents its token and has not succeeded by then ever does. -/
theorem records_turn_once (codec : Codec) (moment : Moment) (supply : Supply)
    (past : List (Event Request)) (event : Event Request) (future : List (Event Request)) :
    let s := (Traffic.start moment supply : Service).run (program codec) past
    let s₁ := s.next (program codec) event
    let t := s.run (program codec) future
    (∀ r ∈ s.ledger.records, ∃ r', s₁.ledger.find? r.tokenId = some r' ∧
      (r' = r ∨ Turns codec event s s₁ r r')) ∧
    ∀ r ∈ s.ledger.records, r.revoked = true →
      t.ledger.find? r.tokenId = some r ∧
      ∀ (token : String) (k : Nat), ReadsOnly codec token r.tokenId →
        (∀ reply : Reply, s.threads[k]? ≠ some ⟨.rotate token, .done (.ok reply)⟩) →
        ∀ reply : Reply, t.threads[k]? ≠ some ⟨.rotate token, .done (.ok reply)⟩ := by
  intro s s₁ t
  have orderly : Orderly codec s := (orderly_start moment supply).run past
  have sound : s.ledger.Sound := sound_run moment supply past
  refine ⟨?_, ?_⟩
  · intro r member
    exact turns_of_move (orderly.next event).1 sound member
  · intro r member revoked
    have found := sound.keyed member
    refine ⟨(orderly.keeps_run future).find?_revoked found revoked, ?_⟩
    intro token k only unfinished
    exact barred_run orderly only found revoked unfinished future

/-- An exchange replaces a first record, and presenting its token once more does nothing. -/
theorem first_record_turns_once :
    ∃ (token : String) (r child : Record),
      let s := (Traffic.start Sample.moment .counting : Service).run (program Sample.codec)
        (opening Sample.directory Sample.user token)
      let s₁ := s.next (program Sample.codec) (.step 1)
      let spent : Record := { r with revoked := true, replacedBy := some child.tokenId }
      let t := s₁.run (program Sample.codec)
        (.arrive (.rotate token) :: List.replicate 8 (.step 2))
      r ∈ s.ledger.records ∧ s₁.ledger.find? r.tokenId = some spent ∧
      Turns Sample.codec (.step 1) s s₁ r spent ∧
      t.ledger.find? r.tokenId = some spent ∧
      ∀ reply : Reply, t.threads[2]? ≠ some ⟨.rotate token, .done (.ok reply)⟩ := by
  obtain ⟨token, _, r, child, _, -, unrevoked, only, other, before, after⟩ :=
    exists_first_exchange Sample.made Sample.paired Sample.user Sample.moment Sample.directory
      .counting ⟨_, rfl, rfl⟩ Sample.mintable (by decide) (by decide) (by decide)
  let spent : Record := { r with revoked := true, replacedBy := some child.tokenId }
  have replaced : Ledger.replace r.tokenId child.tokenId r = spent := Ledger.replace_same _ rfl
  have place : Ledger.find? ⟨[spent, child]⟩ r.tokenId = some spent := by
    rw [Ledger.find?, List.find?_cons_of_pos]
    exact beq_self_eq_true r.tokenId
  have turned : spent ≠ r := by
    intro same
    have revoked := congrArg Record.revoked same
    rw [unrevoked] at revoked
    cases revoked
  have once := (records_turn_once Sample.codec Sample.moment .counting
    (opening Sample.directory Sample.user token) (.step 1) []).1 r
  have final := (records_turn_once Sample.codec Sample.moment .counting
    (opening Sample.directory Sample.user token ++ [.step 1]) (.step 1)
    (.arrive (.rotate token) :: List.replicate 8 (.step 2))).2 spent
  rw [replaced] at after
  rw [Traffic.run_append, Traffic.run_cons, Traffic.run_nil, after] at final
  rw [before] at once after
  rw [after] at once
  refine ⟨token, r, child, ?_⟩
  dsimp only
  rw [before, after]
  obtain ⟨r', found, turns⟩ := once (List.mem_singleton_self r)
  rw [Traffic.ledger, place] at found
  obtain rfl : spent = r' := Option.some.inj found
  obtain ⟨kept, barred⟩ := final List.mem_cons_self rfl
  refine ⟨List.mem_singleton_self r, place, turns.resolve_left turned, kept, ?_⟩
  apply barred token 2 only
  intro reply present
  cases present

end SessionTokens.Rotation
