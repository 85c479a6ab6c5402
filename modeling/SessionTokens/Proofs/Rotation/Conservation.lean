import SessionTokens.Proofs.Ledger.Census
import SessionTokens.Proofs.Rotation.Logout
import SessionTokens.Proofs.Rotation.Opening
import SessionTokens.Proofs.Traffic.Results

set_option autoImplicit false

namespace SessionTokens.Rotation

variable {codec : Codec}

/-- A first token of the user. -/
def issuedTo (user : UserId) : Request × Outcome → Bool
  | (.issue owner, .ok (.issued _)) => owner == user
  | _ => false

/-- An exchange of a token of the user. -/
def exchangedFor (user : UserId) : Request × Outcome → Bool
  | (.rotate _, .ok (.rotated made)) => made.account.id == user
  | _ => false

/-- How many records of the user a logout says it has revoked. -/
def revokedFrom (user : UserId) : Request × Outcome → Nat
  | (.revokeAll owner, .ok (.revoked count)) => if owner = user then count else 0
  | _ => 0

/-- Results that agree with the records of a user. -/
structure Balanced (user : UserId) (results : List (Request × Outcome)) (l : Ledger) : Prop where
  opens : results.countP (issuedTo user) =
    l.records.countP (Ledger.isOpen user) + (results.map (revokedFrom user)).sum
  owns : l.records.countP (Ledger.isOwn user) =
    results.countP (issuedTo user) + results.countP (exchangedFor user)

variable {user : UserId} {results results' : List (Request × Outcome)} {l l' : Ledger}

theorem Balanced.perm (balanced : Balanced user results l) (same : results'.Perm results) :
    Balanced user results' l where
  opens := by
    rw [same.countP_eq, (same.map _).sum_nat]
    exact balanced.opens
  owns := by
    rw [same.countP_eq, same.countP_eq]
    exact balanced.owns

/-- One more result keeps the balance if it agrees with what has become of the records. -/
theorem Balanced.cons (balanced : Balanced user results l) {result : Request × Outcome}
    (opens : [result].countP (issuedTo user) + l.records.countP (Ledger.isOpen user) =
      l'.records.countP (Ledger.isOpen user) + revokedFrom user result)
    (owns : l'.records.countP (Ledger.isOwn user) = l.records.countP (Ledger.isOwn user) +
      [result].countP (issuedTo user) + [result].countP (exchangedFor user)) :
    Balanced user (result :: results) l' where
  opens := by
    have before := balanced.opens
    rw [← List.singleton_append, List.countP_append, List.map_append, List.sum_append,
      List.map_singleton, List.sum_singleton]
    omega
  owns := by
    have before := balanced.owns
    rw [← List.singleton_append, List.countP_append, List.countP_append]
    omega

/-- A request that ends without a reply says nothing of any user. -/
theorem Balanced.unfinished (balanced : Balanced user results l) {request : Request}
    {rest : Program Outcome} (unfinished : ∀ reply, rest ≠ .done (.ok reply)) :
    Balanced user ((Traffic.ended ⟨request, rest⟩).toList ++ results) l := by
  cases rest with
  | perform e next => exact balanced
  | done outcome =>
    cases outcome with
    | ok reply => exact absurd rfl (unfinished reply)
    | error fault =>
      refine balanced.cons ?_ ?_
      · cases request <;> exact Nat.zero_add _
      · cases request <;> rfl

theorem Balanced.issue (balanced : Balanced user results l) {owner : UserId} {token : String}
    {record : Record} (minted : Minted codec owner token record)
    (stored : l.insert record = .ok l') :
    Balanced user ((.issue owner, .ok (.issued ⟨token, record⟩)) :: results) l' := by
  obtain ⟨⟨unrevoked, -⟩, rfl⟩ := minted.isNew
  apply balanced.cons
  · rw [Ledger.countP_insert _ stored, List.countP_singleton, List.countP_singleton,
      Ledger.isOpen_of_unrevoked user unrevoked]
    exact Nat.add_comm _ _
  · rw [Ledger.countP_insert _ stored]
    rfl

theorem Balanced.rotate (balanced : Balanced user results l) (sound : l.Sound)
    {token successor : String} {id : TokenId} {record child : Record} {account : Account}
    (found : l.find? id = some record) (same : account.id = record.owner)
    (minted : Minted codec account.id successor child) (stored : l.rotate id child = .ok l') :
    Balanced user ((.rotate token, .ok (.rotated ⟨successor, child, account⟩)) :: results) l' := by
  obtain ⟨⟨unrevoked, -⟩, own⟩ := minted.isNew
  apply balanced.cons
  · rw [Ledger.countP_isOpen_rotate user sound.distinct found unrevoked (own.trans same) stored]
    exact Nat.zero_add _
  · rw [Ledger.countP_isOwn_rotate user sound.distinct found stored, List.countP_singleton,
      Ledger.isOwn, own]
    change _ = l.records.countP (Ledger.isOwn user) + 0 + _
    rw [Nat.add_zero, List.countP_singleton]
    rfl

theorem Balanced.revokeAll (balanced : Balanced user results l) (owner : UserId) :
    Balanced user ((.revokeAll owner, .ok (.revoked (l.revokeAll owner).1)) :: results)
      (l.revokeAll owner).2 := by
  apply balanced.cons
  · by_cases own : owner = user
    · subst own
      rw [revokedFrom, if_pos rfl, Ledger.countP_isOpen_revokeAll]
      rfl
    · rw [revokedFrom, if_neg own, Ledger.countP_isOpen_revokeAll_other own]
      exact Nat.zero_add _
  · rw [Ledger.countP_isOwn_revokeAll]
    rfl

/-- Every deed keeps the balance. -/
theorem Deed.balanced {request : Request} {rest : Program Outcome}
    (deed : Deed codec request l l' rest) (sound : l.Sound) (balanced : Balanced user results l) :
    Balanced user ((Traffic.ended ⟨request, rest⟩).toList ++ results) l' := by
  cases deed with
  | nothing unfinished => exact balanced.unfinished unfinished
  | issue minted stored => exact balanced.issue minted stored
  | rotate _ found same minted stored => exact balanced.rotate sound found same minted stored
  | revokeAll => exact balanced.revokeAll _

/-- The record that an exchange has replaced by its child. -/
def Replaced (codec : Codec) (l : Ledger) (token : String) (made : Rotated) : Prop :=
  ∃ id r, Reads codec token id ∧ l.find? id = some r ∧ r.owner = made.account.id ∧
    r.revoked = true ∧ r.replacedBy = some made.record.tokenId

theorem Replaced.later {token : String} {made : Rotated} (replaced : Replaced codec l token made)
    (keeps : l.Keeps l') : Replaced codec l' token made := by
  obtain ⟨id, r, reads, found, own, revoked, link⟩ := replaced
  exact ⟨id, r, reads, keeps.find?_revoked found revoked, own, revoked, link⟩

theorem Deed.replaced {request : Request} {token : String} {made : Rotated}
    (deed : Deed codec request l l' (.done (.ok (.rotated made))))
    (asked : request = .rotate token) : Replaced codec l' token made := by
  cases deed with
  | nothing unfinished => exact absurd rfl (unfinished _)
  | @rotate token id record account successor child _ _ reads found same _ stored =>
    cases asked
    obtain ⟨fresh, -, -⟩ := (Ledger.rotate_ok_iff _ _ _ _).mp stored
    have other : child.tokenId ≠ id := by
      intro same
      rw [same, found] at fresh
      cases fresh
    refine ⟨id, Ledger.replace id child.tokenId record, reads, ?_, ?_, ?_, ?_⟩
    · rw [Ledger.find?_rotate stored, if_neg other, found, Option.map_some]
    · rw [Ledger.owner_replace, same]
    · rw [Ledger.replace_same _ (Ledger.tokenId_of_find? found)]
    · rw [Ledger.replace_same _ (Ledger.tokenId_of_find? found)]

/-- What holds of the results and the ledger together after every run. -/
structure Accounted (codec : Codec) (t : Service) : Prop where
  sound : t.ledger.Sound
  balanced : ∀ user, Balanced user t.results t.ledger
  replaced : ∀ token made, (.rotate token, .ok (.rotated made)) ∈ t.results →
    Replaced codec t.ledger token made

theorem accounted_start (moment : Moment) (supply : Supply) :
    Accounted codec (Traffic.start moment supply) where
  sound := .nil
  balanced := fun _ => ⟨rfl, rfl⟩
  replaced := fun _ _ member => nomatch member

theorem Accounted.move {t t' : Service} {event : Event Request} (accounted : Accounted codec t)
    (moved : t.Move (program codec) (Deed codec) event t') : Accounted codec t' := by
  have sound := sound_of_move moved accounted.sound
  have keeps := keeps_of_move moved
  rcases moved.results program_ne_done with ⟨same, kept⟩ | ⟨request, rest, deed, grown⟩
  · refine ⟨sound, ?_, ?_⟩
    · rw [same, kept]
      exact accounted.balanced
    · rw [same, kept]
      exact accounted.replaced
  · refine ⟨sound, fun user => ?_, fun token made member => ?_⟩
    · exact (deed.balanced accounted.sound (accounted.balanced user)).perm grown
    · rcases List.mem_append.mp (grown.mem_iff.mp member) with new | old
      · obtain ⟨rfl, rfl⟩ := Thread.mk.inj (Traffic.ended_eq_some.mp (Option.mem_toList.mp new))
        exact deed.replaced rfl
      · exact (accounted.replaced token made old).later keeps

theorem accounted_run (moment : Moment) (supply : Supply) (events : List (Event Request)) :
    Accounted codec ((Traffic.start moment supply : Service).run (program codec) events) :=
  (orderly_start moment supply).run_induction (accounted_start moment supply)
    (fun _ _ _ _ moved accounted => accounted.move moved) events

theorem ledger_run_of_silent (t : Service) {events : List (Event Request)}
    (silent : ∀ k, .step k ∉ events) : (t.run (program codec) events).ledger = t.ledger := by
  induction events generalizing t with
  | nil => rfl
  | cons event events ih =>
    rw [Traffic.run_cons, ih _ fun k later => silent k (List.mem_cons_of_mem _ later)]
    cases event with
    | step k => exact absurd List.mem_cons_self (silent k)
    | _ => rfl

/-- A logout answers with the number of records it closes. -/
theorem answer_of_revokeAll {s : Service} {i : Nat}
    (pending : s.threads[i]? = some ⟨.revokeAll user, program codec (.revokeAll user)⟩) :
    (s.next (program codec) (.step i)).threads[i]? =
      some ⟨.revokeAll user, .done (.ok (.revoked (s.ledger.records.countP
        (Ledger.isOpen user))))⟩ := by
  obtain ⟨inside, -⟩ := List.getElem?_eq_some_iff.mp pending
  rw [step_revokeAll pending]
  exact List.getElem?_set_self inside

/-- In every state of every run, what was issued to a user is what the user has open and the sum of
what logouts of the user have returned; all that the user has was issued or exchanged, each exchange
having replaced a record of the same user. A logout returns how many records its user has open,
expired ones as well; it leaves none open and leaves those of other users as they are; and another
one, with no step in between, returns zero. -/
theorem sessions_are_conserved (codec : Codec) (moment : Moment) (supply : Supply)
    (events : List (Event Request)) (user : UserId) :
    let s := (Traffic.start moment supply : Service).run (program codec) events
    let logout : Thread Request Outcome := ⟨.revokeAll user, program codec (.revokeAll user)⟩
    s.results.countP (issuedTo user) =
      s.ledger.records.countP (Ledger.isOpen user) + (s.results.map (revokedFrom user)).sum ∧
    s.ledger.records.countP (Ledger.isOwn user) =
      s.results.countP (issuedTo user) + s.results.countP (exchangedFor user) ∧
    (∀ token made, (.rotate token, .ok (.rotated made)) ∈ s.results →
      Replaced codec s.ledger token made) ∧
    ∀ i, s.threads[i]? = some logout →
      let s₁ := s.next (program codec) (.step i)
      s₁.threads[i]? = some ⟨.revokeAll user, .done (.ok (.revoked
        (s.ledger.records.countP (Ledger.isOpen user))))⟩ ∧
      s₁.ledger.records.countP (Ledger.isOpen user) = 0 ∧
      s₁.ledger.records.filter (fun r => !Ledger.isOwn user r) =
        s.ledger.records.filter (fun r => !Ledger.isOwn user r) ∧
      ∀ quiet : List (Event Request), (∀ k, .step k ∉ quiet) →
        let s₂ := s₁.run (program codec) quiet
        ∀ k, s₂.threads[k]? = some logout →
          (s₂.next (program codec) (.step k)).threads[k]? =
            some ⟨.revokeAll user, .done (.ok (.revoked 0))⟩ := by
  intro s logout
  have accounted : Accounted codec s := accounted_run moment supply events
  obtain ⟨-, balanced, replaced⟩ := accounted
  refine ⟨(balanced user).opens, (balanced user).owns, replaced, ?_⟩
  intro i pending s₁
  have closed : s₁.ledger.records.countP (Ledger.isOpen user) = 0 := by
    simp only [s₁, step_revokeAll pending]
    exact Ledger.countP_isOpen_revokeAll user s.ledger
  refine ⟨answer_of_revokeAll pending, closed, ?_, ?_⟩
  · simp only [s₁, step_revokeAll pending]
    exact Ledger.filter_not_isOwn_revokeAll user s.ledger
  · intro quiet silent s₂ k pending'
    have answered := answer_of_revokeAll pending'
    rw [ledger_run_of_silent s₁ silent, closed] at answered
    exact answered

/-- A first token, its exchange and two logouts, of which the second finds nothing open. -/
theorem one_session_is_conserved :
    ∃ token : String,
      let events := opening Sample.directory Sample.user token ++
        [.step 1, .arrive (.revokeAll Sample.user)]
      let s := (Traffic.start Sample.moment .counting : Service).run (program Sample.codec) events
      s.results.countP (issuedTo Sample.user) = 1 ∧
      s.ledger.records.countP (Ledger.isOpen Sample.user) = 1 ∧
      s.ledger.records.countP (Ledger.isOwn Sample.user) = 2 ∧
      let s₁ := s.next (program Sample.codec) (.step 2)
      s₁.threads[2]? = some ⟨.revokeAll Sample.user, .done (.ok (.revoked 1))⟩ ∧
      let s₂ := s₁.run (program Sample.codec) [.arrive (.revokeAll Sample.user)]
      (s₂.next (program Sample.codec) (.step 3)).threads[3]? =
        some ⟨.revokeAll Sample.user, .done (.ok (.revoked 0))⟩ := by
  obtain ⟨token, successor, r, child, account, own, -, only, -, before, after⟩ :=
    exists_first_exchange Sample.made Sample.paired Sample.user Sample.moment Sample.directory
      .counting ⟨_, rfl, rfl⟩ Sample.mintable (by decide) (by decide) (by decide)
  let spent : Record := Ledger.replace r.tokenId child.tokenId r
  let issued : Request × Outcome := (.issue Sample.user, .ok (.issued ⟨token, r⟩))
  let exchanged : Request × Outcome := (.rotate token, .ok (.rotated ⟨successor, child, account⟩))
  let logout : Thread Request Outcome :=
    ⟨.revokeAll Sample.user, program Sample.codec (.revokeAll Sample.user)⟩
  have conserved := sessions_are_conserved Sample.codec Sample.moment .counting
    (opening Sample.directory Sample.user token ++ [.step 1, .arrive (.revokeAll Sample.user)])
    Sample.user
  rw [before] at after
  refine ⟨token, ?_⟩
  dsimp only at conserved ⊢
  rw [Traffic.run_append, Traffic.run_cons, Traffic.run_cons, Traffic.run_nil, before, after]
    at conserved ⊢
  generalize reached : Traffic.next _ _ (Event.arrive (Request.revokeAll Sample.user)) = s
    at conserved ⊢
  have records : s.ledger.records = [spent, child] := by rw [← reached]; rfl
  have results : s.results = [issued, exchanged] := by
    rw [← reached]
    simp only [Traffic.results, Traffic.next, List.cons_append, List.nil_append,
      List.filterMap_cons, List.filterMap_nil]
    rfl
  have waiting : s.threads[2]? = some logout := by rw [← reached]; rfl
  clear before after
  obtain ⟨opens, owns, replaced, returns⟩ := conserved
  rw [results] at opens owns replaced ⊢
  obtain ⟨id, r', reads, found, same, -, -⟩ :=
    replaced token ⟨successor, child, account⟩ (List.mem_cons_of_mem _ List.mem_cons_self)
  have owner : account.id = Sample.user := by
    have place : s.ledger.find? r.tokenId = some spent := by
      rw [Ledger.find?, records, List.find?_cons_of_pos]
      exact beq_iff_eq.mpr (Ledger.tokenId_replace _ _ _)
    rw [only id reads, place] at found
    obtain rfl : spent = r' := Option.some.inj found
    rw [← own, ← Ledger.owner_replace r.tokenId child.tokenId r]
    exact same.symm
  obtain ⟨returned, -, -, again⟩ := returns 2 waiting
  have one : [issued, exchanged].countP (issuedTo Sample.user) = 1 := rfl
  have exchange : [issued, exchanged].countP (exchangedFor Sample.user) = 1 := by
    simp [issued, exchanged, exchangedFor, owner]
  have none : ([issued, exchanged].map (revokedFrom Sample.user)).sum = 0 := rfl
  rw [one, none, Nat.add_zero] at opens
  rw [one, exchange] at owns
  rw [← opens] at returned
  refine ⟨one, opens.symm, owns, returned, ?_⟩
  refine again [.arrive (.revokeAll Sample.user)] (by simp) 3 ?_
  rw [step_revokeAll waiting, ← reached]
  rfl

end SessionTokens.Rotation
