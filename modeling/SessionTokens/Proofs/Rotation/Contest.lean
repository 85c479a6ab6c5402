import SessionTokens.Proofs.Rotation.Exchange

set_option autoImplicit false

/- Exchanges of one token at once, step by step. `Racing` is what holds while they are under way.
Until one of them ends the contest is undecided; the first to end has exchanged the record, and
every other one learns of it from the lookup or from the write. -/
namespace SessionTokens

namespace Traffic

variable {ρ α : Type}

/-- The records that an event adds, if it is a step of one of some requests. -/
def addedBy (mine : ρ → Bool) (event : Event ρ) (t t' : Traffic ρ α) : List Record :=
  match event with
  | .step i =>
    if t.threads[i]?.any (fun thread => mine thread.request) then t.ledger.additions t'.ledger
    else []
  | _ => []

/-- The records that the steps of some requests add in a run. -/
def added (program : ρ → Program α) (mine : ρ → Bool) : Traffic ρ α → List (Event ρ) → List Record
  | _, [] => []
  | t, event :: events =>
    t.addedBy mine event (t.next program event) ++ added program mine (t.next program event) events

theorem addedBy_step (mine : ρ → Bool) {i : Nat} {t t' : Traffic ρ α} {thread : Thread ρ α}
    (present : t.threads[i]? = some thread) :
    t.addedBy mine (.step i) t' =
      if mine thread.request then t.ledger.additions t'.ledger else [] := by
  rw [addedBy, present, Option.any_some]

theorem addedBy_same (mine : ρ → Bool) (event : Event ρ) {t t' : Traffic ρ α}
    (same : t'.ledger = t.ledger) : t.addedBy mine event t' = [] := by
  cases event with
  | step i =>
    rw [addedBy, same, Ledger.additions_self, ite_self]
  | _ => rfl

end Traffic

namespace Rotation

variable {codec : Codec} {token : String} {r : Record} {l l' : Ledger} {request : Request}
  {rest : Program Outcome} {t t' : Service} {event : Event Request} {keys : KeyMaterial}
  {settings : CodecSettings}

/-- A deed, and one that settles the matter if it is the last of an exchange of the token. -/
def Exchanging (codec : Codec) (token : String) (r : Record) (request : Request) (l l' : Ledger)
    (rest : Program Outcome) : Prop :=
  Deed codec request l l' rest ∧ (request = .rotate token → Settling r l l' rest)

/-- The request has nothing to do with the record but to exchange its token. -/
def Harmless (codec : Codec) (token : String) (r : Record) (request : Request) : Prop :=
  (∀ other, request = .rotate other → other = token ∨ ¬ Reads codec other r.tokenId) ∧
    request ≠ .revokeAll r.owner

/-- The other exchange came first. -/
def Lost (outcome : Outcome) : Prop :=
  outcome = .error (.refused .tokenReplayed) ∨ outcome = .error (.refused .concurrentRotation)

/-- An exchange ends while the record is unrevoked only by exchanging it. -/
theorem Exchanging.of_active (deed : Exchanging codec token r (.rotate token) l l' rest)
    (found : l.find? r.tokenId = some r) (active : r.revoked = false) :
    (l' = l ∧ ∀ outcome, rest ≠ .done outcome) ∨
      ∃ w, rest = .done (.ok (.rotated w)) ∧ l.rotate r.tokenId w.record = .ok l' := by
  obtain ⟨deed, settling⟩ := deed
  cases rest with
  | perform e next =>
    refine Or.inl ⟨?_, fun _ same => nomatch same⟩
    cases deed
    rfl
  | done outcome =>
    rcases settling rfl outcome rfl with ⟨w, rfl, stored⟩ | ⟨-, -, spent, found', revoked⟩
    · exact Or.inr ⟨w, rfl, stored⟩
    · rw [found] at found'
      obtain rfl := Option.some.inj found'
      rw [active] at revoked
      cases revoked

theorem Exchanging.of_revoked {spent : Record}
    (deed : Exchanging codec token r (.rotate token) l l' rest)
    (found : l.find? r.tokenId = some spent) (revoked : spent.revoked = true) :
    l' = l ∧ ∀ outcome, rest = .done outcome → Lost outcome := by
  obtain ⟨deed, settling⟩ := deed
  cases rest with
  | perform e next =>
    refine ⟨?_, fun _ same => nomatch same⟩
    cases deed
    rfl
  | done outcome =>
    rcases settling rfl outcome rfl with ⟨w, -, stored⟩ | ⟨lost, same, -⟩
    · obtain ⟨-, ⟨active, present, unrevoked⟩, -⟩ := (Ledger.rotate_ok_iff _ _ _ _).mp stored
      rw [found] at present
      obtain rfl := Option.some.inj present
      rw [revoked] at unrevoked
      cases unrevoked
    · refine ⟨same, ?_⟩
      intro _ ended
      rw [← Program.done.inj ended]
      exact lost

/-- Requests that have nothing to do with a record leave it as it is. -/
theorem Deed.find?_eq (deed : Deed codec request l l' rest)
    (harmless : Harmless codec token r request) (other : request ≠ .rotate token)
    (found : l.find? r.tokenId = some r) : l'.find? r.tokenId = some r := by
  have taken : ∀ child : Record, l.find? child.tokenId = none → child.tokenId ≠ r.tokenId := by
    intro child fresh same
    rw [same, found] at fresh
    cases fresh
  cases deed with
  | nothing _ => exact found
  | issue _ stored =>
    have fresh := ((Ledger.insert_ok_iff _ _ _).mp stored).1
    rw [Ledger.find?_insert stored, if_neg (taken _ fresh), found]
  | @rotate presented id _ _ _ child _ _ reads _ _ _ stored =>
    have fresh := ((Ledger.rotate_ok_iff _ _ _ _).mp stored).1
    have elsewhere : r.tokenId ≠ id := by
      rintro rfl
      rcases harmless.1 presented rfl with rfl | silent
      · exact other rfl
      · exact silent reads
    rw [Ledger.find?_rotate stored, if_neg (taken _ fresh), found, Option.map_some,
      Ledger.replace_other _ elsewhere]
  | @revokeAll user =>
    have own : r.owner ≠ user := by
      rintro rfl
      exact harmless.2 rfl
    rw [Ledger.find?_revokeAll, found, Option.map_some, Ledger.revoke_other own]

/-- A request ends between the two states with the token and its record. -/
def Returns (t t' : Service) (i : Nat) (token : String) (r : Record) : Prop :=
  ∃ request e next reply, t.threads[i]? = some ⟨request, .perform e next⟩ ∧
    t'.threads[i]? = some ⟨request, .done (.ok reply)⟩ ∧
    (reply = .issued ⟨token, r⟩ ∨ ∃ account, reply = .rotated ⟨token, r, account⟩)

theorem Deed.returns {reply : Reply} (deed : Deed codec request l l' (.done (.ok reply)))
    (ends : reply = .issued ⟨token, r⟩ ∨ ∃ account, reply = .rotated ⟨token, r, account⟩) :
    Minted codec r.owner token r ∧ l'.find? r.tokenId = some r := by
  cases deed with
  | nothing unfinished => exact absurd rfl (unfinished _)
  | issue minted stored =>
    rcases ends with same | ⟨account, same⟩
    · obtain ⟨rfl, rfl⟩ := Issued.mk.inj (Reply.issued.inj same)
      refine ⟨minted.isNew.2 ▸ minted, ?_⟩
      rw [Ledger.find?_insert stored, if_pos rfl]
    · cases same
  | rotate _ _ _ minted stored =>
    rcases ends with same | ⟨account, same⟩
    · cases same
    · obtain ⟨rfl, rfl, -⟩ := Rotated.mk.inj (Reply.rotated.inj same)
      refine ⟨minted.isNew.2 ▸ minted, ?_⟩
      rw [Ledger.find?_rotate stored, if_pos rfl]
  | revokeAll =>
    rcases ends with same | ⟨account, same⟩ <;> cases same

theorem Returns.minted {i : Nat} (returns : Returns t t' i token r)
    (moved : t.Move (program codec) (Deed codec) event t') :
    Minted codec r.owner token r ∧ t'.ledger.find? r.tokenId = some r := by
  obtain ⟨request, e, next, reply, before, present, ends⟩ := returns
  rcases moved.thread present with old | ⟨-, arrived⟩ | ⟨-, -, deed⟩
  · rw [before] at old
    cases old
  · exact absurd arrived.symm (program_ne_done _ _)
  · exact deed.returns ends

/-- Exchanges of the token are under way, and nothing that would disturb them. -/
structure Racing (codec : Codec) (token : String) (r : Record) (t : Service) : Prop where
  upholding : t.Upholding (eased codec token r) (Exchanging codec token r)
  apart : t.Apart (· = .rotate token)
  stands : Stands r t.ledger
  harmless : ∀ thread ∈ t.threads, Harmless codec token r thread.request ∨
    ∃ outcome, thread.rest = .done outcome

/-- What happens does not disturb exchanges of the token. -/
structure Favours (codec : Codec) (token : String) (r : Record) (t : Service)
    (events : List (Event Request)) : Prop where
  calm : t.Along (program codec) (fun _ u => Calm codec r u.world) events
  unused : t.Along (program codec) Traffic.DrawsUnused events
  harmless : ∀ request, .arrive request ∈ events → Harmless codec token r request

theorem Favours.tail {events : List (Event Request)}
    (favours : Favours codec token r t (event :: events)) :
    Favours codec token r (t.next (program codec) event) events :=
  ⟨favours.calm.2, favours.unused.2,
    fun request member => favours.harmless request (List.mem_cons_of_mem _ member)⟩

/-- No exchange of the token has ended, and its record is as it was. -/
structure Undecided (token : String) (r : Record) (t : Service) : Prop where
  found : t.ledger.find? r.tokenId = some r
  running : ∀ (k : Nat) (outcome : Outcome), t.threads[k]? ≠ some ⟨.rotate token, .done outcome⟩

/-- One exchange of the token has succeeded, and all others that have ended have lost. -/
structure Decided (token : String) (r : Record) (k : Nat) (w : Rotated) (t : Service) : Prop where
  winner : t.threads[k]? = some ⟨.rotate token, .done (.ok (.rotated w))⟩
  losers : ∀ j, j ≠ k → ∀ outcome, t.threads[j]? = some ⟨.rotate token, .done outcome⟩ →
    Lost outcome
  parent : ∃ parent, t.ledger.find? r.tokenId = some parent ∧ parent.revoked = true ∧
    parent.replacedBy = some w.record.tokenId
  child : Stands w.record t.ledger

theorem Deed.final (deed : Deed codec request l l' rest) :
    l' = l ∨ ∃ outcome, rest = .done outcome := by
  cases deed with
  | nothing _ => exact Or.inl rfl
  | _ => exact Or.inr ⟨_, rfl⟩

/-- In a calm world an exchange is eased. -/
theorem Racing.eases (racing : Racing codec token r t) (calm : Calm codec r t.world) {i : Nat}
    {e : Effect} {next : e.Answer → Program Outcome}
    (present : t.threads[i]? = some ⟨.rotate token, .perform e next⟩) :
    Eases codec r e t.ledger (t.world.answer e).1 := by
  cases e with
  | moment => exact ⟨calm.future, calm.host, calm.mintable⟩
  | directory call =>
    cases call with
    | find user =>
      intro own
      obtain ⟨account, found, enabled⟩ := calm.enabled
      rw [← own] at found
      exact ⟨account, congrArg Except.ok found, enabled, Directory.id_of_find? found⟩
    | _ => trivial
  | ledger call =>
    cases call with
    | rotate old child => exact (racing.apart i _ present rfl child.tokenId (Or.inl rfl)).1
    | _ => trivial
  | _ => trivial

theorem program_exchanging (made : Codec.make keys settings = .ok codec) (paired : keys.IsPaired)
    (minted : Minted codec r.owner token r) (request : Request) (stands : Stands r l) :
    (program codec request).Upholds (eased codec token r request)
      (Exchanging codec token r request) l := by
  have settling : (program codec request).Upholds (eased codec token r request)
      (fun l l' rest => request = .rotate token → Settling r l l' rest) l := by
    by_cases own : request = .rotate token
    · subst own
      rw [program_rotate]
      apply (settles_presenting made paired minted stands).imp
      intro l l' rest settles _
      exact settles
    · apply Program.Upholds.of_forall
      intro l l' rest same
      exact absurd same own
  exact (program_upholds request l).and settling (fun _ _ kept => kept) (fun _ _ _ _ both => both.1)

theorem Racing.next (racing : Racing codec token r t) (made : Codec.make keys settings = .ok codec)
    (paired : keys.IsPaired) (minted : Minted codec r.owner token r) (event : Event Request)
    (calm : ∀ i, event = .step i → Calm codec r t.world)
    (unused : ∀ i, event = .step i → t.DrawsUnused i)
    (harmless : ∀ request, event = .arrive request → Harmless codec token r request) :
    t.Move (program codec) (Exchanging codec token r) event (t.next (program codec) event) ∧
      Racing codec token r (t.next (program codec) event) := by
  have answers : ∀ i request e rest, event = .step i →
      t.threads[i]? = some ⟨request, .perform e rest⟩ →
        (eased codec token r request).yields e t.ledger (t.world.answer e).1
          (t.world.answer e).2.ledger := by
    intro i request e rest stepped present
    refine ⟨t.world.yields e, ?_⟩
    intro own
    subst own
    exact racing.eases (calm i stepped) present
  have fair : ∀ request other l l' rest, Exchanging codec token r request l l' rest →
      (eased codec token r other).rely l l' := by
    intro request other l l' rest deed
    exact deed.1.change.keeps
  obtain ⟨moved, upholding⟩ := racing.upholding.next event answers fair
    (fun request _ => program_exchanging made paired minted request racing.stands)
  refine ⟨moved, upholding, ?_, ?_, ?_⟩
  · cases event with
    | arrive request => exact racing.apart.arrive (not_holds_program request)
    | step i =>
      change (t.advance i).Apart _
      rcases Traffic.advance_cases t i with same | ⟨request, e, rest, present, acted⟩
      · rw [same]
        exact racing.apart
      · rw [acted]
        apply racing.apart.act present (unused i rfl)
        intro _
        have deed := (racing.upholding.act present (answers i request e rest rfl present)
          (fair request)).1
        exact deed.1.final
    | tick moment => exact racing.apart
    | reseed supply => exact racing.apart
    | enroll directory => exact racing.apart
  · exact racing.stands.later (keeps_of_move (moved.imp fun _ _ _ _ => And.left))
  · intro thread member
    obtain ⟨k, present⟩ := List.mem_iff_getElem?.mp member
    rcases moved.thread present with old | ⟨arrived, -⟩ | ⟨-, ⟨e, next, before⟩, -⟩
    · exact racing.harmless thread (List.mem_of_getElem? old)
    · exact Or.inl (harmless _ arrived)
    · rcases racing.harmless _ (List.mem_of_getElem? before) with kept | ⟨outcome, done⟩
      · exact Or.inl kept
      · cases done

/-- The records that exchanges of the token add. -/
abbrev addedBy (token : String) (event : Event Request) (t t' : Service) : List Record :=
  t.addedBy (fun request => request = .rotate token) event t'

theorem Undecided.decided (undecided : Undecided token r t) {i : Nat}
    {thread : Thread Request Outcome}
    (present : t.threads[i]? = some thread) {w : Rotated}
    (stored : t.ledger.rotate r.tokenId w.record = .ok t'.ledger)
    (threads : t'.threads = t.threads.set i ⟨.rotate token, .done (.ok (.rotated w))⟩) :
    Decided token r i w t' := by
  refine ⟨?_, ?_, ?_, ?_⟩
  · obtain ⟨inside, -⟩ := List.getElem?_eq_some_iff.mp present
    rw [threads, List.getElem?_set_self inside]
  · intro j other outcome seen
    rw [threads] at seen
    rcases Traffic.of_getElem?_set seen with ⟨same, -⟩ | ⟨-, old⟩
    · exact absurd same.symm other
    · exact absurd old (undecided.running j outcome)
  · have fresh := ((Ledger.rotate_ok_iff _ _ _ _).mp stored).1
    have apart : w.record.tokenId ≠ r.tokenId := by
      intro same
      rw [same, undecided.found] at fresh
      cases fresh
    refine ⟨Ledger.replace r.tokenId w.record.tokenId r, ?_, ?_⟩
    · rw [Ledger.find?_rotate stored, if_neg apart, undecided.found, Option.map_some]
    · rw [Ledger.replace_same _ rfl]
      exact ⟨rfl, rfl⟩
  · refine ⟨w.record, ?_, .refl _⟩
    rw [Ledger.find?_rotate stored, if_pos rfl]

/-- The first exchange of the token to end is the one that succeeds. -/
theorem Undecided.move (undecided : Undecided token r t) (racing : Racing codec token r t)
    (active : r.revoked = false)
    (moved : t.Move (program codec) (Exchanging codec token r) event t') :
    (Undecided token r t' ∧ addedBy token event t t' = []) ∨
      ∃ k w, Decided token r k w t' ∧ addedBy token event t t' = [w.record] := by
  cases moved with
  | idle ledger threads =>
    refine Or.inl ⟨⟨?_, ?_⟩, Traffic.addedBy_same _ _ ledger⟩
    · rw [ledger]
      exact undecided.found
    · rw [threads]
      exact undecided.running
  | arrive request =>
    refine Or.inl ⟨⟨undecided.found, ?_⟩, rfl⟩
    intro k outcome present
    rcases Traffic.of_getElem?_append present with old | new
    · exact undecided.running k outcome old
    · exact program_ne_done _ _ (congrArg Thread.rest new).symm
  | @act _ _ i request e next answer present deed threads =>
    rw [addedBy, Traffic.addedBy_step _ present]
    by_cases own : request = .rotate token
    · subst own
      rw [if_pos (decide_eq_true rfl)]
      rcases deed.of_active undecided.found active with ⟨same, unfinished⟩ | ⟨w, ended, stored⟩
      · refine Or.inl ⟨⟨?_, ?_⟩, ?_⟩
        · rw [same]
          exact undecided.found
        · intro k outcome seen
          rw [threads] at seen
          rcases Traffic.of_getElem?_set seen with ⟨-, acted⟩ | ⟨-, old⟩
          · exact unfinished outcome (congrArg Thread.rest acted).symm
          · exact undecided.running k outcome old
        · rw [same, Ledger.additions_self]
      · rw [ended] at threads
        exact Or.inr ⟨i, w, undecided.decided present stored threads,
          Ledger.additions_rotate stored⟩
    · rw [if_neg (by rw [decide_eq_true_eq]; exact own)]
      refine Or.inl ⟨⟨?_, ?_⟩, rfl⟩
      · rcases racing.harmless _ (List.mem_of_getElem? present) with harmless | ⟨outcome, done⟩
        · exact deed.1.find?_eq harmless own undecided.found
        · cases done
      · intro k outcome seen
        rw [threads] at seen
        rcases Traffic.of_getElem?_set seen with ⟨-, acted⟩ | ⟨-, old⟩
        · exact own (congrArg Thread.request acted).symm
        · exact undecided.running k outcome old

/-- After that every exchange of the token that ends has lost, and none adds a record. -/
theorem Decided.move {k : Nat} {w : Rotated} (decided : Decided token r k w t)
    (moved : t.Move (program codec) (Exchanging codec token r) event t') :
    Decided token r k w t' ∧ addedBy token event t t' = [] := by
  obtain ⟨parent, found, revoked, replaced⟩ := decided.parent
  have keeps := keeps_of_move (moved.imp fun _ _ _ _ => And.left)
  refine ⟨⟨moved.done decided.winner, ?_, ?_, decided.child.later keeps⟩, ?_⟩
  · intro j other outcome seen
    rcases moved.thread seen with old | ⟨-, arrived⟩ | ⟨-, -, deed⟩
    · exact decided.losers j other outcome old
    · exact absurd arrived.symm (program_ne_done _ _)
    · exact (deed.of_revoked found revoked).2 outcome rfl
  · exact ⟨parent, keeps.find?_revoked found revoked, revoked, replaced⟩
  · cases moved with
    | idle ledger _ => exact Traffic.addedBy_same _ _ ledger
    | arrive request => rfl
    | @act _ _ i request e next answer present deed threads =>
      rw [addedBy, Traffic.addedBy_step _ present]
      by_cases own : request = .rotate token
      · subst own
        rw [(deed.of_revoked found revoked).1, Ledger.additions_self, ite_self]
      · rw [if_neg (by rw [decide_eq_true_eq]; exact own)]

end Rotation

end SessionTokens
