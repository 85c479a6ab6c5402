import SessionTokens.Proofs.Ledger.Order
import SessionTokens.Proofs.Rotation.Exchange
import SessionTokens.Proofs.Rotation.Lineages
import SessionTokens.Proofs.Traffic.Clock

set_option autoImplicit false

namespace SessionTokens.Rotation

variable {codec : Codec} {clock : Ledger → Instant → Prop} {l l' : Ledger}

/-- What is asked of a reading of the clock, given the ledger at the time. -/
def Sights (clock : Ledger → Instant → Prop) : (e : Effect) → Ledger → e.Answer → Prop
  | .moment, l, moment => clock l moment.now
  | _, _, _ => True

/-- Other requests may do any deeds, and the clock shows what is asked of it. -/
def timed (clock : Ledger → Instant → Prop) : Surroundings where
  rely := Ledger.Keeps
  yields e l answer l' := e.Yields l answer l' ∧ Sights clock e l answer
  refl := Ledger.Keeps.refl
  trans := Ledger.Keeps.trans

/-- A new record, dated by a reading of the clock with that ledger. -/
structure Stamped (clock : Ledger → Instant → Prop) (l : Ledger) (r : Record) : Prop where
  new : r.IsNew
  dated : ∃ now, clock l now ∧ r.createdAt = now.wholeSeconds

/-- What a step does to a ledger. A record takes the place of one that was there when it was dated.
-/
inductive Dated (clock : Ledger → Instant → Prop) : Ledger → Ledger → Prop
  | same (l : Ledger) : Dated clock l l
  | insert {before l l' : Ledger} {r : Record} (stamped : Stamped clock before r)
      (inserted : l.insert r = .ok l') : Dated clock l l'
  | rotate {before l l' : Ledger} {old : TokenId} {record child : Record}
      (found : before.find? old = some record) (stamped : Stamped clock before child)
      (kept : before.Keeps l) (rotated : l.rotate old child = .ok l') : Dated clock l l'
  | revokeAll (l : Ledger) (user : UserId) : Dated clock l (l.revokeAll user).2

/-- Every step of the program is dated. -/
abbrev Dates (clock : Ledger → Instant → Prop) (p : Program Outcome) (l : Ledger) : Prop :=
  p.Upholds (timed clock) (fun l l' _ => Dated clock l l') l

theorem dates_ask {e : Effect} {next : e.Answer → Program Outcome}
    (silent : ∀ m answer n, e.Yields m answer n → n = m)
    (later : ∀ m, l.Keeps m → ∀ answer, e.Yields m answer m → Sights clock e m answer →
      Dates clock (next answer) m) :
    Dates clock (.perform e next) l := by
  intro m kept answer n yields
  obtain rfl := silent m answer n yields.1
  exact ⟨.same _, later _ kept answer yields.1 yields.2⟩

theorem issuedAt_of_mintRefresh {now : Instant} {subject token : String} {id : TokenId}
    {claims : Claims} (minted : codec.mintRefresh now subject id = .ok (token, claims)) :
    claims.issuedAt = now.wholeSeconds := by
  obtain ⟨expiresAt, -, rfl⟩ := Option.map_eq_some_iff.mp (mint_ok minted).1
  rfl

theorem dates_minting {user : UserId} {andThen : String → Record → Program Outcome}
    (later : ∀ before m token record, l.Keeps before → before.Keeps m →
      Stamped clock before record → Dates clock (andThen token record) m) :
    Dates clock (minting codec user andThen) l := by
  refine dates_ask (fun _ _ _ same => same) fun l₁ kept₁ id _ _ => ?_
  refine dates_ask (fun _ _ _ same => same) fun l₂ kept₂ moment _ sighted => ?_
  cases minted : codec.mintRefresh moment.now user.toText id with
  | error fault => trivial
  | ok made =>
    obtain ⟨token, claims⟩ := made
    refine dates_ask (fun _ _ _ same => same) fun l₃ kept₃ recordId _ _ => ?_
    exact later l₂ l₃ token _ (kept₁.trans _ _ _ kept₂) kept₃
      ⟨⟨rfl, rfl⟩, moment.now, sighted, issuedAt_of_mintRefresh minted⟩

theorem dates_storing {before : Ledger} {token : String} {record : Record}
    (stamped : Stamped clock before record) : Dates clock (storing token record) l := by
  intro m kept answer n ⟨yields, _⟩
  rcases commit_cases yields with ⟨rfl, stored⟩ | ⟨e, rfl, rfl⟩
  · exact ⟨.insert stamped stored, trivial⟩
  · exact ⟨.same _, trivial⟩

theorem dates_committing {before : Ledger} {id : TokenId} {record : Record} {account : Account}
    {token : String} {child : Record} (found : before.find? id = some record)
    (stamped : Stamped clock before child) (since : before.Keeps l) :
    Dates clock (committing id account token child) l := by
  intro m kept answer n ⟨yields, _⟩
  rcases commit_cases yields with ⟨rfl, stored⟩ | ⟨e, rfl, rfl⟩
  · exact ⟨.rotate found stamped (since.trans _ _ _ kept) stored, trivial⟩
  · exact ⟨.same _, trivial⟩

theorem dates_ageing {id : TokenId} {found record : Record} {account : Account}
    (present : l.find? id = some found) : Dates clock (ageing codec id account record) l := by
  refine dates_ask (fun _ _ _ same => same) fun l₁ kept₁ moment _ _ => ?_
  split
  · trivial
  · refine dates_minting fun before m token child kept₂ kept₃ stamped => ?_
    obtain ⟨found', present', -⟩ := (kept₁.trans _ _ _ kept₂) id found present
    exact dates_committing present' stamped kept₃

theorem dates_lookingUp (id : TokenId) (account : Account) :
    Dates clock (lookingUp codec id account) l := by
  refine dates_ask (fun _ _ _ yields => (Prod.mk.inj yields).2) fun m kept answer yields _ => ?_
  obtain ⟨rfl, -⟩ := Prod.mk.inj yields
  cases allowed : usable account.id (m.find? id) with
  | error e =>
    simp only [allowed]
    trivial
  | ok record =>
    simp only [allowed]
    exact dates_ageing (usable_ok allowed).1

theorem dates_resolving (id : TokenId) (subject : String) :
    Dates clock (resolving codec id subject) l := by
  unfold resolving
  split
  · trivial
  · refine dates_ask (fun _ _ _ same => same) fun m kept answer _ _ => ?_
    split
    · trivial
    · split
      · trivial
      · exact dates_lookingUp id _

theorem dates_presenting (token : String) : Dates clock (presenting codec token) l := by
  refine dates_ask (fun _ _ _ same => same) fun m kept moment _ _ => ?_
  split
  · trivial
  · exact dates_resolving _ _

theorem dates_revoking (user : UserId) : Dates clock (revoking user) l := by
  intro m kept answer n ⟨yields, _⟩
  obtain ⟨rfl, rfl⟩ := Prod.mk.inj yields
  exact ⟨.revokeAll m user, trivial⟩

theorem dates_program (request : Request) : Dates clock (program codec request) l := by
  cases request with
  | issue user =>
    rw [program_issue]
    exact dates_minting fun _ _ _ _ _ _ stamped => dates_storing stamped
  | rotate token =>
    rw [program_rotate]
    exact dates_presenting token
  | revokeAll user =>
    rw [program_revokeAll]
    exact dates_revoking user

/-- On a clock that stays within a bound the dates do. -/
theorem Dated.createdBy {bound : Instant} (dated : Dated (fun _ now => now ≤ bound) l l')
    (created : l.CreatedBy bound.wholeSeconds) : l'.CreatedBy bound.wholeSeconds := by
  have stamp {before : Ledger} {r : Record}
      (stamped : Stamped (fun _ now => now ≤ bound) before r) :
      r.createdAt ≤ bound.wholeSeconds := by
    obtain ⟨now, within, date⟩ := stamped.dated
    rw [date]
    exact Instant.wholeSeconds_mono within
  cases dated with
  | same => exact created
  | insert stamped inserted =>
    obtain ⟨-, rfl⟩ := (Ledger.insert_ok_iff _ _ _).mp inserted
    exact created.append (stamp stamped)
  | rotate _ stamped _ rotated =>
    obtain ⟨-, -, rfl⟩ := (Ledger.rotate_ok_iff _ _ _ _).mp rotated
    exact (created.map (Ledger.createdAt_replace _ _)).append (stamp stamped)
  | revokeAll => exact created.map (Ledger.createdAt_revoke _)

/-- On a clock that is not behind any record the ledger stays in order. -/
theorem Dated.inOrder (dated : Dated (fun l now => l.CreatedBy now.wholeSeconds) l l')
    (sound : l.Sound) (inOrder : l.InOrder) : l'.InOrder := by
  cases dated with
  | same => exact inOrder
  | insert stamped inserted => exact inOrder.insert sound stamped.new inserted
  | @rotate _ _ _ _ record child found stamped kept rotated =>
    obtain ⟨record', found', ages⟩ := kept _ _ found
    obtain ⟨now, created, date⟩ := stamped.dated
    refine inOrder.rotate sound stamped.new found' ?_ rotated
    rw [ages.createdAt, date]
    exact created.find? found
  | revokeAll => exact inOrder.revokeAll _

theorem Dated.keeps (dated : Dated clock l l') : l.Keeps l' := by
  cases dated with
  | same => exact .refl l
  | insert _ inserted => exact Ledger.keeps_insert inserted
  | rotate _ _ _ rotated => exact Ledger.keeps_rotate rotated
  | revokeAll => exact Ledger.keeps_revokeAll l _

/-- All that is left of the requests under way is dated. -/
abbrev KeepsDates (clock : Ledger → Instant → Prop) (t : Service) : Prop :=
  t.Upholding (fun _ => timed clock) (fun _ l l' _ => Dated clock l l')

theorem KeepsDates.next (codec : Codec) {t : Service} (keeping : KeepsDates clock t)
    (shows : clock t.ledger t.now) (event : Event Request) :
    Dated clock t.ledger (t.next (program codec) event).ledger ∧
      KeepsDates clock (t.next (program codec) event) := by
  have answers (e : Effect) :
      (timed clock).yields e t.ledger (t.world.answer e).1 (t.world.answer e).2.ledger := by
    refine ⟨t.world.yields e, ?_⟩
    cases e with
    | moment => exact shows
    | _ => trivial
  obtain ⟨moved, kept⟩ := Traffic.Upholding.next keeping event (fun _ _ e _ _ _ => answers e)
    (fun _ _ _ _ _ dated => dated.keeps) (fun request _ => dates_program request)
  refine ⟨?_, kept⟩
  cases moved with
  | idle ledger _ =>
    rw [ledger]
    exact .same _
  | arrive _ => exact .same _
  | act _ dated _ => exact dated

/-- No record is dated later than the clock ever was. -/
theorem createdBy_run (codec : Codec) {t : Service} {bound : Instant}
    (keeping : KeepsDates (fun _ now => now ≤ bound) t)
    (created : t.ledger.CreatedBy bound.wholeSeconds) {events : List (Event Request)}
    (within : ∀ x ∈ Traffic.instants t.now events, x ≤ bound) :
    (t.run (program codec) events).ledger.CreatedBy bound.wholeSeconds := by
  induction events generalizing t with
  | nil => exact created
  | cons event events ih =>
    obtain ⟨dated, kept⟩ := keeping.next codec (within _ List.mem_cons_self) event
    refine ih kept (dated.createdBy created) ?_
    rcases Traffic.instants_cons (program codec) t event events with same | more
    · rw [← same]
      exact within
    · rw [more] at within
      exact fun x shown => within x (List.mem_cons_of_mem _ shown)

theorem keepsDates_start (moment : Moment) (supply : Supply) :
    KeepsDates clock (Traffic.start moment supply) :=
  fun _ inside => nomatch inside

/-- If the clock is never set back, the ledger is in order. -/
theorem inOrder_run (moment : Moment) (supply : Supply) {events : List (Event Request)}
    (steady : Traffic.NeverBack moment.now events) :
    let t := (Traffic.start moment supply : Service).run (program codec) events
    KeepsDates (fun l now => l.CreatedBy now.wholeSeconds) t ∧ t.ledger.InOrder := by
  induction events using List.reverseRecOn with
  | nil => exact ⟨keepsDates_start moment supply, fun _ _ _ _ found => nomatch found⟩
  | append_singleton events event ih =>
    obtain ⟨keeping, inOrder⟩ := ih steady.of_append
    rw [Traffic.run_append]
    -- What the clock shows at this point bounds all that it has shown.
    have shown : ∀ x ∈ Traffic.instants moment.now events,
        x ≤ ((Traffic.start moment supply : Service).run (program codec) events).now :=
      Traffic.le_now_run (program codec) (Traffic.start moment supply) steady.of_append
    have created := createdBy_run codec (keepsDates_start moment supply)
      (fun _ inside => nomatch inside) shown
    obtain ⟨dated, kept⟩ := keeping.next codec created event
    exact ⟨kept, dated.inOrder (sound_run moment supply events) inOrder⟩

end SessionTokens.Rotation
