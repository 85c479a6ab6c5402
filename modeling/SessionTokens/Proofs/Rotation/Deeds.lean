import SessionTokens.Proofs.Ledger.Persistence
import SessionTokens.Proofs.Rotation.Stages
import SessionTokens.Proofs.Traffic

set_option autoImplicit false

namespace SessionTokens.Rotation

/-- Requests of the protocol in a world. -/
abbrev Service : Type := Traffic Request Outcome

/-- The token states the identifier, under some reading of the clocks. -/
def Reads (codec : Codec) (token : String) (id : TokenId) : Prop :=
  ∃ moment subject, presented codec moment token = .ok (id, subject)

/-- Whatever identifier the token states is this one. -/
def ReadsOnly (codec : Codec) (token : String) (id : TokenId) : Prop :=
  ∀ other, Reads codec token other → other = id

/-- The token and its record were made together. -/
def Minted (codec : Codec) (user : UserId) (token : String) (record : Record) : Prop :=
  ∃ (moment : Moment) (recordId : RecordId) (id : TokenId) (claims : Claims),
    codec.mintRefresh moment.now user.toText id = .ok (token, claims) ∧
    record = .active recordId user id claims.issuedAt claims.expiresAt

/-- Only the last step of a request changes the ledger, and only a request that changes it
succeeds. -/
inductive Deed (codec : Codec) : Request → Ledger → Ledger → Program Outcome → Prop
  | nothing {request : Request} {l : Ledger} {rest : Program Outcome}
      (unfinished : ∀ reply, rest ≠ .done (.ok reply)) : Deed codec request l l rest
  | issue {user : UserId} {token : String} {record : Record} {l l' : Ledger}
      (minted : Minted codec user token record) (stored : l.insert record = .ok l') :
      Deed codec (.issue user) l l' (.done (.ok (.issued ⟨token, record⟩)))
  | rotate {token : String} {id : TokenId} {record : Record} {account : Account}
      {successor : String} {child : Record} {l l' : Ledger} (reads : Reads codec token id)
      (found : l.find? id = some record) (same : account.id = record.owner)
      (minted : Minted codec account.id successor child) (stored : l.rotate id child = .ok l') :
      Deed codec (.rotate token) l l' (.done (.ok (.rotated ⟨successor, child, account⟩)))
  | revokeAll {user : UserId} {l : Ledger} :
      Deed codec (.revokeAll user) l (l.revokeAll user).2
        (.done (.ok (.revoked (l.revokeAll user).1)))

variable {codec : Codec}

theorem Minted.isNew {user : UserId} {token : String} {record : Record}
    (minted : Minted codec user token record) : record.IsNew ∧ record.owner = user := by
  obtain ⟨moment, recordId, id, claims, -, rfl⟩ := minted
  exact ⟨⟨rfl, rfl⟩, rfl⟩

theorem Deed.change {request : Request} {l l' : Ledger} {rest : Program Outcome}
    (deed : Deed codec request l l' rest) : Ledger.Change l l' := by
  cases deed with
  | nothing _ => exact .same l
  | issue minted stored => exact .insert minted.isNew.1 stored
  | rotate _ found same minted stored =>
    exact .rotate minted.isNew.1 found (minted.isNew.2.trans same) stored
  | revokeAll => exact .revokeAll l _

/-- A revoked record cannot be exchanged. -/
theorem Deed.nothing_of_revoked {token : String} {id : TokenId} {r : Record} {l l' : Ledger}
    {rest : Program Outcome} (deed : Deed codec (.rotate token) l l' rest)
    (only : ReadsOnly codec token id) (found : l.find? id = some r) (revoked : r.revoked = true) :
    l' = l ∧ ∀ reply, rest ≠ .done (.ok reply) := by
  cases deed with
  | nothing unfinished => exact ⟨rfl, unfinished⟩
  | rotate reads _ _ _ stored =>
    obtain ⟨-, ⟨active, present, unrevoked⟩, -⟩ := (Ledger.rotate_ok_iff _ _ _ _).mp stored
    rw [only _ reads, found] at present
    obtain rfl := Option.some.inj present
    rw [revoked] at unrevoked
    cases unrevoked

/-- Other requests may do any deeds. -/
def fair : Surroundings where
  rely := Ledger.Keeps
  yields := Effect.Yields
  refl := Ledger.Keeps.refl
  trans := Ledger.Keeps.trans

theorem usable_ok {user : UserId} {found : Option Record} {record : Record}
    (allowed : usable user found = .ok record) :
    found = some record ∧ user = record.owner ∧ record.revoked = false := by
  cases found with
  | none => cases allowed
  | some r =>
    simp only [usable, ne_eq, ite_not] at allowed
    split at allowed
    · rename_i own
      split at allowed
      · cases allowed
      · rename_i active
        obtain rfl := Except.ok.inj allowed
        exact ⟨rfl, own.symm, Bool.eq_false_iff.mpr active⟩
    · cases allowed

theorem refusal_ne (cause : RotationError) (reply : Reply) : refusal cause ≠ .done (.ok reply) := by
  intro same
  cases same

theorem upholds_ask {request : Request} {e : Effect} {next : e.Answer → Program Outcome}
    {l : Ledger}
    (silent : ∀ m answer n, e.Yields m answer n → n = m)
    (unfinished : ∀ answer reply, next answer ≠ .done (.ok reply))
    (later : ∀ m, l.Keeps m → ∀ answer, e.Yields m answer m →
      (next answer).Upholds fair (Deed codec request) m) :
    (Program.perform e next).Upholds fair (Deed codec request) l := by
  intro m kept answer n yields
  obtain rfl := silent m answer n yields
  exact ⟨.nothing (unfinished answer), later _ kept answer yields⟩

theorem upholds_minting {request : Request} {user : UserId}
    {andThen : String → Record → Program Outcome} {l : Ledger}
    (unfinished : ∀ token record reply, andThen token record ≠ .done (.ok reply))
    (later : ∀ m, l.Keeps m → ∀ token record, Minted codec user token record →
      (andThen token record).Upholds fair (Deed codec request) m) :
    (minting codec user andThen).Upholds fair (Deed codec request) l := by
  refine upholds_ask (fun _ _ _ same => same) (fun _ _ same => nomatch same) ?_
  intro l₁ kept₁ id _
  refine upholds_ask (fun _ _ _ same => same) ?_ ?_
  · intro moment reply
    split <;> exact fun same => nomatch same
  intro l₂ kept₂ moment _
  cases minted : codec.mintRefresh moment.now user.toText id with
  | error fault => trivial
  | ok made =>
    obtain ⟨token, claims⟩ := made
    refine upholds_ask (fun _ _ _ same => same) (fun _ => unfinished _ _) ?_
    intro l₃ kept₃ recordId _
    exact later l₃ ((kept₁.trans _ _ _ kept₂).trans _ _ _ kept₃) token _
      ⟨moment, recordId, id, claims, minted, rfl⟩

theorem upholds_storing {user : UserId} {token : String} {record : Record} {l : Ledger}
    (minted : Minted codec user token record) :
    (storing token record).Upholds fair (Deed codec (.issue user)) l := by
  intro m kept answer n yields
  rcases commit_cases yields with ⟨rfl, stored⟩ | ⟨e, rfl, rfl⟩
  · exact ⟨.issue minted stored, trivial⟩
  · exact ⟨.nothing (refusal_ne _), trivial⟩

theorem upholds_committing {presented : String} {id : TokenId} {record : Record} {account : Account}
    {token : String} {child : Record} {l : Ledger} (reads : Reads codec presented id)
    (found : l.find? id = some record) (same : account.id = record.owner)
    (minted : Minted codec account.id token child) :
    (committing id account token child).Upholds fair (Deed codec (.rotate presented)) l := by
  intro m kept answer n yields
  obtain ⟨record', found', ages⟩ := kept id record found
  rcases commit_cases yields with ⟨rfl, stored⟩ | ⟨e, rfl, rfl⟩
  · exact ⟨.rotate reads found' (same.trans ages.owner.symm) minted stored, trivial⟩
  · exact ⟨.nothing (refusal_ne _), trivial⟩

theorem upholds_ageing {presented : String} {id : TokenId} {found record : Record}
    {account : Account} {l : Ledger} (reads : Reads codec presented id)
    (present : l.find? id = some found) (same : account.id = found.owner) :
    (ageing codec id account record).Upholds fair (Deed codec (.rotate presented)) l := by
  refine upholds_ask (fun _ _ _ silent => silent) ?_ ?_
  · intro moment reply
    split <;> exact fun same => nomatch same
  intro l₁ kept₁ moment _
  split
  · trivial
  · refine upholds_minting (fun _ _ _ same => nomatch same) ?_
    intro l₂ kept₂ token child minted
    obtain ⟨found', present', ages⟩ := (kept₁.trans _ _ _ kept₂) id found present
    exact upholds_committing reads present' (same.trans ages.owner.symm) minted

theorem upholds_lookingUp {presented : String} {id : TokenId} {account : Account} {l : Ledger}
    (reads : Reads codec presented id) :
    (lookingUp codec id account).Upholds fair (Deed codec (.rotate presented)) l := by
  refine upholds_ask (fun _ _ _ yields => (Prod.mk.inj yields).2) ?_ ?_
  · intro answer reply
    split
    · exact refusal_ne _ reply
    · split <;> exact fun same => nomatch same
  intro m kept answer yields
  obtain ⟨rfl, -⟩ := Prod.mk.inj yields
  cases allowed : usable account.id (m.find? id) with
  | error e => simp only [allowed]; trivial
  | ok record =>
    obtain ⟨present, same, -⟩ := usable_ok allowed
    simp only [allowed]
    exact upholds_ageing reads present same

theorem resolving_ne (id : TokenId) (subject : String) (reply : Reply) :
    resolving codec id subject ≠ .done (.ok reply) := by
  unfold resolving
  split <;> exact fun same => nomatch same

theorem upholds_resolving {presented : String} {id : TokenId} {subject : String} {l : Ledger}
    (reads : Reads codec presented id) :
    (resolving codec id subject).Upholds fair (Deed codec (.rotate presented)) l := by
  unfold resolving
  split
  · trivial
  · refine upholds_ask (fun _ _ _ silent => silent) ?_ ?_
    · intro answer reply
      split
      · exact refusal_ne _ reply
      · split <;> exact fun same => nomatch same
    · intro m kept answer _
      split
      · trivial
      · split
        · trivial
        · exact upholds_lookingUp reads

theorem upholds_presenting {token : String} {l : Ledger} :
    (presenting codec token).Upholds fair (Deed codec (.rotate token)) l := by
  refine upholds_ask (fun _ _ _ silent => silent) ?_ ?_
  · intro moment reply
    split
    · exact refusal_ne _ reply
    · exact resolving_ne _ _ reply
  · intro m kept moment _
    split
    · trivial
    · rename_i id subject read
      exact upholds_resolving ⟨moment, subject, read⟩

theorem upholds_revoking {user : UserId} {l : Ledger} :
    (revoking user).Upholds fair (Deed codec (.revokeAll user)) l := by
  intro m kept answer n yields
  obtain ⟨rfl, rfl⟩ := Prod.mk.inj yields
  exact ⟨.revokeAll, trivial⟩

theorem program_upholds (request : Request) (l : Ledger) :
    (program codec request).Upholds fair (Deed codec request) l := by
  cases request with
  | issue user =>
    rw [program_issue]
    exact upholds_minting (fun _ _ _ same => nomatch same) fun _ _ _ _ => upholds_storing
  | rotate token =>
    rw [program_rotate]
    exact upholds_presenting
  | revokeAll user =>
    rw [program_revokeAll]
    exact upholds_revoking

theorem program_ne_done (request : Request) (result : Outcome) :
    program codec request ≠ .done result := by
  cases request with
  | issue user =>
    rw [program_issue]
    exact fun same => nomatch same
  | rotate token =>
    rw [program_rotate]
    exact fun same => nomatch same
  | revokeAll user =>
    rw [program_revokeAll]
    exact fun same => nomatch same

/-- No request is under way that does not keep to its deeds. -/
abbrev Orderly (codec : Codec) (t : Service) : Prop :=
  t.Upholding (fun _ => fair) (Deed codec)

theorem Orderly.next {t : Service} (orderly : Orderly codec t) (event : Event Request) :
    t.Move (program codec) (Deed codec) event (t.next (program codec) event) ∧
      Orderly codec (t.next (program codec) event) :=
  Traffic.Upholding.next orderly event (fun _ _ e _ _ _ => t.world.yields e)
    (fun _ _ _ _ _ deed => deed.change.keeps) (fun request _ => program_upholds request _)

theorem orderly_start (moment : Moment) (supply : Supply) :
    Orderly codec (Traffic.start moment supply) :=
  fun _ inside => nomatch inside

theorem Orderly.run {t : Service} (orderly : Orderly codec t) (events : List (Event Request)) :
    Orderly codec (t.run (program codec) events) := by
  induction events generalizing t with
  | nil => exact orderly
  | cons event events ih => exact ih (orderly.next event).2

theorem keeps_of_move {t t' : Service} {event : Event Request}
    (moved : t.Move (program codec) (Deed codec) event t') : t.ledger.Keeps t'.ledger := by
  cases moved with
  | idle ledger _ =>
    rw [ledger]
    exact .refl _
  | arrive _ => exact .refl _
  | act _ deed _ => exact deed.change.keeps

theorem Orderly.keeps_run {t : Service} (orderly : Orderly codec t)
    (events : List (Event Request)) :
    t.ledger.Keeps (t.run (program codec) events).ledger := by
  induction events generalizing t with
  | nil => exact .refl _
  | cons event events ih =>
    have moved := orderly.next event
    exact .trans _ _ _ (keeps_of_move moved.1) (ih moved.2)

/-- What every deed and every arrival preserves holds after every run. -/
theorem Orderly.run_induction {P : Service → Prop} {t : Service} (orderly : Orderly codec t)
    (begins : P t)
    (move : ∀ t event t', Orderly codec t → t.Move (program codec) (Deed codec) event t' →
      P t → P t') (events : List (Event Request)) : P (t.run (program codec) events) := by
  induction events generalizing t with
  | nil => exact begins
  | cons event events ih =>
    have moved := orderly.next event
    exact ih moved.2 (move t event _ orderly moved.1 begins)

end SessionTokens.Rotation
