import SessionTokens.Proofs.Program.Equations
import SessionTokens.Proofs.Traffic.Ending
import SessionTokens.Rotation

set_option autoImplicit false

/- The requests of the rotation protocol as trees of effects. A request is taken apart into stages,
one for each effect up to which nothing is decided yet; each stage names the next. -/
namespace SessionTokens.Rotation

inductive Request
  | issue (user : UserId)
  | rotate (token : String)
  | revokeAll (user : UserId)
deriving DecidableEq

inductive Reply
  | issued (issued : Issued)
  | rotated (rotated : Rotated)
  | revoked (count : Nat)
deriving DecidableEq

/-- How a request ends. -/
abbrev Outcome : Type := Checked RotationError Reply

def program (codec : Codec) : Request → Program Outcome
  | .issue user => (Reply.issued <$> issue codec user).run
  | .rotate token => (Reply.rotated <$> rotate codec token).run
  | .revokeAll user => (Reply.revoked <$> revokeAll user).run

def refusal (cause : RotationError) : Program Outcome :=
  .done (.error (.refused cause))

/-- From the choice of an identifier to the new token and its record. -/
def minting (codec : Codec) (user : UserId) (andThen : String → Record → Program Outcome) :
    Program Outcome :=
  .perform .newTokenId fun id => .perform .moment fun moment =>
    match codec.mintRefresh moment.now user.toText id with
    | .error fault => .done (.error (fault.map .token))
    | .ok (token, claims) => .perform .newRecordId fun recordId =>
      andThen token (.active recordId user id claims.issuedAt claims.expiresAt)

def storing (token : String) (record : Record) : Program Outcome :=
  .perform (.ledger (.insert record)) fun
    | .ok () => .done (.ok (.issued ⟨token, record⟩))
    | .error e => refusal (.ledger e)

def committing (id : TokenId) (account : Account) (token : String) (child : Record) :
    Program Outcome :=
  .perform (.ledger (.rotate id child)) fun
    | .ok () => .done (.ok (.rotated ⟨token, child, account⟩))
    | .error e => refusal (rotateFault e)

def ageing (codec : Codec) (id : TokenId) (account : Account) (record : Record) : Program Outcome :=
  .perform .moment fun moment =>
    if record.expiresAt ≤ moment.now then refusal .tokenExpired
    else minting codec account.id (committing id account)

def lookingUp (codec : Codec) (id : TokenId) (account : Account) : Program Outcome :=
  .perform (.ledger (.find id)) fun
    | .error e => refusal (.ledger e)
    | .ok found =>
      match usable account.id found with
      | .error e => refusal e
      | .ok record => ageing codec id account record

def resolving (codec : Codec) (id : TokenId) (subject : String) : Program Outcome :=
  match UserId.read? subject with
  | none => refusal .unknownPrincipal
  | some user => .perform (.directory (.find user)) fun
    | .error e => refusal (.directory e)
    | .ok found =>
      match found.filter Account.enabled with
      | none => refusal .unknownPrincipal
      | some account => lookingUp codec id account

def presenting (codec : Codec) (token : String) : Program Outcome :=
  .perform .moment fun moment =>
    match presented codec moment token with
    | .error e => refusal e
    | .ok (id, subject) => resolving codec id subject

def revoking (user : UserId) : Program Outcome :=
  .perform (.ledger (.revokeAll user)) fun
    | .ok count => .done (.ok (.revoked count))
    | .error e => refusal (.ledger e)

theorem program_revokeAll (codec : Codec) (user : UserId) :
    program codec (.revokeAll user) = revoking user := by
  rw [program, map_eq_pure_bind, revokeAll]
  exact Action.run_ledger_bind (fun _ => rfl) (fun _ => rfl)

theorem run_mintChild_bind (codec : Codec) (user : UserId)
    (f : Issued → Action RotationError Reply) (andThen : String → Record → Program Outcome)
    (goesOn : ∀ token record, (f ⟨token, record⟩).run = andThen token record) :
    (mintChild codec user >>= f).run = minting codec user andThen := by
  rw [mintChild, bind_assoc]
  refine Action.run_perform_bind fun id => ?_
  rw [bind_assoc]
  refine Action.run_perform_bind fun moment => ?_
  rw [bind_assoc, Action.run_mapCause_ofChecked_bind]
  cases codec.mintRefresh moment.now user.toText id with
  | error fault => rfl
  | ok minted =>
    dsimp only
    rw [bind_assoc]
    refine Action.run_perform_bind fun recordId => ?_
    rw [pure_bind]
    exact goesOn _ _

theorem program_issue (codec : Codec) (user : UserId) :
    program codec (.issue user) = minting codec user storing := by
  rw [program, map_eq_pure_bind, issue, bind_assoc]
  refine run_mintChild_bind codec user _ _ fun token record => ?_
  rw [bind_assoc]
  exact Action.run_ledger_bind (fun _ => rfl) (fun _ => rfl)

theorem run_exchange (codec : Codec) (account : Account) (id : TokenId) :
    (Reply.rotated <$> exchange codec account id).run =
      minting codec account.id (committing id account) := by
  rw [map_eq_pure_bind, exchange, bind_assoc]
  refine run_mintChild_bind codec account.id _ _ fun token record => ?_
  rw [bind_assoc]
  exact Action.run_ledger_bind (fun _ => rfl) (fun _ => rfl)

theorem program_rotate (codec : Codec) (token : String) :
    program codec (.rotate token) = presenting codec token := by
  rw [program, map_eq_pure_bind, rotate, bind_assoc]
  refine Action.run_perform_bind fun moment => ?_
  rw [bind_assoc, Action.run_ofExcept_bind]
  cases presented codec moment token with
  | error e => rfl
  | ok read =>
    obtain ⟨id, subject⟩ := read
    dsimp only [resolving]
    rw [owner, bind_assoc, bind_assoc, Action.run_require_bind]
    cases UserId.read? subject with
    | none => rfl
    | some user =>
      dsimp only
      rw [bind_assoc]
      refine Action.run_directory_bind (fun found => ?_) fun _ => rfl
      dsimp only
      rw [Action.run_require_bind]
      cases Option.filter Account.enabled found with
      | none => rfl
      | some account =>
        dsimp only [lookingUp]
        rw [bind_assoc]
        refine Action.run_ledger_bind (fun found => ?_) fun e => ?_
        · dsimp only
          rw [bind_assoc, Action.run_ofExcept_bind]
          cases usable account.id found with
          | error e => rfl
          | ok record =>
            dsimp only [ageing]
            rw [bind_assoc]
            refine Action.run_perform_bind fun moment => ?_
            split
            · rfl
            · rw [← map_eq_pure_bind]
              exact run_exchange codec account id
        · rfl

variable {codec : Codec}

theorem refusal_endsWithin (n : Nat) (cause : RotationError) : (refusal cause).EndsWithin n :=
  .done n _

theorem minting_endsWithin {n : Nat} (user : UserId) {andThen : String → Record → Program Outcome}
    (ends : ∀ token record, (andThen token record).EndsWithin n) :
    (minting codec user andThen).EndsWithin (n + 3) := by
  intro id moment
  dsimp only
  split
  · exact .done _ _
  · exact fun recordId => ends _ _

theorem committing_endsWithin (id : TokenId) (account : Account) (token : String) (child : Record) :
    (committing id account token child).EndsWithin 1 := by
  intro answer
  dsimp only
  split
  · exact .done _ _
  · exact refusal_endsWithin _ _

theorem presenting_endsWithin (token : String) : (presenting codec token).EndsWithin 8 := by
  intro moment
  dsimp only
  split
  · exact refusal_endsWithin _ _
  unfold resolving
  split
  · exact refusal_endsWithin _ _
  intro found
  dsimp only
  split
  · exact refusal_endsWithin _ _
  split
  · exact refusal_endsWithin _ _
  intro found
  dsimp only
  split
  · exact refusal_endsWithin _ _
  split
  · exact refusal_endsWithin _ _
  intro later
  dsimp only
  split
  · exact refusal_endsWithin _ _
  · exact minting_endsWithin _ (committing_endsWithin _ _)

theorem program_endsWithin (request : Request) : (program codec request).EndsWithin 8 := by
  cases request with
  | issue user =>
    rw [program_issue]
    refine Program.EndsWithin.mono (minting_endsWithin (n := 1) user ?_) (by omega)
    intro token record answer
    dsimp only
    split
    · exact .done _ _
    · exact refusal_endsWithin _ _
  | rotate token =>
    rw [program_rotate]
    exact presenting_endsWithin token
  | revokeAll user =>
    rw [program_revokeAll]
    intro answer
    dsimp only
    split
    · exact .done _ _
    · exact refusal_endsWithin _ _

end SessionTokens.Rotation
