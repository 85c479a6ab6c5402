import SessionTokens.Proofs.Api.Authority
import SessionTokens.Proofs.Directory.Insertion

set_option autoImplicit false

namespace SessionTokens

open Text

/-- The salt that a world has for a password. -/
def World.salt (w : World) : List UInt8 :=
  Crypto.Sha256.bigEndian 16 w.draw.1.toNat

theorem Response.isSuccess_of_created {a : Response} (created : a.status = 201) :
    a.IsSuccess := by
  rw [IsSuccess, created]
  decide

theorem Response.not_isSuccess_of_least {a : Response} (least : 300 ≤ a.status) :
    ¬ a.IsSuccess := by
  intro success
  have below : a.status < 300 := success.2
  omega

theorem ApiError.least_status (e : ApiError) : 300 ≤ e.status := by
  unfold status
  split <;> first | decide | (split <;> decide)

theorem Request.least_of_readBody {α : Type} {read : Json.Tree → Json.Read α} {r : Request}
    {status : Nat} (refused : r.readBody read = .error status) : 300 ≤ status := by
  unfold readBody at refused
  repeat' split at refused
  all_goals cases refused <;> decide

namespace Routing

theorem status_answer_refused (bodiless : Bool) (e : ApiError) :
    (Routing.answer bodiless (.error (.refused e))).map Response.status = some e.status := by
  cases bodiless <;> rfl

theorem eq_of_isSuccess {result : Checked ApiError Response} {a : Response}
    (answered : Routing.answer false result = some a) (success : a.IsSuccess) :
    result = .ok a := by
  cases result with
  | ok response => exact congrArg Except.ok (Option.some.inj answered)
  | error fault =>
    cases fault with
    | overflow => cases answered
    | refused e =>
      obtain rfl := Option.some.inj answered
      exact absurd success (Response.not_isSuccess_of_least e.least_status)

/-- What succeeds with a body has read the body. -/
theorem withBody_of_isSuccess {α : Type} {read : Json.Tree → Json.Read α} {r : Request}
    {go : α → Action ApiError Response} {a : Response} {w w' : World}
    (runs : (withBody read r go).run.run World.answer w = (.ok a, w')) (success : a.IsSuccess) :
    ∃ body, r.readBody read = .ok body ∧ (go body).run.run World.answer w = (.ok a, w') := by
  unfold withBody at runs
  split at runs
  · rename_i body taken
    exact ⟨body, taken, runs⟩
  · rename_i status refused
    cases runs
    exact absurd success (Response.not_isSuccess_of_least (Request.least_of_readBody refused))

end Routing

namespace UserService

variable {s : UserService} {r : SessionTokens.Request} {w w' : World} {e : Endpoint}

/-- A `POST` that is let through is answered as its handler ends. -/
theorem run_handle {principal : Option Principal}
    (through : s.gate.LetsThrough r World.answer w principal)
    (found : Endpoint.ofSegments? r.segments = some e) (posts : e.method = "POST")
    (posted : r.method = "POST") : (s.handle r).run World.answer w =
      let (result, w') := (s.handler r principal e).run.run World.answer w
      (Routing.answer false result, w') := by
  have taken : Routing.accepts e.method r.method = true := by
    rw [posts, posted]
    decide
  obtain ⟨t, read, calls⟩ := Routing.hands_of_letsThrough through found taken
  obtain rfl := read.world_eq
  rw [handle, calls, dropsBody_of_posted posted]

/-- Where only a `POST` is taken, a success is one of the handler. -/
theorem handled_of_isSuccess (found : Endpoint.ofSegments? r.segments = some e)
    (posts : e.method = "POST") {a : Response}
    (runs : (s.handle r).run World.answer w = (some a, w')) (success : a.IsSuccess) :
    ∃ principal, (s.handler r principal e).run.run World.answer w = (.ok a, w') := by
  obtain ⟨t, read, pass⟩ := s.gate.run_pass r World.answer w
  cases decided : s.gate.verdict r World.answer w with
  | error refusal =>
    rw [handle, Routing.handle, Program.run_bind, pass, decided] at runs
    have status := congrArg (Option.map Response.status) (Prod.mk.inj runs).1
    have same := Option.some.inj ((Routing.status_answer_refused _ refusal).symm.trans status)
    exact absurd success (Response.not_isSuccess_of_least (same ▸ refusal.least_status))
  | ok principal =>
    have through := Gate.letsThrough_iff.mpr decided
    by_cases posted : r.method = "POST"
    · rw [run_handle through found posts posted] at runs
      obtain ⟨answered, same⟩ := Prod.mk.inj runs
      exact ⟨principal, Prod.ext (Routing.eq_of_isSuccess answered success) same⟩
    · have other : ¬ Routing.accepts e.method r.method = true :=
        fun taken => posted (posted_of_accepts taken posts)
      rw [handle, Routing.handle, Program.run_bind, pass, decided, found] at runs
      dsimp only [Routing.dispatch] at runs
      rw [if_neg other] at runs
      have status := congrArg (Option.map Response.status) (Prod.mk.inj runs).1
      have same : 405 = a.status :=
        Option.some.inj ((Routing.status_answer _ (.bare 405)).symm.trans status)
      exact absurd success (Response.not_isSuccess_of_least (by omega))

theorem run_accountOf (username : String) (w : World) :
    (accountOf username).run.run World.answer w =
      (match (w.directory.findUsername? username).filter Account.enabled with
        | none => .error (.refused .invalidCredentials)
        | some account => .ok account, w) := by
  rw [accountOf, Action.run_bind, Action.run_mapCause, Action.run_directory]
  simp only [World.answer, Directory.answer, mapError_ok]
  rw [Action.run_require]
  cases (w.directory.findUsername? username).filter Account.enabled <;> rfl

theorem run_verifyPassword (stored password : String) (w : World) :
    (verifyPassword stored password).run.run World.answer w =
      ((Password.verify stored (Utf8.bytes password)).mapError
        fun _ => .refused .invalidCredentials, w) := by
  rw [verifyPassword, Action.run_bind, Action.run_perform]
  simp only [World.answer]
  rw [Action.run_bind, Action.run_ofExcept]
  dsimp only [mapError_ok]
  rw [Action.run_ofExcept]
  cases Password.verify stored (Utf8.bytes password) <;> rfl

theorem run_hashPassword (s : UserService) (password : String) (w : World) :
    (s.hashPassword password).run.run World.answer w =
      (.ok (Password.hash s.costs w.salt (Utf8.bytes password)), w.draw.2) := rfl

/-- A session that is started, in the response that carries it. -/
def sessionAnswer (s : UserService) (a : Account) (status : Nat) (w : World) :
    Checked ApiError Response × World :=
  let (result, w') := (s.startSession a).run.run World.answer w
  (result.map fun t => .json status t.toJson, w')

/-- A login is a lookup, a check of the password and a session. -/
theorem run_login (s : UserService) (body : LoginRequest) (w : World) :
    (s.login body).run.run World.answer w =
      match (w.directory.findUsername? (trimmed body.username)).filter Account.enabled with
      | none => (.error (.refused .invalidCredentials), w)
      | some account =>
        match Password.verify account.passwordHash (Utf8.bytes body.password) with
        | .error _ => (.error (.refused .invalidCredentials), w)
        | .ok () => s.sessionAnswer account 200 w := by
  rw [login, Action.run_bind, run_accountOf]
  cases (w.directory.findUsername? (trimmed body.username)).filter Account.enabled with
  | none => rfl
  | some account =>
    dsimp only
    rw [Action.run_bind, run_verifyPassword]
    cases Password.verify account.passwordHash (Utf8.bytes body.password) with
    | error e => rfl
    | ok matched =>
      dsimp only [mapError_ok]
      rw [← map_eq_pure_bind, Action.run_map]
      rfl

/-- The account that a signup stores, with the hash of its password. -/
def enrollee (s : UserService) (w : World) (body : SignupRequest) : Account :=
  newAccount w.draw.2 body (Password.hash s.costs w.salt (Utf8.bytes body.password))

/-- A signup is a check of what was sent, the storing of an account and a session. -/
theorem run_signup (s : UserService) (body : SignupRequest) (w : World) :
    ∃ w', w.Resembles w' ∧ (s.signup body).run.run World.answer w =
      match checkSignup body with
      | .error e => (.error (.refused e), w')
      | .ok () =>
        match w.directory.insert (s.enrollee w body) with
        | .error e => (.error (.refused (.ofDirectory e)), w')
        | .ok directory => s.sessionAnswer (s.enrollee w body) 201 { w' with directory } := by
  rw [signup, Action.run_bind, Action.run_ofExcept]
  cases checkSignup body with
  | error e => exact ⟨w, .refl w, rfl⟩
  | ok checked =>
    obtain ⟨w', later, creates⟩ := run_createAccount body
      (Password.hash s.costs w.salt (Utf8.bytes body.password)) w.draw.2
    refine ⟨w', w.resembles_draw.trans later, ?_⟩
    dsimp only [mapError_ok]
    rw [Action.run_bind, run_hashPassword]
    dsimp only
    rw [Action.run_bind, creates, ← enrollee, show w.draw.2.directory = w.directory from rfl]
    cases w.directory.insert (s.enrollee w body) with
    | error e => rfl
    | ok directory =>
      dsimp only
      rw [← map_eq_pure_bind, Action.run_map]
      rfl

/-- A refresh is the checks of a token, the storing of its successor and an access token. -/
theorem run_refresh (s : UserService) (body : RefreshRequest) (w : World) :
    ∃ w', w.Resembles w' ∧ (s.refresh body).run.run World.answer w =
      match Rotation.checked s.codec w body.refreshToken with
      | .error e => (.error (.refused (.rotation e)), w')
      | .ok (id, account) =>
        match Rotation.fresh s.codec w account.id with
        | .error fault => (.error (fault.map .rotation), w')
        | .ok child =>
          match w.ledger.rotate id child.record with
          | .error e => (.error (.refused (.rotation (Rotation.rotateFault e))), w')
          | .ok ledger => ((s.accessFor w account).map fun access =>
              .json 200 (s.session access child.token).toJson, { w' with ledger }) := by
  rw [refresh, Action.run_bind, Action.run_mapCause, Rotation.run_rotate_in]
  cases Rotation.checked s.codec w body.refreshToken with
  | error e => exact ⟨w, .refl w, rfl⟩
  | ok valid =>
    obtain ⟨id, account⟩ := valid
    obtain ⟨w', resembles, exchanges⟩ := Rotation.run_exchange_in s.codec account id w
    refine ⟨w', resembles, ?_⟩
    dsimp only
    rw [exchanges]
    cases Rotation.fresh s.codec w account.id with
    | error fault => rfl
    | ok child =>
      dsimp only
      cases w.ledger.rotate id child.record with
      | error e => rfl
      | ok ledger =>
        dsimp only [mapError_ok]
        have same : s.accessFor { w' with ledger } account = s.accessFor w account := by
          rw [accessFor, accessFor, resembles.moment]
        rw [← map_eq_pure_bind, Action.run_map, run_mintAccess, same]

/-- A session of an account begins: both of its tokens are made at one instant, the ledger has the
record of the refresh token, and the response carries the tokens. -/
def Begins (s : UserService) (now : Instant) (l : Ledger) (account : Account) (status : Nat)
    (response : Response) : Prop :=
  ∃ (access refresh : String) (a c : Claims) (recordId : RecordId) (id : TokenId),
    s.codec.mintAccess now account.id.toText account.roles [] = .ok (access, a) ∧
    s.codec.mintRefresh now account.id.toText id = .ok (refresh, c) ∧
    .active recordId account.id id c.issuedAt c.expiresAt ∈ l.records ∧
    response = .json status (s.session access refresh).toJson

/-- What the tokens of a session are made of. -/
theorem begins_of_fresh {account : Account} {access : String} {a : Claims} {issued : Issued}
    {l : Ledger}
    (minted : s.codec.mintAccess w.moment.now account.id.toText account.roles [] = .ok (access, a))
    (made : Rotation.fresh s.codec w account.id = .ok issued) (inside : issued.record ∈ l.records)
    (status : Nat) : s.Begins w.moment.now l account status
      (.json status (s.session access issued.token).toJson) := by
  unfold Rotation.fresh at made
  split at made
  · cases made
  · rename_i refresh c child
    cases made
    exact ⟨access, refresh, a, c, _, _, minted, child, inside, rfl⟩

/-- A session that has been started has begun. -/
theorem begins_of_sessionAnswer {account : Account} {status : Nat} {a : Response}
    (runs : s.sessionAnswer account status w = (.ok a, w')) : w'.directory = w.directory ∧
      s.Begins w.moment.now w'.ledger account status a := by
  obtain ⟨w₁, resembles, starts⟩ := run_startSession s account w
  rw [sessionAnswer, starts, accessFor] at runs
  cases minted : s.codec.mintAccess w.moment.now account.id.toText account.roles [] with
  | error fault =>
    rw [minted] at runs
    cases runs
  | ok token =>
    obtain ⟨access, claims⟩ := token
    rw [minted] at runs
    cases made : Rotation.fresh s.codec w account.id with
    | error fault =>
      rw [made] at runs
      cases runs
    | ok issued =>
      rw [made] at runs
      dsimp only [mapError_ok, Except.map] at runs
      cases stored : w.ledger.insert issued.record with
      | error e =>
        rw [stored] at runs
        cases runs
      | ok ledger =>
        rw [stored] at runs
        cases runs
        obtain ⟨-, rfl⟩ := (Ledger.insert_ok_iff _ _ _).mp stored
        exact ⟨resembles.directory, begins_of_fresh minted made
          (List.mem_append_right _ (List.mem_singleton_self _)) status⟩

/-- The account that a request is about which starts or renews a session. -/
inductive Opens (s : UserService) (r : SessionTokens.Request) (w w' : World) (account : Account) :
    Endpoint → Nat → Prop
  | signup {body : SignupRequest} (read : r.readBody SignupRequest.read = .ok body)
      (new : account = s.enrollee w body)
      (enrolled : w.directory.insert account = .ok w'.directory) :
      Opens s r w w' account .signup 201
  | login {body : LoginRequest} (read : r.readBody LoginRequest.read = .ok body)
      (named : w.directory.findUsername? (trimmed body.username) = some account)
      (enabled : account.enabled = true)
      (known : Password.verify account.passwordHash (Utf8.bytes body.password) = .ok ())
      (kept : w'.directory = w.directory) : Opens s r w w' account .login 200
  | refresh {body : RefreshRequest} {claims : Claims}
      (read : r.readBody RefreshRequest.read = .ok body)
      (decoded : s.codec.decode w.moment.host w.moment.now body.refreshToken = .ok claims)
      (kind : claims.kind = .refresh) (own : UserId.read? claims.subject = some account.id)
      (found : w.directory.find? account.id = some account) (enabled : account.enabled = true)
      (kept : w'.directory = w.directory) : Opens s r w w' account .refresh 200

/-- A signup that succeeds begins a session of the account that it stores. -/
theorem opens_of_signup {body : SignupRequest} (read : r.readBody SignupRequest.read = .ok body)
    {a : Response} (runs : (s.signup body).run.run World.answer w = (.ok a, w')) :
    Opens s r w w' (s.enrollee w body) .signup 201 ∧
      s.Begins w.moment.now w'.ledger (s.enrollee w body) 201 a := by
  obtain ⟨w₁, resembles, signs⟩ := run_signup s body w
  rw [signs] at runs
  split at runs
  · cases runs
  split at runs
  · cases runs
  rename_i directory enrolled
  obtain ⟨same, begins⟩ := begins_of_sessionAnswer runs
  constructor
  · refine .signup read rfl ?_
    rw [enrolled, same]
  · rw [← resembles.moment]
    exact begins

/-- A login that succeeds begins one of an account that it knows by its name and password. -/
theorem opens_of_login {body : LoginRequest} (read : r.readBody LoginRequest.read = .ok body)
    {a : Response} (runs : (s.login body).run.run World.answer w = (.ok a, w')) :
    ∃ account, Opens s r w w' account .login 200 ∧
      s.Begins w.moment.now w'.ledger account 200 a := by
  rw [run_login] at runs
  split at runs
  · cases runs
  rename_i account present
  obtain ⟨named, enabled⟩ := Option.filter_eq_some_iff.mp present
  split at runs
  · cases runs
  rename_i known
  obtain ⟨same, begins⟩ := begins_of_sessionAnswer runs
  exact ⟨account, .login read named enabled known same, begins⟩

/-- A refresh that succeeds renews one of the account that its token is of. -/
theorem opens_of_refresh {body : RefreshRequest} (read : r.readBody RefreshRequest.read = .ok body)
    {a : Response} (runs : (s.refresh body).run.run World.answer w = (.ok a, w')) :
    ∃ account, Opens s r w w' account .refresh 200 ∧
      s.Begins w.moment.now w'.ledger account 200 a := by
  obtain ⟨w₁, resembles, exchanges⟩ := run_refresh s body w
  rw [exchanges] at runs
  split at runs
  · cases runs
  rename_i id account passes
  split at runs
  · cases runs
  rename_i child made
  split at runs
  · cases runs
  rename_i ledger stored
  obtain ⟨subject, user, record, stated, own, found, enabled, -⟩ :=
    Rotation.checked_ok_iff.mp passes
  obtain ⟨claims, decoded, kind, -, rfl⟩ := Rotation.presented_ok_iff.mp stated
  obtain rfl : account.id = user := Directory.id_of_find? found
  rw [accessFor] at runs
  cases minted : s.codec.mintAccess w.moment.now account.id.toText account.roles [] with
  | error fault =>
    rw [minted] at runs
    cases runs
  | ok token =>
    obtain ⟨access, claims'⟩ := token
    rw [minted] at runs
    cases runs
    obtain ⟨-, -, rfl⟩ := (Ledger.rotate_ok_iff _ _ _ _).mp stored
    exact ⟨account, .refresh read decoded kind own found enabled resembles.directory,
      begins_of_fresh minted made (List.mem_append_right _ (List.mem_singleton_self _)) 200⟩

/-- Which requests start or renew a session. -/
def Endpoint.IsOpening (e : Endpoint) : Prop :=
  e = .signup ∨ e = .login ∨ e = .refresh

/-- With a success of such a request a session begins of the account that it is about. -/
theorem opens_of_isSuccess (found : Endpoint.ofSegments? r.segments = some e)
    (opening : e.IsOpening) {a : Response}
    (runs : (s.handle r).run World.answer w = (some a, w')) (success : a.IsSuccess) :
    ∃ account status, Opens s r w w' account e status ∧
      s.Begins w.moment.now w'.ledger account status a := by
  rcases opening with rfl | rfl | rfl
  · obtain ⟨principal, ends⟩ := handled_of_isSuccess found rfl runs success
    obtain ⟨body, read, signs⟩ := Routing.withBody_of_isSuccess ends success
    exact ⟨_, 201, opens_of_signup read signs⟩
  · obtain ⟨principal, ends⟩ := handled_of_isSuccess found rfl runs success
    obtain ⟨body, read, logs⟩ := Routing.withBody_of_isSuccess ends success
    obtain ⟨account, opens⟩ := opens_of_login read logs
    exact ⟨account, 200, opens⟩
  · obtain ⟨principal, ends⟩ := handled_of_isSuccess found rfl runs success
    obtain ⟨body, read, exchanges⟩ := Routing.withBody_of_isSuccess ends success
    obtain ⟨account, opens⟩ := opens_of_refresh read exchanges
    exact ⟨account, 200, opens⟩

end UserService
end SessionTokens
