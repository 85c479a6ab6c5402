import SessionTokens.Proofs.Api.Visits
import SessionTokens.Proofs.Password.Verification

set_option autoImplicit false

namespace SessionTokens.UserService

open Text

section

variable {s : UserService} {r : SessionTokens.Request} {w w₀ : World} {v : Visit}
  {visits : List Visit} {body : LoginRequest} {request : SignupRequest} {account : Account}
  {env : Environment} {config : ServiceConfig} {costs : Crypto.Argon2.Costs}

/-- A request to log in that the gates let through, with a body that can be read. -/
structure AsksLogin (s : UserService) (r : SessionTokens.Request) (w : World)
    (body : LoginRequest) : Prop where
  through : ∃ principal, s.gate.LetsThrough r World.answer w principal
  posted : r.method = "POST"
  found : Endpoint.ofSegments? r.segments = some .login
  read : r.readBody LoginRequest.read = .ok body

/-- There is an enabled account of the name, and its hash passes the password. -/
structure Recognizes (w : World) (body : LoginRequest) (account : Account) : Prop where
  named : w.directory.findUsername? (trimmed body.username) = some account
  enabled : account.enabled = true
  passes : Password.verify account.passwordHash (Utf8.bytes body.password) = .ok ()

/-- The answer is a session of the account, which the ledger has from then on. -/
def Admits (s : UserService) (r : SessionTokens.Request) (w : World) (account : Account) : Prop :=
  ∃ a w', (s.handle r).run World.answer w = (some a, w') ∧ w'.directory = w.directory ∧
    s.Begins w.moment.now w'.ledger account 200 a

/-- The answer does not tell what is wrong with the credentials, and the world stays as it is. -/
def TurnsAway (s : UserService) (r : SessionTokens.Request) (w : World) : Prop :=
  (s.handle r).run World.answer w =
    (some (.json 401 (.object [("error", .string "invalid_credentials"),
      ("message", .string "invalid username or password")])), w)

/-- A login asks with the name and the password of a signup. -/
def IsFor (body : LoginRequest) (request : SignupRequest) : Prop :=
  trimmed request.username = trimmed body.username ∧ request.password = body.password

theorem AsksLogin.run (asks : s.AsksLogin r w body) : (s.handle r).run World.answer w =
    let (result, w') := (s.login body).run.run World.answer w
    (Routing.answer false result, w') := by
  obtain ⟨principal, through⟩ := asks.through
  rw [run_handle through asks.found rfl asks.posted, handler, Routing.withBody, asks.read]

theorem turnsAway_of_not_recognized (asks : s.AsksLogin r w body)
    (unknown : ∀ account, ¬ Recognizes w body account) : s.TurnsAway r w := by
  rw [TurnsAway, asks.run, run_login]
  cases present : (w.directory.findUsername? (trimmed body.username)).filter Account.enabled with
  | none => rfl
  | some account =>
    obtain ⟨named, enabled⟩ := Option.filter_eq_some_iff.mp present
    dsimp only
    cases passes : Password.verify account.passwordHash (Utf8.bytes body.password) with
    | error e => rfl
    | ok matched => exact absurd ⟨named, enabled, passes⟩ (unknown account)

theorem Recognizes.admits (recognizes : Recognizes w body account) (asks : s.AsksLogin r w body)
    (able : s.CanMint w.moment.now) (unused : w.IsUnused) : s.Admits r w account := by
  obtain ⟨t, w', starts, -, -⟩ := able.run_startSession unused account
  have answered : s.sessionAnswer account 200 w = (.ok (.json 200 t.toJson), w') := by
    rw [sessionAnswer, starts]
    rfl
  obtain ⟨same, begins⟩ := begins_of_sessionAnswer answered
  have present := Option.filter_eq_some_iff.mpr ⟨recognizes.named, recognizes.enabled⟩
  refine ⟨.json 200 t.toJson, w', ?_, same, begins⟩
  rw [asks.run, run_login, present]
  dsimp only
  rw [recognizes.passes]
  dsimp only
  rw [answered]
  rfl

theorem Admits.status (admits : s.Admits r w account) :
    ((s.handle r).run World.answer w).1.map Response.status = some 200 := by
  obtain ⟨a, w', runs, -, _, _, _, _, _, _, -, -, -, rfl⟩ := admits
  rw [runs]
  rfl

theorem TurnsAway.status (turned : s.TurnsAway r w) :
    ((s.handle r).run World.answer w).1.map Response.status = some 401 := by
  rw [turned]
  rfl

theorem run_sessionAnswer_of_error {fault : Fault ApiError}
    (fails : s.accessFor w account = .error fault) (status : Nat) :
    ∃ w', w.Resembles w' ∧ s.sessionAnswer account status w = (.error fault, w') := by
  obtain ⟨w', resembles, starts⟩ := run_startSession s account w
  rw [fails] at starts
  refine ⟨w', resembles, ?_⟩
  rw [sessionAnswer, starts]
  rfl

/-- Then a login that finds its account is answered with the failure. -/
theorem Recognizes.fails (recognizes : Recognizes w body account) (asks : s.AsksLogin r w body)
    {e : ApiError} (fails : s.accessFor w account = .error (.refused e)) :
    ((s.handle r).run World.answer w).1 = some e.response := by
  obtain ⟨w', -, answered⟩ := run_sessionAnswer_of_error fails 200
  have present := Option.filter_eq_some_iff.mpr ⟨recognizes.named, recognizes.enabled⟩
  rw [asks.run, run_login, present]
  dsimp only
  rw [recognizes.passes]
  dsimp only
  rw [answered]
  rfl

/-- And a signup stores its account all the same. -/
theorem run_signup_of_error (checked : checkSignup request = .ok ()) {directory : Directory}
    (stored : w.directory.insert (s.enrollee w request) = .ok directory) {fault : Fault ApiError}
    (fails : s.accessFor w (s.enrollee w request) = .error fault) :
    ∃ w', (s.signup request).run.run World.answer w = (.error fault, w') ∧
      w'.ledger = w.ledger ∧ w'.directory = directory := by
  obtain ⟨w₁, resembles, signs⟩ := run_signup s request w
  have later : s.accessFor { w₁ with directory } (s.enrollee w request) = .error fault := by
    rw [← fails, accessFor, accessFor, ← resembles.moment]
  obtain ⟨w', same, answered⟩ := run_sessionAnswer_of_error later 201
  rw [checked, stored] at signs
  exact ⟨w', signs.trans answered, same.ledger.trans resembles.ledger, same.directory⟩

/-- The hash of a signup passes its password. -/
theorem verify_enrollee (accepted : Password.IsAccepted s.costs) (w : World)
    (request : SignupRequest) :
    Password.verify (s.enrollee w request).passwordHash (Utf8.bytes request.password) = .ok () := by
  have size : w.salt.length = 16 := Crypto.Sha256.length_bigEndian 16 _
  change Password.verify (Password.hash s.costs w.salt (Utf8.bytes request.password)) _ = _
  rw [Password.verify_hash accepted (by rw [size]; decide) (by rw [size]; decide), if_pos rfl]

/-- Where passwords are told apart by the hashes of those who signed up, a login recognizes just the
account of a signup with the same name and password. -/
theorem recognizes_iff (mints : s.MintsWithin) (accepted : Password.IsAccepted s.costs)
    (empty : w₀.directory = .empty) (regular : s.AreRegular w₀ visits) (v : Visit)
    (toldApart : ∀ request account, s.HasCreated w₀ visits request account →
      Password.verify account.passwordHash (Utf8.bytes body.password) = .ok () →
      request.password = body.password) (account : Account) :
    Recognizes (v.finds (s.after w₀ visits)) body account ↔
      ∃ request, s.HasCreated w₀ visits request account ∧ IsFor body request := by
  have known := mem_after_iff mints empty regular
  constructor
  · rintro ⟨named, enabled, passes⟩
    obtain ⟨inside, name⟩ := Directory.mem_of_findUsername? named
    obtain ⟨request, created⟩ := (known account).mp inside
    refine ⟨request, created, ?_, toldApart request account created passes⟩
    obtain ⟨before, u, later, -, creates⟩ := created
    rw [← name, creates.eq_enrollee]
    rfl
  · rintro ⟨request, created, name, password⟩
    have inside := (known account).mpr ⟨request, created⟩
    have found := (isDistinct_after empty visits).findUsername?_of_mem inside
    obtain ⟨before, u, later, -, creates⟩ := created
    have own : account.username = trimmed request.username ∧ account.enabled = true := by
      rw [creates.eq_enrollee]
      exact ⟨rfl, rfl⟩
    refine ⟨?_, own.2, ?_⟩
    · rw [← name, ← own.1]
      exact found
    · rw [creates.eq_enrollee, ← password]
      exact verify_enrollee accepted _ request

theorem costs_of_make (built : make config costs = .ok s) : s.costs = costs := by
  rw [make] at built
  cases coded : config.codec with
  | error e =>
    rw [coded] at built
    cases built
  | ok codec =>
    rw [coded] at built
    cases built
    rfl

theorem mintsWithin_of_load (loaded : ServiceConfig.load .user env = .ok config)
    (built : make config costs = .ok s) (genuine : s.codec.signer.IsGenuine) : s.MintsWithin := by
  intro now access refresh
  obtain ⟨-, -, same⟩ := Codec.make_ok (make_ok built)
  rw [same] at access refresh
  exact canMint_of_load loaded built genuine access refresh

/-- After all requests that come to a service which starts with an empty directory: a login is
answered with 200 just when a signup with the same name, apart from blanks around it, and the same
password was answered with 201, and then with a session of the account that this signup created.
Every other login has one answer and changes nothing; and so it is with every directory, for a
login that finds no enabled account of the name whose hash passes the password. -/
theorem login_is_of_who_signed_up (loaded : ServiceConfig.load .user env = .ok config)
    (built : make config costs = .ok s) (genuine : s.codec.signer.IsGenuine)
    (accepted : Password.IsAccepted costs) (empty : w₀.directory = .empty)
    (regular : s.AreRegular w₀ (visits ++ [v])) (body : LoginRequest)
    (asks : s.AsksLogin v.request (v.finds (s.after w₀ visits)) body)
    (toldApart : ∀ request account, s.HasCreated w₀ visits request account →
      Password.verify account.passwordHash (Utf8.bytes body.password) = .ok () →
      request.password = body.password) :
    let w := v.finds (s.after w₀ visits)
    (((s.handle v.request).run World.answer w).1.map Response.status = some 200 ↔
      ∃ request, s.HasSignedUp w₀ visits request ∧ IsFor body request) ∧
    (∀ request account, s.HasCreated w₀ visits request account → IsFor body request →
      s.Admits v.request w account) ∧
    ((∀ request, s.HasSignedUp w₀ visits request → ¬ IsFor body request) →
      s.TurnsAway v.request w) ∧
    ∀ (r : SessionTokens.Request) (w : World) (body : LoginRequest), s.AsksLogin r w body →
      (∀ account, ¬ Recognizes w body account) → s.TurnsAway r w := by
  intro w
  have mints := mintsWithin_of_load loaded built genuine
  have given : Password.IsAccepted s.costs := costs_of_make built ▸ accepted
  obtain ⟨init, last⟩ := areRegular_snoc_iff.mp regular
  have recognized := recognizes_iff mints given empty init v toldApart
  have able : s.CanMint w.moment.now := mints _ last.access last.refresh
  have admits (request : SignupRequest) (account : Account)
      (created : s.HasCreated w₀ visits request account) (isFor : IsFor body request) :
      s.Admits v.request w account :=
    ((recognized account).mpr ⟨request, created, isFor⟩).admits asks able last.unused
  have turns (others : ∀ request, s.HasSignedUp w₀ visits request → ¬ IsFor body request) :
      s.TurnsAway v.request w := by
    refine turnsAway_of_not_recognized asks fun account recognizes => ?_
    obtain ⟨request, created, isFor⟩ := (recognized account).mp recognizes
    exact others request (hasSignedUp_iff.mpr ⟨account, created⟩) isFor
  refine ⟨⟨fun answered => ?_, ?_⟩, admits, turns, fun _ _ _ => turnsAway_of_not_recognized⟩
  · by_contra others
    have refused := (turns fun request signed isFor => others ⟨request, signed, isFor⟩).status
    rw [answered] at refused
    cases refused
  · rintro ⟨request, signed, isFor⟩
    obtain ⟨account, created⟩ := hasSignedUp_iff.mp signed
    exact (admits request account created isFor).status

end

namespace Sample

def login : SessionTokens.Request :=
  ⟨"POST", "/auth/login", [⟨"content-type", Utf8.bytes "application/json"⟩], Utf8.bytes
    "\x7b\"username\":\" ada \",\"password\":\"correct horse\"\x7d"⟩

/-- Random bits that are always the same. -/
def supply : Supply :=
  ⟨fun _ => 7, 0⟩

def settings : CodecSettings :=
  (Sample.config none none).settings

def loginBody : LoginRequest :=
  ⟨" ada ", "correct horse"⟩

def signupVisit : Visit :=
  ⟨signup, Rotation.Sample.moment, .counting⟩

def loginVisit : Visit :=
  ⟨login, Rotation.Sample.moment, supply⟩

/-- The gates let everyone through to these paths. -/
theorem letsThrough (codec : Codec) (w : World) {r : SessionTokens.Request}
    (shows : r.Shows .none) (outside : startsWith "/internal/" r.path = false) :
    (service codec).gate.LetsThrough r World.answer w none := by
  have bare : (service codec).gate.isInternal r.path = false := by
    change (startsWith "/internal/" r.path || false) = false
    rw [outside, Bool.false_or]
  rw [Gate.letsThrough_iff, Gate.verdict_of_none shows, Gate.admission,
    if_neg (Bool.eq_false_iff.mp bare)]
  rfl

theorem asksLogin (codec : Codec) (w : World) :
    (service codec).AsksLogin login w loginBody :=
  ⟨⟨none, letsThrough codec w (Request.shows_iff.mpr (by decide)) (by decide)⟩, rfl, by decide,
    by decide +kernel⟩

theorem visit_signup : (service codec).visit world signupVisit = signedUp := by
  have same : signupVisit.finds world = world := rfl
  rw [visit, same, signedUp, signupVisit]

theorem isRegular_signup {codec : Codec} (same : codec.settings = settings) :
    (service codec).IsRegular world signupVisit := by
  have expiries : (signupVisit.moment.now.add? settings.lifetimes.access).isSome ∧
      (signupVisit.moment.now.add? settings.lifetimes.refresh).isSome := by
    decide
  rw [← same] at expiries
  exact ⟨expiries.1, expiries.2, isUnused_world, fun _ _ => rfl⟩

theorem isRegular_login {codec : Codec} (same : codec.settings = settings)
    {w : World} (unused : w.ledger.find? (TokenId.random 7) = none)
    (vacant : w.directory.find? ⟨Uuid.timed 0 7⟩ = none) :
    (service codec).IsRegular w loginVisit := by
  have expiries : (loginVisit.moment.now.add? settings.lifetimes.access).isSome ∧
      (loginVisit.moment.now.add? settings.lifetimes.refresh).isSome := by
    decide
  rw [← same] at expiries
  exact ⟨expiries.1, expiries.2, fun _ _ => unused, fun _ _ => vacant⟩

theorem areRegular (codec : Codec) (same : codec.settings = settings)
    (unused : ((service codec).visit world signupVisit).2.ledger.find? (TokenId.random 7) = none)
    (vacant : ((service codec).visit world signupVisit).2.directory.find? ⟨Uuid.timed 0 7⟩ = none) :
    (service codec).AreRegular world ([signupVisit] ++ [loginVisit]) := by
  refine areRegular_snoc_iff.mpr ⟨areRegular_singleton_iff.mpr (isRegular_signup same), ?_⟩
  rw [after_singleton]
  exact isRegular_login same unused vacant

def signupBody : SignupRequest :=
  ⟨"ada", "ada@example.org", "correct horse"⟩

theorem read_signup : signup.readBody SignupRequest.read = .ok signupBody := by
  decide +kernel

theorem isAccepted_costs : Password.IsAccepted costs :=
  ⟨by decide, by decide, by decide⟩

/-- Somebody signs up and logs in, with blanks around the name, and it is the same account. -/
theorem login_after_signup : ∃ account ∈ signedUp.2.directory.accounts,
    (service codec).Admits login (loginVisit.finds signedUp.2) account := by
  have unused : signedUp.2.ledger.find? (TokenId.random 7) = none := by
    decide +kernel
  have vacant : signedUp.2.directory.find? ⟨Uuid.timed 0 7⟩ = none := by
    decide +kernel
  rw [← visit_signup] at unused vacant
  have regular := areRegular codec rfl unused vacant
  obtain ⟨-, last⟩ := areRegular_snoc_iff.mp regular
  have mints : (service codec).MintsWithin := mintsWithin_of_load loaded built trivial
  have changed : ((service codec).visit world signupVisit).2.directory ≠ world.directory := by
    rw [visit_signup]
    exact signup_enrolls
  obtain ⟨request, account, creates⟩ := exists_creates mints (isRegular_signup rfl) changed
  have inside := Directory.mem_of_insert creates.stored
  obtain rfl : signupBody = request := Except.ok.inj (read_signup.symm.trans creates.read)
  have created := hasCreated_singleton_iff.mpr creates
  have told : ∀ request account, (service codec).HasCreated world [signupVisit] request account →
      Password.verify account.passwordHash (Utf8.bytes loginBody.password) = .ok () →
      request.password = loginBody.password := by
    intro request account created _
    have read := (hasCreated_singleton_iff.mp created).read
    rw [← Except.ok.inj (read_signup.symm.trans read)]
    rfl
  have admits := (login_is_of_who_signed_up loaded built trivial isAccepted_costs rfl regular
    loginBody (asksLogin codec _) told).2.1 _ account created ⟨by decide, rfl⟩
  rw [after_singleton, visit_signup] at admits
  rw [visit_signup] at inside
  exact ⟨account, inside, admits⟩

-- With the key that is not genuine a signup fails and leaves its account.
def ada : Account :=
  (service craftedCodec).enrollee world signupBody

def signingFails : ApiError :=
  .token (.encoding (.serialization "signing failed"))

theorem mintAccess_crafted : craftedCodec.mintAccess Rotation.Sample.moment.now
    (UserId.mk ⟨596690492570327789273758⟩).toText [.user] [] =
      .error (.refused (.encoding (.serialization "signing failed"))) := by
  decide +kernel

theorem accessFor_crafted {w : World} (same : w.moment = Rotation.Sample.moment) :
    (service craftedCodec).accessFor w ada = .error (.refused signingFails) := by
  have id : ada.id = ⟨⟨596690492570327789273758⟩⟩ := by
    decide +kernel
  rw [accessFor, same, id]
  change ((craftedCodec.mintAccess _ _ [.user] []).mapError _).map _ = _
  rw [mintAccess_crafted]
  rfl

theorem signup_leaves_ada : ∃ w, (service craftedCodec).visit world signupVisit =
    (some signingFails.response, w) ∧ w.ledger = .empty ∧ w.directory = ⟨[ada]⟩ := by
  have through := letsThrough craftedCodec world
    (Request.shows_iff.mpr (by decide) : signup.Shows .none) (by decide)
  have found : Endpoint.ofSegments? signup.segments = some .signup := by
    decide
  obtain ⟨w', runs, ledger, directory⟩ := run_signup_of_error (s := service craftedCodec)
    (by decide : checkSignup signupBody = .ok ()) (rfl : world.directory.insert ada = .ok ⟨[ada]⟩)
    (accessFor_crafted rfl)
  refine ⟨w', ?_, ledger, directory⟩
  have finds : signupVisit.finds world = world := rfl
  rw [visit, finds, signupVisit, run_handle through found rfl rfl, handler, Routing.withBody,
    read_signup]
  dsimp only
  rw [runs]
  rfl

/-- With such a key, then, a login with the name and the password of that signup is neither granted
nor turned away. -/
theorem login_with_crafted_key :
    ∃ s, ServiceConfig.load .user craftedEnvironment = .ok craftedConfig ∧
      make craftedConfig costs = .ok s ∧ world.directory = .empty ∧
      s.AreRegular world ([signupVisit] ++ [loginVisit]) ∧
      s.AsksLogin login (loginVisit.finds (s.after world [signupVisit])) loginBody ∧
      (∀ request, ¬ s.HasSignedUp world [signupVisit] request) ∧
      ¬ s.TurnsAway login (loginVisit.finds (s.after world [signupVisit])) := by
  have loads : ServiceConfig.load .user craftedEnvironment = .ok craftedConfig := by
    decide +kernel
  obtain ⟨w, ends, ledger, directory⟩ := signup_leaves_ada
  have unused : ((service craftedCodec).visit world signupVisit).2.ledger.find?
      (TokenId.random 7) = none := by
    rw [ends, ledger]
    rfl
  have vacant : ((service craftedCodec).visit world signupVisit).2.directory.find?
      ⟨Uuid.timed 0 7⟩ = none := by
    have other : (ada.id == ⟨Uuid.timed 0 7⟩) = false := by
      decide +kernel
    rw [ends, directory, Directory.find?, List.find?_cons, other, List.find?_nil]
  have regular := areRegular craftedCodec rfl unused vacant
  refine ⟨service craftedCodec, loads, built_crafted, rfl, regular, asksLogin _ _, ?_⟩
  rw [after_singleton, ends]
  refine ⟨fun request signed => ?_, fun turned => ?_⟩
  · obtain ⟨account, created⟩ := hasSignedUp_iff.mp signed
    have status := (hasCreated_singleton_iff.mp created).status
    rw [ends] at status
    have wrong : some signingFails.response.status = some 201 := status
    exact absurd wrong (by decide)
  · have same : (ada.username == trimmed loginBody.username) = true := by
      decide +kernel
    have named : (loginVisit.finds w).directory.findUsername? (trimmed loginBody.username) =
        some ada := by
      rw [Visit.finds, directory, Directory.findUsername?, List.find?_cons, same]
    have recognizes : Recognizes (loginVisit.finds w) loginBody ada :=
      ⟨named, rfl, verify_enrollee isAccepted_costs world signupBody⟩
    have status := turned.status
    rw [recognizes.fails (asksLogin _ _) (accessFor_crafted rfl)] at status
    exact absurd status (by decide)

end Sample

end SessionTokens.UserService
