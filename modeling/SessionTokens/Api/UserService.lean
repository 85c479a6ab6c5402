import SessionTokens.Api.Body
import SessionTokens.Api.Routing
import SessionTokens.Config.Service

set_option autoImplicit false

namespace SessionTokens

open Text

structure UserService where
  gate : Gate
  costs : Crypto.Argon2.Costs

namespace UserService

inductive Endpoint
  | health
  | signup
  | login
  | refresh
  | logout
  | me
  | account (id : String)
  | revokeSessions (id : String)
deriving DecidableEq

def Endpoint.method : Endpoint → String
  | .health => "GET"
  | .signup => "POST"
  | .login => "POST"
  | .refresh => "POST"
  | .logout => "POST"
  | .me => "GET"
  | .account _ => "GET"
  | .revokeSessions _ => "POST"

def Endpoint.ofSegments? : List String → Option Endpoint
  | ["", "health"] => some .health
  | ["", "auth", "signup"] => some .signup
  | ["", "auth", "login"] => some .login
  | ["", "auth", "refresh"] => some .refresh
  | ["", "auth", "logout"] => some .logout
  | ["", "users", "me"] => some .me
  | ["", "internal", "users", id] => if id = "" then none else some (.account id)
  | ["", "internal", "users", id, "revoke-sessions"] =>
    if id = "" then none else some (.revokeSessions id)
  | _ => none

def codec (s : UserService) : Codec :=
  s.gate.codec

/-- The fewest characters of a password. -/
def minPasswordLength : Nat := 8

/-- Something on both sides of the first at-sign. -/
def isEmail (s : List Char) : Bool :=
  match splitFirst? '@' s with
  | some (name, domain) => !name.isEmpty && !domain.isEmpty
  | none => false

/-- Checks what a new account is asked for with. -/
def checkSignup (body : SignupRequest) : Except ApiError Unit :=
  if blank body.username then .error (.validation "username is required")
  else if !isEmail (trim body.email.toList) then .error (.validation "email is invalid")
  else if body.password.toList.length < minPasswordLength then
    .error (.validation s!"password must be at least {minPasswordLength} characters")
  else .ok ()

def hashPassword (s : UserService) (password : String) : Action ApiError String := do
  let done ← Action.perform (.password (.hash s.costs (Utf8.bytes password)))
  let result ← Action.ofExcept (done.mapError .ofWorker)
  Action.ofExcept (result.mapError .ofPassword)

/-- Checks a password against a stored hash. Any failure to match is one refusal. -/
def verifyPassword (stored password : String) : Action ApiError Unit := do
  let done ← Action.perform (.password (.verify stored (Utf8.bytes password)))
  let result ← Action.ofExcept (done.mapError .ofWorker)
  Action.ofExcept (result.mapError fun _ => .invalidCredentials)

def mintAccess (s : UserService) (a : Account) : Action ApiError String := do
  let moment ← Action.perform .moment
  let (token, _) ← (Action.ofChecked
    (s.codec.mintAccess moment.now a.id.toText a.roles [])).mapCause ApiError.token
  pure token

/-- The response that carries an access token and a refresh token. -/
def session (s : UserService) (access refresh : String) : TokenResponse :=
  .bearer access (some refresh) s.codec.settings.lifetimes.access

/-- Starts a session of an account. -/
def startSession (s : UserService) (a : Account) : Action ApiError TokenResponse := do
  let access ← s.mintAccess a
  let issued ← (Rotation.issue s.codec a.id).mapCause .rotation
  pure (s.session access issued.token)

/-- Stores the account of a checked signup. -/
def createAccount (body : SignupRequest) (passwordHash : String) : Action ApiError Account := do
  let moment ← Action.perform .moment
  let id ← Action.perform .newUserId
  let account : Account :=
    { id, username := trimmed body.username, email := trimmed body.email, passwordHash
      roles := [Role.user], enabled := true, createdAt := moment.now }
  (Action.directory (.insert account)).mapCause .ofDirectory
  pure account

def signup (s : UserService) (body : SignupRequest) : Action ApiError Response := do
  Action.ofExcept (checkSignup body)
  let passwordHash ← s.hashPassword body.password
  let account ← createAccount body passwordHash
  let session ← s.startSession account
  pure (.json 201 session.toJson)

/-- The enabled account of a username. -/
def accountOf (username : String) : Action ApiError Account := do
  let found ← (Action.directory (.findUsername username)).mapCause .ofDirectory
  Action.require .invalidCredentials (found.filter Account.enabled)

def login (s : UserService) (body : LoginRequest) : Action ApiError Response := do
  let account ← accountOf (trimmed body.username)
  verifyPassword account.passwordHash body.password
  let session ← s.startSession account
  pure (.json 200 session.toJson)

/-- Exchanges a refresh token; the access token is minted afterwards. -/
def refresh (s : UserService) (body : RefreshRequest) : Action ApiError Response := do
  let rotated ← (Rotation.rotate s.codec body.refreshToken).mapCause .rotation
  let access ← s.mintAccess rotated.account
  pure (.json 200 (s.session access rotated.token).toJson)

/-- Revokes every refresh token of the caller; access tokens live on until they expire. -/
def logout (principal : Principal) : Action ApiError Response := do
  let user ← Action.require (.unauthorized "token subject is not a user")
    (UserId.read? principal.subject)
  let _ ← (Rotation.revokeAll user).mapCause ApiError.rotation
  pure (.bare 204)

def me (principal : Principal) : Response :=
  .json 200
    (.object
      [("roles", Json.texts (principal.roles.map Role.name)),
        ("subject", .string principal.subject)])

/-- The account with an identifier in text form. -/
def loadAccount (id : String) : Action ApiError Account := do
  let missing : ApiError := .notFound s!"user {id} not found"
  let user ← Action.require missing (UserId.read? id)
  let found ← (Action.directory (.find user)).mapCause .ofDirectory
  Action.require missing found

def summary (id : String) : Action ApiError Response := do
  let account ← loadAccount id
  let moment ← Action.perform .moment
  let sessions ← (Action.ledger (.active account.id moment.now)).mapCause .ofLedger
  pure (.json 200 (UserSummary.ofAccount account sessions.length).toJson)

def revokeSessions (id : String) : Action ApiError Response := do
  let account ← loadAccount id
  let revoked ← (Rotation.revokeAll account.id).mapCause ApiError.rotation
  pure (.json 200 (RevokeResponse.mk revoked).toJson)

def handler (s : UserService) (r : Request) (principal : Option Principal) :
    Endpoint → Action ApiError Response
  | .health => pure (.bare 200)
  | .signup => Routing.withBody SignupRequest.read r s.signup
  | .login => Routing.withBody LoginRequest.read r s.login
  | .refresh => Routing.withBody RefreshRequest.read r s.refresh
  | .logout => Routing.withPrincipal principal logout
  | .me => Routing.withPrincipal principal fun p => pure (me p)
  | .account id => Routing.withSegment id summary
  | .revokeSessions id => Routing.withSegment id revokeSessions

/-- Answers a request. -/
def handle (s : UserService) (r : Request) : Program (Option Response) :=
  Routing.handle s.gate Endpoint.method (Endpoint.ofSegments? r.segments) r (s.handler r)

/-- The service of some settings, over stores in memory. -/
def make (config : ServiceConfig) (costs : Crypto.Argon2.Costs) : Except KeyError UserService :=
  config.codec.map fun codec => ⟨⟨codec, config.serviceId, config.internalPrefixes⟩, costs⟩

/-- Why a service does not start. -/
inductive StartError
  | database
  | keys (cause : KeyError)
deriving DecidableEq

/-- Starts the service where no database can be reached. The database is tried before the keys. -/
def start (config : ServiceConfig) : Except StartError UserService :=
  if config.databaseUrl.isSome then .error .database
  else (make config Password.standardCosts).mapError .keys

end UserService

end SessionTokens
