import SessionTokens.Directory.Account
import SessionTokens.Json.Fields

set_option autoImplicit false

namespace SessionTokens

open Json

structure SignupRequest where
  username : String
  email : String
  password : String
deriving DecidableEq

namespace SignupRequest

@[reducible] def fields : List Field :=
  [textField "username", textField "email", textField "password"]

def read (t : Tree) : Read SignupRequest :=
  (t.readRecord fields).map fun (username, email, password, ()) => ⟨username, email, password⟩

end SignupRequest

structure LoginRequest where
  username : String
  password : String
deriving DecidableEq

namespace LoginRequest

@[reducible] def fields : List Field :=
  [textField "username", textField "password"]

def read (t : Tree) : Read LoginRequest :=
  (t.readRecord fields).map fun (username, password, ()) => ⟨username, password⟩

end LoginRequest

structure RefreshRequest where
  refreshToken : String
deriving DecidableEq

namespace RefreshRequest

@[reducible] def fields : List Field :=
  [textField "refresh_token"]

def read (t : Tree) : Read RefreshRequest :=
  (t.readRecord fields).map fun (refreshToken, ()) => ⟨refreshToken⟩

end RefreshRequest

/-- The tokens of a session; the access token is good for so many seconds. -/
structure TokenResponse where
  accessToken : String
  refreshToken : Option String
  tokenType : String
  expiresIn : Int
deriving DecidableEq

namespace TokenResponse

@[reducible] def fields : List Field :=
  [textField "access_token", nullableTextField "refresh_token", textField "token_type",
    int64Field "expires_in"]

def ofValues (v : Values fields) : TokenResponse :=
  let (accessToken, refreshToken, tokenType, expiresIn, ()) := v
  ⟨accessToken, refreshToken, tokenType, expiresIn⟩

def values (r : TokenResponse) : Values fields :=
  (r.accessToken, r.refreshToken, r.tokenType, r.expiresIn, ())

def read (t : Tree) : Read TokenResponse :=
  (t.readRecord fields).map ofValues

def toJson (r : TokenResponse) : Json :=
  .object (r.values.members fields)

def bearer (accessToken : String) (refreshToken : Option String) (lifetime : Span) :
    TokenResponse :=
  ⟨accessToken, refreshToken, "Bearer", lifetime.seconds⟩

end TokenResponse

/-- An account as other services see it. -/
structure UserSummary where
  id : String
  username : String
  email : String
  roles : List String
  enabled : Bool
  createdAt : Instant
  activeSessions : Option Nat
deriving DecidableEq

namespace UserSummary

@[reducible] def fields : List Field :=
  [textField "id", textField "username", textField "email", textsField "roles",
    flagField "enabled", instantField "created_at", .trailing "active_sessions" readNat64 ofNat]

def ofValues (v : Values fields) : UserSummary :=
  let (id, username, email, roles, enabled, createdAt, activeSessions, ()) := v
  ⟨id, username, email, roles, enabled, createdAt, activeSessions⟩

def values (s : UserSummary) : Values fields :=
  (s.id, s.username, s.email, s.roles, s.enabled, s.createdAt, s.activeSessions, ())

def read (t : Tree) : Read UserSummary :=
  (t.readRecord fields).map ofValues

def toJson (s : UserSummary) : Json :=
  .object (s.values.members fields)

def ofAccount (a : Account) (activeSessions : Nat) : UserSummary :=
  { id := a.id.toText, username := a.username, email := a.email, roles := a.roles.map Role.name
    enabled := a.enabled, createdAt := a.createdAt, activeSessions := some activeSessions }

end UserSummary

/-- How many sessions a revocation ended. -/
structure RevokeResponse where
  revoked : Nat
deriving DecidableEq

namespace RevokeResponse

@[reducible] def fields : List Field :=
  [nat64Field "revoked"]

def read (t : Tree) : Read RevokeResponse :=
  (t.readRecord fields).map fun (revoked, ()) => ⟨revoked⟩

def toJson (r : RevokeResponse) : Json :=
  .object (Values.members fields (r.revoked, ()))

end RevokeResponse

end SessionTokens
