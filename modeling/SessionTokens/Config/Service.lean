import SessionTokens.Config.Environment
import SessionTokens.Net.SocketAddress
import SessionTokens.Text.Split
import SessionTokens.Token.Codec

set_option autoImplicit false

namespace SessionTokens

open Text

/-- What a service is called and where it listens unless told otherwise. -/
structure ServiceDefaults where
  serviceId : String
  bindAddress : String
deriving DecidableEq

def ServiceDefaults.user : ServiceDefaults :=
  ⟨"user-service", "0.0.0.0:8080"⟩

def ServiceDefaults.admin : ServiceDefaults :=
  ⟨"admin-service", "0.0.0.0:8081"⟩

structure ServiceConfig where
  serviceId : String
  keys : KeyMaterial
  settings : CodecSettings
  internalPrefixes : List String
  bindAddress : SocketAddress
  databaseUrl : Option String
deriving DecidableEq

namespace ServiceConfig

/-- The parts of a text between commas, trimmed and not empty. -/
def listed (s : String) : List String :=
  ((split ',' s.toList).map fun part => String.ofList (trim part)).filter fun part => part ≠ ""

/-- The first of the prefixes that is no absolute path. -/
def relative? (prefixes : List String) : Option String :=
  prefixes.find? fun p => !startsWith "/" p

def readPrefixes (s : String) : Except String (List String) :=
  let prefixes := listed s
  if prefixes.isEmpty then .error "no prefixes given"
  else
    match relative? prefixes with
    | some bad => .error s!"prefix '{bad}' must start with '/'"
    | none => .ok prefixes

/-- A positive decimal number of 63 bits; a plus sign may stand before it. -/
def positive? (s : List Char) : Option Nat :=
  let digits := if s.head? == some '+' then s.drop 1 else s
  if digits.isEmpty || !digits.all Char.isDigit then none
  else
    let n := digits.foldl (fun n c => n * 10 + (c.toNat - 48)) 0
    if 0 < n && n < 2 ^ 63 then some n else none

def readSeconds (s : String) : Except String Nat :=
  match positive? (trimmed s).toList with
  | some n => .ok n
  | none => .error s!"expected a positive number of seconds, got '{s}'"

/-- A lifetime in seconds. It may be too long for a span. -/
def lifetime (env : Environment) (name : String) (standard : Span) : Checked ConfigError Span := do
  match ← (env.readD name none fun s => (readSeconds s).map some).mapError .refused with
  | none => .ok standard
  | some n =>
    match Span.ofSeconds? n with
    | some d => .ok d
    | none => .error .overflow

def lifetimes (env : Environment) : Checked ConfigError Lifetimes := do
  let access ← lifetime env "WARDEN_ACCESS_TTL_SECS" Lifetimes.standard.access
  let refresh ← lifetime env "WARDEN_REFRESH_TTL_SECS" Lifetimes.standard.refresh
  let s2s ← lifetime env "WARDEN_S2S_TTL_SECS" Lifetimes.standard.s2s
  .ok ⟨access, refresh, s2s⟩

def readAddress (s : String) : Except String SocketAddress :=
  match SocketAddress.read? s.toList with
  | some a => .ok a
  | none => .error "invalid socket address syntax"

/-- Yes or no, in any of three forms and in any case. -/
def readSwitch (s : String) : Except String Bool :=
  let word := String.ofList ((trimmed s).toList.map Char.toLower)
  if ["true", "1", "yes"].contains word then .ok true
  else if ["false", "0", "no"].contains word then .ok false
  else .error s!"expected a boolean, got '{word}'"

def readSecret (s : String) : Except String (List UInt8) :=
  let bytes := Utf8.bytes s
  if bytes.length < minSecretLength then .error s!"must be at least {minSecretLength} bytes"
  else .ok bytes

def readKeys (env : Environment) : Except ConfigError KeyMaterial := do
  let secret ← (readSecret (← env.require "WARDEN_HMAC_SECRET")).mapError
    (.invalid "WARDEN_HMAC_SECRET")
  let privatePem ← env.keyFile? "WARDEN_PRIVATE_KEY_PATH"
  let publicPem ← env.keyFile? "WARDEN_PUBLIC_KEY_PATH"
  let peerPem ← env.keyFile? "WARDEN_PEER_PUBLIC_KEY_PATH"
  .ok { secret, privatePem, publicPem, peerPem }

def readRolesClaim (s : String) : Except String RolesClaim :=
  (RolesClaim.make s).mapError DomainError.message

/-- The database to use, if stores are to be persistent. -/
def readDatabase (env : Environment) : Except ConfigError (Option String) := do
  if ← env.readD "USE_PERSISTENT_STORES" false readSwitch then
    (env.require "DATABASE_URL").map some
  else .ok none

/-- The settings before the lifetimes. -/
structure Identity where
  serviceId : String
  issuer : String
  keys : KeyMaterial
  rolesClaim : RolesClaim
  internalPrefixes : List String

def readIdentity (defaults : ServiceDefaults) (env : Environment) :
    Except ConfigError Identity := do
  let serviceId := env.getD "WARDEN_SERVICE_ID" defaults.serviceId
  let issuer := env.getD "WARDEN_ISSUER" serviceId
  let keys ← readKeys env
  let rolesClaim ← env.readD "WARDEN_ROLES_CLAIM" RolesClaim.standard readRolesClaim
  let internalPrefixes ← env.readD "WARDEN_INTERNAL_PREFIXES" ["/internal/"] readPrefixes
  .ok { serviceId, issuer, keys, rolesClaim, internalPrefixes }

def readBindAddress (defaults : ServiceDefaults) (env : Environment) :
    Except ConfigError SocketAddress :=
  (readAddress (env.getD "WARDEN_BIND_ADDR" defaults.bindAddress)).mapError
    (.invalid "WARDEN_BIND_ADDR")

def load (defaults : ServiceDefaults) (env : Environment) : Checked ConfigError ServiceConfig := do
  let id ← (readIdentity defaults env).mapError .refused
  let lifetimes ← lifetimes env
  let bindAddress ← (readBindAddress defaults env).mapError .refused
  let databaseUrl ← (readDatabase env).mapError .refused
  .ok
    { serviceId := id.serviceId, keys := id.keys
      settings := ⟨id.issuer, id.rolesClaim, lifetimes⟩
      internalPrefixes := id.internalPrefixes, bindAddress, databaseUrl }

def codec (c : ServiceConfig) : Except KeyError Codec :=
  Codec.make c.keys c.settings

end ServiceConfig

end SessionTokens
