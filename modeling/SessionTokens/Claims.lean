import SessionTokens.Role
import SessionTokens.Time.Instant

set_option autoImplicit false

namespace SessionTokens

open Text

/-- What a token may be used for. -/
inductive TokenKind
  | access
  | refresh
  | s2s
deriving DecidableEq

def TokenKind.name : TokenKind → String
  | .access => "access"
  | .refresh => "refresh"
  | .s2s => "s2s"

def TokenKind.ofName? (s : String) : Option TokenKind :=
  [TokenKind.access, .refresh, .s2s].find? fun k => k.name == s

structure Claims where
  subject : String
  issuer : String
  audience : List String
  issuedAt : Instant
  expiresAt : Instant
  kind : TokenKind
  roles : Option (List Role)
  tokenId : Option TokenId
  s2s : Option Bool
deriving DecidableEq

/-- The rule that a claim set breaks. -/
inductive ClaimError
  | emptySubject
  | emptyIssuer
  | invalidTimeWindow
  | subSecondTimestamp
  | missingTokenId
  | unexpectedTokenId
  | missingRoles
  | missingAudience
  | missingS2sFlag
  | unexpectedS2sFlag
  | serialization (reason : String)
deriving DecidableEq, Repr

def ClaimError.message : ClaimError → String
  | .emptySubject => "subject must not be empty"
  | .emptyIssuer => "issuer must not be empty"
  | .invalidTimeWindow => "invalid token time window (expires_at <= issued_at)"
  | .subSecondTimestamp => "timestamps must be whole seconds"
  | .missingTokenId => "refresh tokens require a jti"
  | .unexpectedTokenId => "only refresh tokens may carry a jti"
  | .missingRoles => "access tokens require a roles claim"
  | .missingAudience => "s2s tokens require a non-empty audience"
  | .missingS2sFlag => "s2s tokens require s2s=true"
  | .unexpectedS2sFlag => "only s2s tokens may carry the s2s flag"
  | .serialization reason => s!"claim serialization failed: {reason}"

namespace Claims

/-- Claims of a human session. Nothing if the expiry is out of bounds. -/
def access? (subject issuer : String) (audience : List String) (roles : List Role) (now : Instant)
    (ttl : Span) : Option Claims :=
  (now.wholeSeconds.add? ttl).map fun expiresAt =>
    { subject, issuer, audience, issuedAt := now.wholeSeconds, expiresAt, kind := .access
      roles := some roles, tokenId := none, s2s := none }

/-- Claims of a refresh token, bound to its identifier. -/
def refresh? (subject issuer : String) (tokenId : TokenId) (now : Instant) (ttl : Span) :
    Option Claims :=
  (now.wholeSeconds.add? ttl).map fun expiresAt =>
    { subject, issuer, audience := [], issuedAt := now.wholeSeconds, expiresAt, kind := .refresh
      roles := none, tokenId := some tokenId, s2s := none }

/-- Claims of a service calling another: the issuer is also the subject. -/
def s2s? (issuer : String) (audience : List String) (now : Instant) (ttl : Span) : Option Claims :=
  (now.wholeSeconds.add? ttl).map fun expiresAt =>
    { subject := issuer, issuer, audience, issuedAt := now.wholeSeconds, expiresAt, kind := .s2s
      roles := none, tokenId := none, s2s := some true }

def isAddressedTo (c : Claims) (service : String) : Bool :=
  c.audience.contains service

/-- The first rule broken, among those of every kind and then those of the claims' own. -/
def flaw? (c : Claims) : Option ClaimError :=
  if blank c.subject then some .emptySubject
  else if blank c.issuer then some .emptyIssuer
  else if c.expiresAt ≤ c.issuedAt then some .invalidTimeWindow
  else if c.issuedAt.nanos ≠ 0 ∨ c.expiresAt.nanos ≠ 0 then some .subSecondTimestamp
  else
    match c.kind with
    | .access =>
      if c.tokenId.isSome then some .unexpectedTokenId
      else if c.roles.isNone then some .missingRoles
      else if c.s2s.isSome then some .unexpectedS2sFlag
      else none
    | .refresh =>
      if c.tokenId.isNone then some .missingTokenId
      else if c.s2s.isSome then some .unexpectedS2sFlag
      else none
    | .s2s =>
      if c.tokenId.isSome then some .unexpectedTokenId
      else if c.audience.isEmpty then some .missingAudience
      else if c.s2s ≠ some true then some .missingS2sFlag
      else none

def validate (c : Claims) : Except ClaimError Unit :=
  match c.flaw? with
  | some e => .error e
  | none => .ok ()

end Claims

/-- Who a request acts for, and the roles its token grants. -/
structure Principal where
  subject : String
  roles : List Role
deriving DecidableEq

namespace Principal

/-- Without a roles claim there are no roles. -/
def ofClaims (c : Claims) : Principal :=
  ⟨c.subject, c.roles.getD []⟩

def hasRole (p : Principal) (role : Role) : Bool :=
  p.roles.contains role

end Principal

end SessionTokens
