import SessionTokens.Ledger.Lineage
import SessionTokens.Program
import SessionTokens.Token.Codec

set_option autoImplicit false

namespace SessionTokens

inductive RotationError
  | token (cause : TokenError)
  | wrongTokenType
  | missingTokenId
  | unknownPrincipal
  | unknownToken
  | tokenReplayed
  | tokenExpired
  | concurrentRotation
  | ledger (cause : LedgerError)
  | directory (cause : DirectoryError)
deriving DecidableEq, Repr

namespace RotationError

def message : RotationError → String
  | .token cause => cause.message
  | .wrongTokenType => "token is not a refresh token"
  | .missingTokenId => "refresh token has no jti"
  | .unknownPrincipal => "token subject does not resolve to an active user"
  | .unknownToken => "refresh token is not in the ledger"
  | .tokenReplayed => "refresh token was already used or revoked"
  | .tokenExpired => "refresh token has expired"
  | .concurrentRotation => "refresh token was rotated concurrently"
  | .ledger cause => cause.message
  | .directory cause => cause.message

def code : RotationError → String
  | .token cause => cause.code
  | .wrongTokenType => "wrong_token_type"
  | .missingTokenId => "missing_token_id"
  | .unknownPrincipal => "unknown_principal"
  | .unknownToken => "unknown_token"
  | .tokenReplayed => "token_replayed"
  | .tokenExpired => "token_expired"
  | .concurrentRotation => "concurrent_rotation"
  | .ledger _ => "ledger_error"
  | .directory _ => "directory_error"

/-- Whether the failure is about the presented token and not about the service. -/
def isRejection : RotationError → Bool
  | .ledger _ => false
  | .directory _ => false
  | .token (.encoding _) => false
  | _ => true

end RotationError

/-- A new refresh token and its record. -/
structure Issued where
  token : String
  record : Record
deriving DecidableEq

/-- The child of a rotation and the account it belongs to. -/
structure Rotated where
  token : String
  record : Record
  account : Account
deriving DecidableEq

namespace Rotation

/-- A new refresh token of a user, whose record is not yet stored. -/
def mintChild (codec : Codec) (user : UserId) : Action RotationError Issued := do
  let tokenId ← Action.perform .newTokenId
  let moment ← Action.perform .moment
  let (token, claims) ← (Action.ofChecked
    (codec.mintRefresh moment.now user.toText tokenId)).mapCause RotationError.token
  let recordId ← Action.perform .newRecordId
  pure ⟨token, .active recordId user tokenId claims.issuedAt claims.expiresAt⟩

/-- Mints a refresh token for a user and records it as active. -/
def issue (codec : Codec) (user : UserId) : Action RotationError Issued := do
  let issued ← mintChild codec user
  (Action.ledger (.insert issued.record)).mapCause .ledger
  pure issued

/-- The token identifier and the subject that a presented token states. -/
def presented (codec : Codec) (moment : Moment) (token : String) :
    Except RotationError (TokenId × String) :=
  match codec.decode moment.host moment.now token with
  | .error .expired => .error .tokenExpired
  | .error e => .error (.token e)
  | .ok claims =>
    if claims.kind ≠ .refresh then .error .wrongTokenType
    else
      match claims.tokenId with
      | none => .error .missingTokenId
      | some id => .ok (id, claims.subject)

/-- The enabled account of a subject. -/
def owner (subject : String) : Action RotationError Account := do
  let id ← Action.require .unknownPrincipal (UserId.read? subject)
  let found ← (Action.directory (.find id)).mapCause .directory
  Action.require .unknownPrincipal (found.filter Account.enabled)

/-- A record found for a user, if it may be exchanged but for its age. -/
def usable (user : UserId) : Option Record → Except RotationError Record
  | none => .error .unknownToken
  | some r =>
    if r.owner ≠ user then .error .unknownToken
    else if r.revoked then .error .tokenReplayed
    else .ok r

/-- What a ledger's refusal to rotate says of the presented token. -/
def rotateFault : LedgerError → RotationError
  | .alreadyRevoked _ => .concurrentRotation
  | .notFound _ => .unknownToken
  | e => .ledger e

/-- Exchanges a checked token for its child. -/
def exchange (codec : Codec) (account : Account) (id : TokenId) : Action RotationError Rotated := do
  let child ← mintChild codec account.id
  (Action.ledger (.rotate id child.record)).mapCause rotateFault
  pure ⟨child.token, child.record, account⟩

/-- Exchanges a refresh token for its successor. -/
def rotate (codec : Codec) (token : String) : Action RotationError Rotated := do
  let (id, subject) ← Action.ofExcept (presented codec (← Action.perform .moment) token)
  let account ← owner subject
  let found ← (Action.ledger (.find id)).mapCause .ledger
  let record ← Action.ofExcept (usable account.id found)
  let moment ← Action.perform .moment
  if record.expiresAt ≤ moment.now then Action.refuse .tokenExpired
  exchange codec account id

/-- Revokes every unrevoked record of a user, and tells how many there were. -/
def revokeAll (user : UserId) : Action RotationError Nat :=
  (Action.ledger (.revokeAll user)).mapCause .ledger

/-- The whole chain of rotations of a token, oldest first. -/
def lineage (id : TokenId) : Action RotationError (List Record) := do
  let found ← (Action.ledger (.find id)).mapCause .ledger
  let start ← Action.require .unknownToken found
  let history ← (Action.ledger (.history start.owner)).mapCause .ledger
  pure (Lineage.chain history start.tokenId)

end Rotation

end SessionTokens
