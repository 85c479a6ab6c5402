import SessionTokens.Http.Message
import SessionTokens.Http.Status
import SessionTokens.Rotation

set_option autoImplicit false

namespace SessionTokens

/-- Why a call to the peer brings no result. -/
inductive PeerError
  | token (cause : TokenError)
  | transport (reason : String)
  | notFound
  | answered (status : Nat) (body : String)
deriving DecidableEq

def PeerError.message : PeerError → String
  | .token cause => s!"cannot mint s2s token: {cause.message}"
  | .transport reason => s!"transport error: {reason}"
  | .notFound => "resource not found upstream"
  | .answered status body => s!"upstream answered {Status.describe status}: {body}"

inductive ApiError
  | token (cause : TokenError)
  | rotation (cause : RotationError)
  | wrongTokenType (reason : String)
  | unauthorized (reason : String)
  | forbidden (role : Role)
  | s2sRequired
  | audienceMismatch
  | invalidCredentials
  | usernameTaken
  | validation (reason : String)
  | notFound (reason : String)
  | peerFailed (reason : String)
  | internal (reason : String)
deriving DecidableEq, Repr

namespace ApiError

def message : ApiError → String
  | .token cause => cause.message
  | .rotation cause => cause.message
  | .wrongTokenType reason => s!"token is not accepted here: {reason}"
  | .unauthorized reason => reason
  | .forbidden role => s!"missing role {role.name}"
  | .s2sRequired => "s2s token required"
  | .audienceMismatch => "token is not addressed to this service"
  | .invalidCredentials => "invalid username or password"
  | .usernameTaken => "username already taken"
  | .validation reason => reason
  | .notFound reason => reason
  | .peerFailed reason => s!"upstream call failed: {reason}"
  | .internal reason => reason

def status : ApiError → Nat
  | .token (.encoding _) => 500
  | .token _ => 401
  | .rotation cause => if cause.isRejection then 401 else 500
  | .wrongTokenType _ => 401
  | .unauthorized _ => 401
  | .forbidden _ => 403
  | .s2sRequired => 403
  | .audienceMismatch => 403
  | .invalidCredentials => 401
  | .usernameTaken => 409
  | .validation _ => 400
  | .notFound _ => 404
  | .peerFailed _ => 502
  | .internal _ => 500

/-- The code of a failure by its kind. -/
def kindCode : ApiError → String
  | .token cause => cause.code
  | .rotation cause => cause.code
  | .wrongTokenType _ => "wrong_token_type"
  | .unauthorized _ => "unauthorized"
  | .forbidden _ => "forbidden"
  | .s2sRequired => "s2s_required"
  | .audienceMismatch => "audience_mismatch"
  | .invalidCredentials => "invalid_credentials"
  | .usernameTaken => "username_taken"
  | .validation _ => "validation_error"
  | .notFound _ => "not_found"
  | .peerFailed _ => "upstream_error"
  | .internal _ => "internal_error"

/-- All failures of status 500 share one code. -/
def code (e : ApiError) : String :=
  if e.status = 500 then "internal_error" else e.kindCode

/-- What the client reads. The text of an internal failure or of one at the peer stays inside. -/
def publicMessage (e : ApiError) : String :=
  if e.status = 500 then "internal server error"
  else if e.status = 502 then "upstream service call failed"
  else e.message

def response (e : ApiError) : Response :=
  .json e.status (.object [("error", .string e.code), ("message", .string e.publicMessage)])

def ofDirectory : DirectoryError → ApiError
  | .usernameTaken _ => .usernameTaken
  | .storage reason => .internal reason

def ofLedger (e : LedgerError) : ApiError :=
  .internal e.message

def ofPassword : PasswordError → ApiError
  | .mismatch => .invalidCredentials
  | e => .internal e.message

def ofPeer : PeerError → ApiError
  | .notFound => .notFound "user not found"
  | .token cause => .internal s!"cannot mint s2s token: {cause.message}"
  | e => .peerFailed e.message

def ofWorker (f : WorkerFailure) : ApiError :=
  .internal s!"blocking task failed: {f.reason}"

end ApiError

end SessionTokens
