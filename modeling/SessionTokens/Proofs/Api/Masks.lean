import SessionTokens.Api.AdminService
import SessionTokens.Proofs.Api.Admission

set_option autoImplicit false

namespace SessionTokens

/-- What is answered in the place of a failure. -/
inductive Mask
  | internal
  | upstream
  | credentials
deriving DecidableEq

namespace Mask

def status : Mask → Nat
  | .internal => 500
  | .upstream => 502
  | .credentials => 401

def code : Mask → String
  | .internal => "internal_error"
  | .upstream => "upstream_error"
  | .credentials => "invalid_credentials"

def message : Mask → String
  | .internal => "internal server error"
  | .upstream => "upstream service call failed"
  | .credentials => "invalid username or password"

def response (m : Mask) (bodiless : Bool) : Response :=
  Routing.refusal bodiless m.status m.code m.message

end Mask

/-- A reply that brings no result and does not say either that there is nothing: the peer was not
reached, the status is neither of success nor 404, or what came with a success is no JSON text. -/
def PeerReply.fails : PeerReply → Bool
  | .unreachable _ => true
  | .answered status body =>
    status != 404 && (status < 200 || 300 ≤ status ||
      !((Json.Document.scan (Text.Utf8.units body)).read (Json.Tree.keep Json.depthLimit)).isOk)

theorem PeerReply.fails_answered {status : Nat} {body : List UInt8} (other : status ≠ 404)
    (cause : status < 200 ∨ 300 ≤ status ∨ ∃ e, (Json.Document.scan (Text.Utf8.units body)).read
      (Json.Tree.keep Json.depthLimit) = .error e) : (answered status body).fails = true := by
  rw [fails, bne_iff_ne.mpr other, Bool.true_and]
  rcases cause with below | above | ⟨e, garbled⟩
  · rw [decide_eq_true below]
    rfl
  · rw [decide_eq_true above, Bool.or_true]
    rfl
  · rw [garbled]
    exact Bool.or_true _

/-- The mask of an answer that is a failure: of a store or a worker, of the hashing or the checking
of a password, or of the peer. -/
def Effect.mask? : (e : Effect) → e.Answer → Option Mask
  | .ledger _, .error (.storage _) => some .internal
  | .directory _, .error (.storage _) => some .internal
  | .password _, .error _ => some .internal
  | .password (.hash _ _), .ok (.error .mismatch) => none
  | .password (.hash _ _), .ok (.error _) => some .internal
  | .password (.verify _ _), .ok (.error _) => some .credentials
  | .peer _, reply => if reply.fails then some .upstream else none
  | _, _ => none

/-- The answer is a reply of the peer, of a kind. -/
def Effect.IsReply (kind : PeerReply → Prop) : (e : Effect) → e.Answer → Prop
  | .peer _, reply => kind reply
  | _, _ => False

theorem Effect.IsReply.mask?_eq {kind : PeerReply → Prop}
    (fails : ∀ reply, kind reply → reply.fails = true) {e : Effect} {x : e.Answer}
    (replied : e.IsReply kind x) : e.mask? x = some .upstream := by
  cases e with
  | peer call => exact if_pos (fails x replied)
  | _ => exact replied.elim

/-- Answers that differ, if they do, only behind a mask. -/
def Effect.Alike (e : Effect) (x y : e.Answer) : Prop :=
  x = y ∨ ∃ m, e.mask? x = some m ∧ e.mask? y = some m

inductive TokenError.Hidden : Mask → TokenError → Prop
  | encoding (cause : ClaimError) : Hidden .internal (.encoding cause)

inductive LedgerError.Hidden : Mask → LedgerError → Prop
  | storage (reason : String) : Hidden .internal (.storage reason)

inductive DirectoryError.Hidden : Mask → DirectoryError → Prop
  | storage (reason : String) : Hidden .internal (.storage reason)

inductive RotationError.Hidden : Mask → RotationError → Prop
  | token {m : Mask} {cause : TokenError} (hidden : cause.Hidden m) : Hidden m (.token cause)
  | ledger {m : Mask} {cause : LedgerError} (hidden : cause.Hidden m) : Hidden m (.ledger cause)
  | directory {m : Mask} {cause : DirectoryError} (hidden : cause.Hidden m) :
    Hidden m (.directory cause)

inductive PeerError.Hidden : Mask → PeerError → Prop
  | token {m : Mask} {cause : TokenError} (hidden : cause.Hidden m) : Hidden m (.token cause)
  | transport (reason : String) : Hidden .upstream (.transport reason)
  | answered (status : Nat) (body : String) : Hidden .upstream (.answered status body)

namespace PeerClient

variable {reply : PeerReply}

/-- The replies that fail are those that are made into errors behind the mask. -/
theorem fails_iff : reply.fails = true ↔
    ∃ cause, resultOf reply = .error cause ∧ cause.Hidden .upstream := by
  cases reply with
  | unreachable reason => exact iff_of_true rfl ⟨_, rfl, .transport reason⟩
  | answered status body =>
    rw [resultOf, PeerReply.fails]
    by_cases missing : status = 404
    · rw [if_pos missing, missing]
      refine iff_of_false Bool.false_ne_true ?_
      rintro ⟨cause, same, hidden⟩
      cases same
      cases hidden
    rw [if_neg missing, bne_iff_ne.mpr missing, Bool.true_and]
    by_cases success : Status.isSuccess status = true
    · obtain ⟨least, greatest⟩ := Bool.and_eq_true_iff.mp success
      have inside : (decide (status < 200) || decide (300 ≤ status)) = false := by
        simp only [decide_eq_true_eq] at least greatest
        simp only [Bool.or_eq_false_iff, decide_eq_false_iff_not]
        omega
      rw [inside, Bool.false_or, success]
      cases (Json.Document.scan (Text.Utf8.units body)).read (Json.Tree.keep Json.depthLimit) with
      | ok v =>
        refine iff_of_false Bool.false_ne_true ?_
        rintro ⟨cause, same, -⟩
        cases same
      | error e => exact iff_of_true rfl ⟨_, rfl, .transport _⟩
    · have outside : (decide (status < 200) || decide (300 ≤ status)) = true := by
        rw [Status.isSuccess, Bool.and_eq_true, decide_eq_true_eq, decide_eq_true_eq] at success
        rw [Bool.or_eq_true, decide_eq_true_eq, decide_eq_true_eq]
        omega
      rw [outside, Bool.true_or, Bool.eq_false_iff.mpr success]
      exact iff_of_true rfl ⟨_, rfl, .answered status _⟩

end PeerClient

/-- What a client is told is the mask. -/
structure ApiError.Hidden (m : Mask) (e : ApiError) : Prop where
  status : e.status = m.status
  code : e.code = m.code
  message : e.publicMessage = m.message

theorem ApiError.Hidden.answer_eq {m : Mask} {e : ApiError} (hidden : e.Hidden m)
    (bodiless : Bool) :
    Routing.answer bodiless (.error (.refused e)) = some (m.response bodiless) := by
  rw [Routing.answer_refused, hidden.status, hidden.code, hidden.message, Mask.response]

namespace ApiError

variable {m : Mask}

theorem hidden_internal (reason : String) : (internal reason).Hidden .internal :=
  ⟨rfl, rfl, rfl⟩

theorem hidden_peerFailed (reason : String) : (peerFailed reason).Hidden .upstream :=
  ⟨rfl, rfl, rfl⟩

theorem hidden_invalidCredentials : invalidCredentials.Hidden .credentials :=
  ⟨rfl, rfl, rfl⟩

theorem hidden_token {cause : TokenError} (hidden : cause.Hidden m) : (token cause).Hidden m := by
  cases hidden
  exact ⟨rfl, rfl, rfl⟩

/-- A failure to rotate that is not about the presented token is one of the service. -/
theorem hidden_rotation_of_not_isRejection {cause : RotationError}
    (inner : cause.isRejection = false) : (rotation cause).Hidden .internal := by
  have status : (rotation cause).status = 500 := by
    rw [ApiError.status, inner, if_neg Bool.false_ne_true]
  exact ⟨status, by rw [code, if_pos status]; rfl, by rw [publicMessage, if_pos status]; rfl⟩

theorem hidden_rotation {cause : RotationError} (hidden : cause.Hidden m) :
    (rotation cause).Hidden m := by
  cases hidden with
  | token hidden => cases hidden; exact hidden_rotation_of_not_isRejection rfl
  | ledger hidden => cases hidden; exact hidden_rotation_of_not_isRejection rfl
  | directory hidden => cases hidden; exact hidden_rotation_of_not_isRejection rfl

theorem hidden_ofDirectory {cause : DirectoryError} (hidden : cause.Hidden m) :
    (ofDirectory cause).Hidden m := by
  cases hidden
  exact hidden_internal _

theorem hidden_ofLedger {cause : LedgerError} (hidden : cause.Hidden m) :
    (ofLedger cause).Hidden m := by
  cases hidden
  exact hidden_internal _

theorem hidden_ofPeer {cause : PeerError} (hidden : cause.Hidden m) : (ofPeer cause).Hidden m := by
  cases hidden with
  | token hidden => cases hidden; exact hidden_internal _
  | transport reason => exact hidden_peerFailed _
  | answered status body => exact hidden_peerFailed _

/-- A failure to rotate that is about the presented token is told as it is. -/
theorem answer_rejection {cause : RotationError} (rejects : cause.isRejection = true)
    (bodiless : Bool) : Routing.answer bodiless (.error (.refused (rotation cause))) =
      some (Routing.refusal bodiless 401 cause.code cause.message) := by
  have status : (rotation cause).status = 401 := by
    rw [ApiError.status, if_pos rejects]
  have code : (rotation cause).code = cause.code := by
    rw [ApiError.code, status, if_neg (by decide)]
    rfl
  have message : (rotation cause).publicMessage = cause.message := by
    rw [publicMessage, status, if_neg (by decide), if_neg (by decide)]
    rfl
  rw [Routing.answer_refused, status, code, message]

end ApiError

/-- What a ledger's failure says of a rotation. -/
theorem RotationError.hidden_rotateFault {m : Mask} {cause : LedgerError}
    (hidden : cause.Hidden m) : (Rotation.rotateFault cause).Hidden m := by
  cases hidden
  exact .ledger (.storage _)

namespace RotationError

/-- The failures about the presented token. -/
def rejections : List RotationError :=
  [.token .malformed, .token .invalidSignature, .token .expired, .wrongTokenType, .missingTokenId,
    .unknownPrincipal, .unknownToken, .tokenReplayed, .tokenExpired, .concurrentRotation]

theorem isRejection_iff {e : RotationError} : e.isRejection = true ↔ e ∈ rejections := by
  have all : ∀ e ∈ rejections, e.isRejection = true := by decide
  refine ⟨fun rejects => ?_, all e⟩
  cases e with
  | token cause =>
    cases cause with
    | encoding cause => cases rejects
    | _ => decide
  | ledger cause => cases rejects
  | directory cause => cases rejects
  | _ => decide

end RotationError

end SessionTokens
