import SessionTokens.Proofs.Api.Faltering
import SessionTokens.Proofs.Api.Login

set_option autoImplicit false

namespace SessionTokens

variable {σ τ : Type}

/-- One of the two services. -/
inductive Service
  | users (service : UserService)
  | admin (service : AdminService)

/-- The gates let a request through, with a principal or without, in this state. -/
def Gate.HandsOver (g : Gate) (r : Request) (answer : (e : Effect) → σ → e.Answer × σ) (s : σ)
    (principal : Option Principal) (t : σ) : Prop :=
  ∀ inner : Option Principal → Action ApiError Response,
    (g.pass r inner).run.run answer s = (inner principal).run.run answer t

/-- A request without credentials for a path of everyone's is let through as it comes. -/
theorem Gate.handsOver_bare {g : Gate} {r : Request} (bearer : r.bearer = .ok none)
    (outside : g.isInternal r.path = false) (answer : (e : Effect) → σ → e.Answer × σ) (s : σ) :
    g.HandsOver r answer s none s := by
  intro inner
  rw [pass, identify, bearer]
  change (g.admitCaller none r >>= fun _ => inner none).run.run answer s = _
  rw [admitCaller, outside, if_neg Bool.false_ne_true]
  rfl

namespace Service

def codec : Service → Codec
  | users s => s.codec
  | admin s => s.codec

def withCodec (c : Codec) : Service → Service
  | users s => users (s.withCodec c)
  | admin s => admin (s.withCodec c)

/-- Whether the answer to a request goes without a body. -/
def isBodiless (r : Request) : Service → Bool
  | users _ => Routing.dropsBody UserService.Endpoint.method
      (UserService.Endpoint.ofSegments? r.segments) r
  | admin _ => Routing.dropsBody AdminService.Endpoint.method
      (AdminService.Endpoint.ofSegments? r.segments) r

/-- What is done for a request, up to what the client is told of its end. -/
def act (r : Request) : Service → Action ApiError Response
  | users s => s.gate.pass r fun principal => Routing.dispatch UserService.Endpoint.method
      (UserService.Endpoint.ofSegments? r.segments) r (s.handler r principal)
  | admin s => s.gate.pass r fun principal => Routing.dispatch AdminService.Endpoint.method
      (AdminService.Endpoint.ofSegments? r.segments) r (s.handler r principal)

/-- Answers a request. -/
def handle (r : Request) : Service → Program (Option Response)
  | users s => s.handle r
  | admin s => s.handle r

variable {service : Service} {r : Request} {c : Codec} {answer : (e : Effect) → σ → e.Answer × σ}
  {answer' : (e : Effect) → τ → e.Answer × τ} {st : σ} {st' : τ}

theorem handle_eq (service : Service) (r : Request) : service.handle r =
    (service.act r).run.bind fun result =>
      .done (Routing.answer (service.isBodiless r) result) := by
  cases service <;> rfl

theorem run_handle (service : Service) (r : Request) (answer : (e : Effect) → σ → e.Answer × σ)
    (st : σ) : (service.handle r).run answer st =
      (Routing.answer (service.isBodiless r) ((service.act r).run.run answer st).1,
        ((service.act r).run.run answer st).2) := by
  rw [handle_eq, Program.run_bind]
  rfl

theorem isBodiless_withCodec (service : Service) (c : Codec) (r : Request) :
    (service.withCodec c).isBodiless r = service.isBodiless r := by
  cases service <;> rfl

theorem codec_withCodec (service : Service) (c : Codec) : (service.withCodec c).codec = c := by
  cases service <;> rfl

theorem withCodec_withCodec (service : Service) (c : Codec) :
    (service.withCodec c).withCodec service.codec = service := by
  cases service <;> rfl

/-- Both services with a faltering codec are in the shadow of what they are with the other. -/
theorem shadows_act (falters : service.codec.Falters c) (r : Request) :
    Action.Shadows ApiError.Hidden (service.act r) ((service.withCodec c).act r) := by
  cases service with
  | users s =>
    have own : s.gate.codec.Falters c := falters
    have handles : ∀ principal e, Action.Shadows ApiError.Hidden (s.handler r principal e)
        ((s.withCodec c).handler r principal e) := UserService.shadows_handler own r
    unfold act withCodec
    dsimp only
    refine Gate.shadows_pass own r fun principal => ?_
    exact Routing.shadows_dispatch (handles principal)
  | admin s =>
    have own : s.gate.codec.Falters c := falters
    have handles : ∀ principal e, Action.Shadows ApiError.Hidden (s.handler r principal e)
        ((s.withCodec c).handler r principal e) := AdminService.shadows_handler own r
    unfold act withCodec
    dsimp only
    refine Gate.shadows_pass own r fun principal => ?_
    exact Routing.shadows_dispatch (handles principal)

theorem shadows_self (service : Service) (r : Request) :
    Action.Shadows ApiError.Hidden (service.act r) (service.act r) := by
  have own := shadows_act (Codec.Falters.refl service.codec) r
  rwa [show service.withCodec service.codec = service by cases service <;> rfl] at own

/-- A client is told the same of ends that are alike. -/
theorem answer_eq_of_endAlike {result result' : Checked ApiError Response}
    (alike : EndAlike ApiError.Hidden result result') (bodiless : Bool) :
    Routing.answer bodiless result = Routing.answer bodiless result' := by
  rcases alike with rfl | ⟨m, cause, cause', masks, masks', rfl, rfl⟩
  · rfl
  · rw [masks.answer_eq, masks'.answer_eq]

/-- Failures around a service are told apart by their masks alone. -/
theorem run_eq_of_alike {related : σ → τ → Prop} (alike : AnswerAlike related answer answer')
    (states : related st st') (service : Service) (r : Request) :
    ((service.handle r).run answer st).1 = ((service.handle r).run answer' st').1 := by
  rw [run_handle, run_handle]
  exact answer_eq_of_endAlike ((shadows_self service r).run_alike alike states) _

/-- A codec that fails to encode makes no difference to a run, or its failure ends it as one
inside. -/
theorem run_withCodec_eq_or (falters : service.codec.Falters c) (r : Request)
    (answer : (e : Effect) → σ → e.Answer × σ) (st : σ) :
    ((service.withCodec c).handle r).run answer st = (service.handle r).run answer st ∨
      (((service.withCodec c).handle r).run answer st).1 =
        some (Mask.internal.response (service.isBodiless r)) := by
  rw [run_handle, run_handle, isBodiless_withCodec]
  rcases (shadows_act falters r).run_eq_or st with same | ⟨cause, masks, ends⟩
  · exact Or.inl (by rw [same])
  · exact Or.inr ((congrArg _ ends).trans (masks.answer_eq _))

/-- Why a codec fails to encode is not told. -/
theorem run_withCodec_eq (alike : service.codec.FailsAlike c) (r : Request)
    (answer : (e : Effect) → σ → e.Answer × σ) (st : σ) :
    (((service.withCodec c).handle r).run answer st).1 = ((service.handle r).run answer st).1 := by
  obtain ⟨falters, falters'⟩ := Codec.failsAlike_iff.mp alike
  rw [← service.codec_withCodec c] at falters'
  have there := run_withCodec_eq_or falters r answer st
  have here := run_withCodec_eq_or falters' r answer st
  rw [withCodec_withCodec, isBodiless_withCodec] at here
  rcases there with same | failed
  · exact congrArg Prod.fst same
  · rcases here with same | failed'
    · exact (congrArg Prod.fst same).symm
    · exact failed.trans failed'.symm

/-- A failure around a service is answered with its mask. -/
theorem run_of_meets {m : Mask}
    (meets : (service.handle r).Meets answer (fun e x => e.mask? x = some m) st) :
    ((service.handle r).run answer st).1 = some (m.response (service.isBodiless r)) := by
  rw [handle_eq, Program.meets_bind_done] at meets
  obtain ⟨cause, masks, ends⟩ := (shadows_self service r).run_of_meets meets
  rw [run_handle]
  exact (congrArg _ ends).trans (masks.answer_eq _)

end Service

/-- A refresh whose token is not rotated is answered with the code of the rejection, if it is about
the token, and else with the mask of failures inside. -/
theorem UserService.run_refresh_of_refused {s : UserService} {r : Request} {st t : σ}
    {answer : (e : Effect) → σ → e.Answer × σ} {principal : Option Principal}
    {body : RefreshRequest} {cause : RotationError}
    (through : s.gate.HandsOver r answer st principal t)
    (found : Endpoint.ofSegments? r.segments = some .refresh) (posted : r.method = "POST")
    (read : r.readBody RefreshRequest.read = .ok body)
    (refused : ((Rotation.rotate s.codec body.refreshToken).run.run answer t).1 =
      .error (.refused cause)) :
    ((s.handle r).run answer st).1 = some (
      if cause.isRejection then Routing.refusal false 401 cause.code cause.message
      else Mask.internal.response false) := by
  have bodied : Routing.dropsBody Endpoint.method (Endpoint.ofSegments? r.segments) r = false :=
    dropsBody_of_posted posted _
  have taken : Routing.accepts (Endpoint.method .refresh) r.method = true := by
    rw [posted]
    decide
  have ends : ((s.refresh body).run.run answer t).1 = .error (.refused (.rotation cause)) := by
    rw [refresh, Action.run_bind, Action.run_mapCause]
    cases rotated : (Rotation.rotate s.codec body.refreshToken).run.run answer t with
    | mk result u =>
      rw [rotated] at refused
      obtain rfl : result = _ := refused
      rfl
  have handled : ((s.handle r).run answer st).1 =
      Routing.answer false ((s.refresh body).run.run answer t).1 := by
    rw [handle, Routing.handle, Program.run_bind, through, bodied, found, Routing.dispatch,
      if_pos taken, handler, Routing.withBody, read]
    rfl
  rw [handled, ends]
  split
  · rename_i rejects
    exact ApiError.answer_rejection rejects false
  · rename_i inner
    exact (ApiError.hidden_rotation_of_not_isRejection (Bool.eq_false_iff.mpr inner)).answer_eq false

/-- Causes inside stay there. Two runs that differ only in the texts of failures, around the service
or of its encoding, are answered alike. A failure to encode is answered as one inside, for a run that
is answered in another way is the run without it; a failure around the service is answered with its
mask, that of the peer with 502. A refresh token that is rejected is answered with 401 and a code of
its own, and one that is not rotated for another cause with 500. -/
theorem Service.internal_causes_stay_inside {related : σ → τ → Prop}
    {answer : (e : Effect) → σ → e.Answer × σ} {answer' : (e : Effect) → τ → e.Answer × τ}
    (alike : AnswerAlike related answer answer') {st : σ} {st' : τ} (states : related st st')
    (service : Service) (r : Request) :
    let rejections : List (RotationError × String × String) :=
      [(.token .malformed, "malformed", "token is malformed"),
        (.token .invalidSignature, "invalid_signature", "token signature is invalid"),
        (.token .expired, "expired", "token has expired"),
        (.wrongTokenType, "wrong_token_type", "token is not a refresh token"),
        (.missingTokenId, "missing_token_id", "refresh token has no jti"),
        (.unknownPrincipal, "unknown_principal",
          "token subject does not resolve to an active user"),
        (.unknownToken, "unknown_token", "refresh token is not in the ledger"),
        (.tokenReplayed, "token_replayed", "refresh token was already used or revoked"),
        (.tokenExpired, "token_expired", "refresh token has expired"),
        (.concurrentRotation, "concurrent_rotation", "refresh token was rotated concurrently")]
    (∀ c, service.codec.FailsAlike c → (((service.withCodec c).handle r).run answer' st').1 =
      ((service.handle r).run answer st).1) ∧
    (∀ c, service.codec.Falters c → ((service.withCodec c).handle r).run answer st =
        (service.handle r).run answer st ∨
      (((service.withCodec c).handle r).run answer st).1 =
        some (Mask.internal.response (service.isBodiless r))) ∧
    (∀ m, (service.handle r).Meets answer (fun e x => e.mask? x = some m) st →
      ((service.handle r).run answer st).1 = some (m.response (service.isBodiless r))) ∧
    ((service.handle r).Meets answer (fun e => e.IsReply fun reply =>
        (∃ reason, reply = .unreachable reason) ∨
        ∃ status body, reply = .answered status body ∧ status ≠ 404 ∧
          (status < 200 ∨ 300 ≤ status ∨ ∃ e, (Json.Document.scan (Text.Utf8.units body)).read
            (Json.Tree.keep Json.depthLimit) = .error e)) st →
      ((service.handle r).run answer st).1 = some (Routing.refusal (service.isBodiless r) 502
        "upstream_error" "upstream service call failed")) ∧
    (∀ s principal t body cause, service = .users s → s.gate.HandsOver r answer st principal t →
      UserService.Endpoint.ofSegments? r.segments = some .refresh → r.method = "POST" →
      r.readBody RefreshRequest.read = .ok body →
      ((Rotation.rotate s.codec body.refreshToken).run.run answer t).1 = .error (.refused cause) →
      (∀ code message, (cause, code, message) ∈ rejections →
        ((s.handle r).run answer st).1 = some (Routing.refusal false 401 code message)) ∧
      (cause ∉ rejections.map Prod.fst →
        ((s.handle r).run answer st).1 =
          some (Routing.refusal false 500 "internal_error" "internal server error"))) ∧
    (rejections.map fun told => told.2.1).Nodup := by
  intro rejections
  have failures : ∀ m, (service.handle r).Meets answer (fun e x => e.mask? x = some m) st →
      ((service.handle r).run answer st).1 = some (m.response (service.isBodiless r)) :=
    fun m meets => run_of_meets meets
  refine ⟨fun c differs => ?_, fun c falters => run_withCodec_eq_or falters r answer st, failures,
    fun meets => ?_, ?_, by decide⟩
  · rw [run_withCodec_eq differs]
    exact (run_eq_of_alike alike states service r).symm
  · apply failures .upstream
    apply meets.imp
    intro e x replied
    refine replied.mask?_eq ?_
    rintro reply (⟨reason, rfl⟩ | ⟨status, body, rfl, other, cause⟩)
    · rfl
    · exact PeerReply.fails_answered other cause
  · rintro s principal t body cause rfl through found posted read refused
    have told := UserService.run_refresh_of_refused through found posted read refused
    have listed : rejections.map Prod.fst = RotationError.rejections := rfl
    have texts : ∀ x ∈ rejections, x.1.code = x.2.1 ∧ x.1.message = x.2.2 := by decide
    rw [listed, ← RotationError.isRejection_iff]
    constructor
    · intro code message member
      have named : cause ∈ rejections.map Prod.fst := List.mem_map.mpr ⟨_, member, rfl⟩
      have rejects := RotationError.isRejection_iff.mpr named
      have same : cause.code = code ∧ cause.message = message := texts _ member
      rw [told, if_pos rejects, same.1, same.2]
    · intro inner
      rw [told, if_neg inner]
      rfl

namespace Service.Sample

open UserService.Sample (service world login)

/-- A world whose directory fails every call. -/
def closed (reason : String) : (e : Effect) → World → e.Answer × World
  | .directory _, w => (.error (.storage reason), w)
  | e, w => w.answer e

theorem closed_alike (reason reason' : String) :
    AnswerAlike Eq (closed reason) (closed reason') := by
  rintro e w _ rfl
  cases e with
  | directory call => exact ⟨Or.inr ⟨.internal, rfl, rfl⟩, rfl⟩
  | _ => exact ⟨Or.inl rfl, rfl⟩

/-- A refresh with a text that is no token. -/
def refresh : Request :=
  ⟨"POST", "/auth/refresh", [⟨"content-type", Text.Utf8.bytes "application/json"⟩], Text.Utf8.bytes
    "\x7b\"refresh_token\":\"x\"\x7d"⟩

/-- A codec whose tokens would end as they begin, so it encodes none. -/
def codec (issuer : String) : Codec :=
  { UserService.Sample.codec with
    settings := ⟨issuer, .standard, ⟨⟨0, by decide, by decide⟩, ⟨0, by decide, by decide⟩,
      ⟨0, by decide, by decide⟩⟩⟩ }

theorem flaw?_of_ended {claims : Claims} (ended : claims.expiresAt ≤ claims.issuedAt) :
    claims.flaw? ≠ none := by
  unfold Claims.flaw?
  split
  · exact Option.some_ne_none _
  split
  · exact Option.some_ne_none _
  · exact Option.some_ne_none _

theorem mint_eq_or (c c' : Codec) {expiry : Option Instant} {f f' : Instant → Claims}
    (ended : ∀ e ∈ expiry, (f' e).expiresAt ≤ (f' e).issuedAt) :
    c'.mint (expiry.map f') = c.mint (expiry.map f) ∨
      Codec.IsUnencoded (c'.mint (expiry.map f')) := by
  cases expiry with
  | none => exact Or.inl rfl
  | some e =>
    obtain ⟨flaw, broken⟩ := Option.ne_none_iff_exists'.mp (flaw?_of_ended (ended e rfl))
    refine Or.inr ⟨flaw, ?_⟩
    simp only [Option.map_some, Codec.mint, Codec.encode, Claims.validate, broken]

/-- Nothing after a whole second is that second. -/
theorem le_of_add?_zero {now e : Instant}
    (added : now.wholeSeconds.add? ⟨0, by decide, by decide⟩ = some e) : e ≤ now.wholeSeconds := by
  obtain ⟨seconds, nanos⟩ := Instant.make?_eq_some added
  dsimp only [Instant.wholeSeconds] at seconds nanos
  rw [Instant.le_def]
  dsimp only [Instant.wholeSeconds]
  omega

theorem falters (issuer issuer' : String) : (codec issuer).Falters (codec issuer') := by
  refine ⟨rfl, rfl, fun now subject roles audience => ?_, fun now subject id => ?_,
    fun now audience => ?_⟩
  all_goals exact mint_eq_or _ _ fun _ added => le_of_add?_zero added

/-- A client is told the same by two services that fail to encode for different causes, beside
directories that fail for different causes; a text that is no token is told to be malformed. -/
theorem closed_directory_stays_inside :
    AnswerAlike Eq (closed "disk on fire") (closed "pool closed") ∧
      (codec "user-service").FailsAlike (codec "") ∧
      (((users (service (codec ""))).handle login).run (closed "pool closed") world).1 =
        (((users (service (codec "user-service"))).handle login).run (closed "disk on fire")
          world).1 ∧
      (((users (service (codec "user-service"))).handle login).run (closed "disk on fire")
        world).1 = some (Mask.internal.response false) ∧
      (((service (codec "user-service")).handle refresh).run (closed "disk on fire") world).1 =
        some (Routing.refusal false 401 "malformed" "token is malformed") := by
  have alike := closed_alike "disk on fire" "pool closed"
  have texts := Codec.failsAlike_iff.mpr ⟨falters "user-service" "", falters "" "user-service"⟩
  have met : ((users (service (codec "user-service"))).handle login).Meets (closed "disk on fire")
      (fun e x => e.mask? x = some .internal) world := by
    decide +kernel
  have bodied : (users (service (codec "user-service"))).isBodiless login = false := by
    decide
  have renamed : (users (service (codec "user-service"))).withCodec (codec "") =
      users (service (codec "")) := rfl
  obtain ⟨same, -, masked, -⟩ := internal_causes_stay_inside alike (Eq.refl world)
    (users (service (codec "user-service"))) login
  have answered := same _ texts
  have failed := masked _ met
  rw [renamed] at answered
  rw [bodied] at failed
  have through : (service (codec "user-service")).gate.HandsOver refresh (closed "disk on fire")
      world none world := Gate.handsOver_bare (by decide) (by decide) _ _
  obtain ⟨-, -, -, -, rejected, -⟩ := internal_causes_stay_inside alike (Eq.refl world)
    (users (service (codec "user-service"))) refresh
  obtain ⟨told, -⟩ := rejected _ none world ⟨"x"⟩ (.token .malformed) rfl through (by decide) rfl
    (by decide +kernel) (by decide +kernel)
  exact ⟨alike, texts, answered, failed, told _ _ (by decide)⟩

end Service.Sample

end SessionTokens
