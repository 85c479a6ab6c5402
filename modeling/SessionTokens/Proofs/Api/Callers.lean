import SessionTokens.Api.AdminService
import SessionTokens.Proofs.Api.Admission

set_option autoImplicit false

namespace SessionTokens

variable {σ : Type} {answer : (e : Effect) → σ → e.Answer × σ} {s : σ} {g : Gate} {r : Request}

namespace Routing

variable {E : Type} {method : E → String} {endpoint : Option E} {e : E}
  {principal : Option Principal}

/-- A request is handled by the handler of an endpoint, which is given a principal or none. -/
def Hands (g : Gate) (method : E → String) (endpoint : Option E) (r : Request)
    (answer : (e : Effect) → σ → e.Answer × σ) (s : σ) (principal : Option Principal) (e : E) :
    Prop :=
  ∃ t, ReadsClocks answer s t ∧ ∀ handler : Option Principal → E → Action ApiError Response,
    (handle g method endpoint r handler).run answer s =
      let (result, u) := (handler principal e).run.run answer t
      (Routing.answer (dropsBody method endpoint r) result, u)

/-- An endpoint goes on with a principal, who has to be there. -/
def RequiresPrincipal (handler : Option Principal → E → Action ApiError Response) (e : E) : Prop :=
  ∃ go, ∀ principal, handler principal e = withPrincipal principal go

theorem status_answer (bodiless : Bool) (response : Response) :
    (Routing.answer bodiless (.ok response)).map Response.status = some response.status := by
  cases bodiless <;> rfl

/-- What a handler answers is seen in the answer to a request that is handled by it. -/
theorem Hands.status_eq (hands : Hands g method endpoint r answer s principal e)
    (status : Option Principal → E → Nat) :
    ((handle g method endpoint r fun p e' => pure (.bare (status p e'))).run answer s).1.map
      Response.status = some (status principal e) := by
  obtain ⟨t, -, calls⟩ := hands
  rw [calls]
  exact status_answer _ _

theorem Hands.unique {principal' : Option Principal} {e' : E}
    (hands : Hands g method endpoint r answer s principal e)
    (hands' : Hands g method endpoint r answer s principal' e') :
    principal' = principal ∧ e' = e := by
  classical
  have told := hands.status_eq fun p x => if p = principal ∧ x = e then 1 else 2
  rw [hands'.status_eq, if_pos (⟨rfl, rfl⟩ : principal = principal ∧ e = e),
    Option.some.injEq] at told
  refine Classical.byContradiction fun other => ?_
  rw [if_neg other] at told
  cases told

/-- A request that is let through is handled by the handler of its path, if this takes its
method. -/
theorem hands_of_letsThrough (through : g.LetsThrough r answer s principal)
    (found : endpoint = some e) (taken : accepts (method e) r.method = true) :
    Hands g method endpoint r answer s principal e := by
  subst found
  obtain ⟨t, read, reaches⟩ := through
  refine ⟨t, read, fun handler => ?_⟩
  rw [handle, Program.run_bind, reaches, dispatch, if_pos taken]
  rfl

/-- A request is handled by the handler of its path, or the handlers have no part in its answer. -/
theorem handle_cases (g : Gate) (method : E → String) (endpoint : Option E) (r : Request)
    (answer : (e : Effect) → σ → e.Answer × σ) (s : σ) :
    (∃ principal e, endpoint = some e ∧ accepts (method e) r.method = true ∧
      g.LetsThrough r answer s principal ∧ Hands g method endpoint r answer s principal e) ∨
      ∀ handler handler' : Option Principal → E → Action ApiError Response,
        (handle g method endpoint r handler).run answer s =
          (handle g method endpoint r handler').run answer s := by
  obtain ⟨t, -, run⟩ := g.run_pass r answer s
  cases decided : g.verdict r answer s with
  | error cause =>
    refine Or.inr fun handler handler' => ?_
    simp only [handle, Program.run_bind, run, decided]
  | ok principal =>
    cases found : endpoint with
    | none =>
      refine Or.inr fun handler handler' => ?_
      simp only [handle, Program.run_bind, run, decided, dispatch]
    | some e =>
      by_cases taken : accepts (method e) r.method = true
      · have through := Gate.letsThrough_iff.mpr decided
        exact Or.inl ⟨principal, e, rfl, taken, through, hands_of_letsThrough through rfl taken⟩
      · refine Or.inr fun handler handler' => ?_
        simp only [handle, Program.run_bind, run, decided, dispatch, if_neg taken]

/-- The endpoint that handles a request is that of its path, takes its method and is given whom the
gates have let through. -/
theorem Hands.reached (hands : Hands g method endpoint r answer s principal e) :
    endpoint = some e ∧ accepts (method e) r.method = true ∧
      g.LetsThrough r answer s principal := by
  rcases handle_cases g method endpoint r answer s with
    ⟨principal', e', found, taken, through, hands'⟩ | same
  · obtain ⟨rfl, rfl⟩ := hands.unique hands'
    exact ⟨found, taken, through⟩
  · have told := hands.status_eq fun _ _ => 1
    rw [same _ fun _ _ => pure (.bare 2), hands.status_eq fun _ _ => 2] at told
    cases told

theorem Hands.letsThrough (hands : Hands g method endpoint r answer s principal e) :
    g.LetsThrough r answer s principal :=
  hands.reached.2.2

/-- Whatever is handled with a principal is handled with the access token of this principal. -/
theorem Hands.principal_iff (hands : Hands g method endpoint r answer s principal e)
    (p : Principal) : principal = some p ↔ ∃ token claims, r.Shows (.bearer token) ∧
      g.codec.readFrom answer s token = .ok claims ∧ claims.kind = .access ∧
      p.subject = claims.subject ∧ p.roles = claims.roles.getD [] := by
  rcases Gate.letsThrough_cases hands.letsThrough with
    ⟨shows, -, rfl⟩ | ⟨token, claims, shows, read, other, -, rfl⟩
  · refine iff_of_false (by simp) ?_
    rintro ⟨token, claims, shows', -⟩
    cases shows.unique shows'
  · cases kind : claims.kind with
    | refresh => exact absurd kind other
    | s2s =>
      rw [Gate.principalOf, if_pos kind]
      refine iff_of_false (by simp) ?_
      rintro ⟨token', claims', shows', read', access, -⟩
      cases shows.unique shows'
      rw [read] at read'
      cases read'
      rw [kind] at access
      cases access
    | access =>
      have person : claims.kind ≠ .s2s := by
        simp [kind]
      rw [Gate.principalOf, if_neg person, Option.some.injEq]
      constructor
      · rintro rfl
        exact ⟨token, claims, shows, read, kind, rfl, rfl⟩
      · rintro ⟨token', claims', shows', read', -, subject, roles⟩
        cases shows.unique shows'
        rw [read] at read'
        cases read'
        obtain ⟨_, _⟩ := p
        rw [Principal.ofClaims, Principal.mk.injEq]
        exact ⟨subject.symm, roles.symm⟩

/-- Without a principal there is no credential, or a service's token. -/
theorem Hands.none_iff (hands : Hands g method endpoint r answer s principal e) :
    principal = none ↔ r.Shows .none ∨ ∃ token claims, r.Shows (.bearer token) ∧
      g.codec.readFrom answer s token = .ok claims ∧ claims.kind = .s2s := by
  rcases Gate.letsThrough_cases hands.letsThrough with
    ⟨shows, -, rfl⟩ | ⟨token, claims, shows, read, -, -, rfl⟩
  · exact iff_of_true rfl (Or.inl shows)
  · rw [Gate.principalOf]
    constructor
    · intro none
      split at none
      · rename_i kind
        exact Or.inr ⟨token, claims, shows, read, kind⟩
      · cases none
    · rintro (shows' | ⟨token', claims', shows', read', service⟩)
      · cases shows.unique shows'
      · cases shows.unique shows'
        rw [read] at read'
        cases read'
        exact if_pos service

/-- An endpoint that requires a principal refuses a request without one. -/
theorem Hands.refused {handler : Option Principal → E → Action ApiError Response}
    (hands : Hands g method endpoint r answer s none e) (requires : RequiresPrincipal handler e) :
    ∃ t message, ReadsClocks answer s t ∧ (handle g method endpoint r handler).run answer s =
      (some (refusal (dropsBody method endpoint r) 401 "unauthorized" message), t) := by
  obtain ⟨t, read, calls⟩ := hands
  obtain ⟨go, needs⟩ := requires
  let cause : ApiError := .unauthorized "authentication required"
  refine ⟨t, cause.publicMessage, read, ?_⟩
  rw [calls, needs]
  exact Prod.ext (answer_refused _ cause) rfl

/-- Where a principal is required, whoever has no access token is answered 401. -/
theorem unauthorized {keys : KeyMaterial} {settings : CodecSettings}
    (made : Codec.make keys settings = .ok g.codec) (outside : g.isInternal r.path = false)
    (found : endpoint = some e) (taken : accepts (method e) r.method = true)
    {handler : Option Principal → E → Action ApiError Response}
    (requires : RequiresPrincipal handler e)
    (nobody : ∀ token claims, r.Shows (.bearer token) →
      g.codec.readFrom answer s token = .ok claims → claims.kind ≠ .access) :
    ∃ t code message, ReadsClocks answer s t ∧ (handle g method endpoint r handler).run answer s =
      (some (refusal (dropsBody method endpoint r) 401 code message), t) := by
  have refused {code : String} (refuses : g.Refuses r answer s 401 code) : ∃ t code message,
      ReadsClocks answer s t ∧ (handle g method endpoint r handler).run answer s =
        (some (refusal (dropsBody method endpoint r) 401 code message), t) := by
    obtain ⟨t, message, reads, answers⟩ := refuses
    exact ⟨t, code, message, reads, answers method endpoint handler⟩
  have strange (through : ∃ principal, g.LetsThrough r answer s principal) : ∃ t code message,
      ReadsClocks answer s t ∧ (handle g method endpoint r handler).run answer s =
        (some (refusal (dropsBody method endpoint r) 401 code message), t) := by
    obtain ⟨principal, through⟩ := through
    have hands := hands_of_letsThrough through found taken
    have nameless : principal = none := by
      cases known : principal with
      | none => rfl
      | some p =>
        obtain ⟨token, claims, shows, read, access, -⟩ := (hands.principal_iff p).mp known
        exact absurd access (nobody token claims shows read)
    subst nameless
    obtain ⟨t, message, reads, answers⟩ := hands.refused requires
    exact ⟨t, "unauthorized", message, reads, answers⟩
  obtain ⟨shown, shows⟩ := r.exists_shows
  cases shown with
  | none => exact strange ((Gate.letsThrough_outside_iff outside).mpr (Or.inl shows))
  | unreadable => exact refused (Gate.refuses_unreadable shows)
  | bearer token =>
    cases read : g.codec.readFrom answer s token with
    | error e =>
      exact refused (Gate.refuses_unread shows read (Codec.isOfToken_of_readFrom made read))
    | ok claims =>
      by_cases refresh : claims.kind = .refresh
      · exact refused (Gate.refuses_refresh shows read refresh)
      · exact strange ((Gate.letsThrough_outside_iff outside).mpr
          (Or.inr ⟨token, claims, shows, read, refresh⟩))

/-- What the handlers of a router know of the sender of a request, and when none of them is
reached. -/
structure Identifies (g : Gate) (method : E → String) (endpoint : Option E) (r : Request)
    (answer : (e : Effect) → σ → e.Answer × σ) (s : σ) : Prop where
  reached : ∀ principal e, endpoint = some e → accepts (method e) r.method = true →
    g.LetsThrough r answer s principal → Hands g method endpoint r answer s principal e
  person : ∀ principal e, Hands g method endpoint r answer s principal e → ∀ p,
    principal = some p ↔ ∃ token claims, r.Shows (.bearer token) ∧
      g.codec.readFrom answer s token = .ok claims ∧ claims.kind = .access ∧
      p.subject = claims.subject ∧ p.roles = claims.roles.getD []
  nobody : ∀ principal e, Hands g method endpoint r answer s principal e →
    (principal = none ↔ r.Shows .none ∨ ∃ token claims, r.Shows (.bearer token) ∧
      g.codec.readFrom answer s token = .ok claims ∧ claims.kind = .s2s)
  required : ∀ handler e, RequiresPrincipal handler e →
    Hands g method endpoint r answer s none e →
    ∃ t message, ReadsClocks answer s t ∧ (handle g method endpoint r handler).run answer s =
      (some (refusal (dropsBody method endpoint r) 401 "unauthorized" message), t)
  unreadable : r.Shows .unreadable → g.Refuses r answer s 401 "malformed"
  unread : ∀ token e, r.Shows (.bearer token) → g.codec.readFrom answer s token = .error e →
    e.IsOfToken → g.Refuses r answer s 401 e.code
  refresh : ∀ token claims, r.Shows (.bearer token) →
    g.codec.readFrom answer s token = .ok claims → claims.kind = .refresh →
    g.Refuses r answer s 401 "wrong_token_type"
  ofToken : ∀ keys settings, Codec.make keys settings = .ok g.codec →
    ∀ token e, g.codec.readFrom answer s token = .error e → e.IsOfToken

theorem identifies (g : Gate) (method : E → String) (endpoint : Option E) (r : Request)
    (answer : (e : Effect) → σ → e.Answer × σ) (s : σ) :
    Identifies g method endpoint r answer s where
  reached _ _ found taken through := hands_of_letsThrough through found taken
  person _ _ hands := hands.principal_iff
  nobody _ _ hands := hands.none_iff
  required _ _ requires hands := hands.refused requires
  unreadable := Gate.refuses_unreadable
  unread _ _ shows refused ofToken := Gate.refuses_unread shows refused ofToken
  refresh _ _ shows read refresh := Gate.refuses_refresh shows read refresh
  ofToken _ _ made _ _ refused := Codec.isOfToken_of_readFrom made refused

end Routing

end SessionTokens
