import SessionTokens.Proofs.Api.Atomicity
import SessionTokens.Proofs.Api.Callers
import SessionTokens.Proofs.Api.Internal

set_option autoImplicit false

namespace SessionTokens

variable {σ : Type} {answer : (e : Effect) → σ → e.Answer × σ} {st : σ}

namespace UserService

open Text

variable {s : UserService} {r : SessionTokens.Request}

/-- The handler of an internal endpoint runs for a request. -/
def RunsInternal (s : UserService) (r : SessionTokens.Request)
    (answer : (e : Effect) → σ → e.Answer × σ) (st : σ) : Prop :=
  ∃ principal e, e.isInternal = true ∧ Routing.Hands s.gate Endpoint.method
    (Endpoint.ofSegments? r.segments) r answer st principal e

/-- A request shows the token of a service, flagged as one and addressed to this service. -/
def Trusts (s : UserService) (r : SessionTokens.Request)
    (answer : (e : Effect) → σ → e.Answer × σ) (st : σ) : Prop :=
  ∃ token claims, r.Shows (.bearer token) ∧ s.codec.readFrom answer st token = .ok claims ∧
    claims.kind = .s2s ∧ claims.s2s = some true ∧ s.gate.serviceId ∈ claims.audience

/-- Where no internal handler runs, none has a part in the answer. -/
theorem eq_of_not_runsInternal (idle : ¬ s.RunsInternal r answer st)
    {handler handler' : Option Principal → Endpoint → Action ApiError Response}
    (agree : ∀ principal e, e.isInternal = false → handler principal e = handler' principal e) :
    (Routing.handle s.gate Endpoint.method (Endpoint.ofSegments? r.segments) r handler).run
        answer st =
      (Routing.handle s.gate Endpoint.method (Endpoint.ofSegments? r.segments) r handler').run
        answer st := by
  rcases Routing.handle_cases s.gate Endpoint.method (Endpoint.ofSegments? r.segments) r answer st
    with ⟨principal, e, -, -, -, hands⟩ | same
  · have other : e.isInternal = false :=
      Bool.eq_false_iff.mpr fun internal => idle ⟨principal, e, internal, hands⟩
    obtain ⟨t, -, calls⟩ := hands
    rw [calls, calls, agree principal e other]
  · exact same handler handler'

/-- For whom an internal handler runs: for services, and behind a path that is not guarded for
whoever shows nothing or a token that may accompany a request. -/
theorem runsInternal_iff (s : UserService) (r : SessionTokens.Request)
    (answer : (e : Effect) → σ → e.Answer × σ) (st : σ) : s.RunsInternal r answer st ↔
    ∃ e, Endpoint.ofSegments? r.segments = some e ∧ e.isInternal = true ∧
      Routing.accepts e.method r.method = true ∧
      (s.Trusts r answer st ∨ s.gate.isInternal r.path = false ∧
        (r.Shows .none ∨ ∃ token claims, r.Shows (.bearer token) ∧
          s.codec.readFrom answer st token = .ok claims ∧ claims.kind ≠ .refresh)) := by
  constructor
  · rintro ⟨principal, e, internal, hands⟩
    obtain ⟨found, taken, through⟩ := hands.reached
    refine ⟨e, found, internal, taken, ?_⟩
    cases inside : s.gate.isInternal r.path with
    | true => exact Or.inl ((Gate.letsThrough_internal_iff inside).mp through).2
    | false =>
      exact Or.inr ⟨rfl, (Gate.letsThrough_outside_iff inside).mp ⟨principal, through⟩⟩
  · rintro ⟨e, found, internal, taken, caller⟩
    have through : ∃ principal, s.gate.LetsThrough r answer st principal := by
      cases inside : s.gate.isInternal r.path with
      | true =>
        rcases caller with called | ⟨outside, -⟩
        · exact ⟨none, (Gate.letsThrough_internal_iff inside).mpr ⟨rfl, called⟩⟩
        · rw [inside] at outside
          cases outside
      | false =>
        refine (Gate.letsThrough_outside_iff inside).mpr ?_
        rcases caller with ⟨token, claims, shows, read, service, -⟩ | ⟨-, anyone⟩
        · exact Or.inr ⟨token, claims, shows, read, by simp [service]⟩
        · exact anyone
    obtain ⟨principal, through⟩ := through
    exact ⟨principal, e, internal, Routing.hands_of_letsThrough through found taken⟩

theorem internalPrefixes_of_make {config : ServiceConfig} {costs : Crypto.Argon2.Costs}
    (built : make config costs = .ok s) : s.gate.internalPrefixes = config.internalPrefixes := by
  rw [make] at built
  cases coded : config.codec with
  | error e =>
    rw [coded] at built
    cases built
  | ok c =>
    rw [coded] at built
    cases built
    rfl

/-- The internal handlers of a service run for the services that it trusts, and for others just
where the prefixes that its environment lists leave a path out: there for whoever shows nothing, or
a token that may accompany a request. So they are closed if and only if every path that leads to one
of them begins with a listed prefix, as all do where `/internal/users/` does. Not every list that is
accepted is of this kind. -/
theorem internal_handlers_closed_iff {env : Environment} {config : ServiceConfig}
    {costs : Crypto.Argon2.Costs} (loaded : ServiceConfig.load .user env = .ok config)
    (built : make config costs = .ok s) (answer : (e : Effect) → σ → e.Answer × σ) (st : σ) :
    let prefixes := (env.get? "WARDEN_INTERNAL_PREFIXES").elim ["/internal/"] ServiceConfig.listed
    (∀ r : SessionTokens.Request, s.RunsInternal r answer st ↔
      ∃ e, Endpoint.ofSegments? r.segments = some e ∧ e.isInternal = true ∧
        Routing.accepts e.method r.method = true ∧
        (s.Trusts r answer st ∨ (∀ start ∈ prefixes, startsWith start r.path = false) ∧
          (r.Shows .none ∨ ∃ token claims, r.Shows (.bearer token) ∧
            s.codec.readFrom answer st token = .ok claims ∧ claims.kind ≠ .refresh))) ∧
    ((∀ r : SessionTokens.Request, s.RunsInternal r answer st → s.Trusts r answer st) ↔
      ∀ (r : SessionTokens.Request) (e : Endpoint), Endpoint.ofSegments? r.segments = some e →
        e.isInternal = true → ∃ start ∈ prefixes, startsWith start r.path = true) ∧
    ((∃ start ∈ prefixes, startsWith start "/internal/users/" = true) →
      ∀ r : SessionTokens.Request, s.RunsInternal r answer st → s.Trusts r answer st) := by
  intro prefixes
  have guarded : s.gate.internalPrefixes = prefixes :=
    (internalPrefixes_of_make built).trans (ServiceConfig.internalPrefixes_of_load loaded)
  have outside (r : SessionTokens.Request) : s.gate.isInternal r.path = false ↔
      ∀ start ∈ prefixes, startsWith start r.path = false := by
    rw [Gate.isInternal, guarded, List.any_eq_false]
    simp only [Bool.not_eq_true]
  have runs (r : SessionTokens.Request) := runsInternal_iff s r answer st
  simp only [outside] at runs
  have closed : (∀ (r : SessionTokens.Request) (e : Endpoint),
      Endpoint.ofSegments? r.segments = some e → e.isInternal = true →
        ∃ start ∈ prefixes, startsWith start r.path = true) →
      ∀ r : SessionTokens.Request, s.RunsInternal r answer st → s.Trusts r answer st := by
    intro covered r ran
    obtain ⟨e, found, internal, -, trusted | ⟨uncovered, -⟩⟩ := (runs r).mp ran
    · exact trusted
    · obtain ⟨start, listed, begins⟩ := covered r e found internal
      rw [uncovered start listed] at begins
      cases begins
  refine ⟨runs, ⟨fun trusted r e found internal => ?_, closed⟩, fun ⟨start, listed, under⟩ => ?_⟩
  · by_contra uncovered
    -- a stranger's request for the same path, which shows nothing
    let stranger : SessionTokens.Request := ⟨e.method, r.target, [], []⟩
    have shows : stranger.Shows .none := .absent rfl
    have left : ∀ start ∈ prefixes, startsWith start stranger.path = false := fun start listed =>
      Bool.eq_false_iff.mpr fun begins => uncovered ⟨start, listed, begins⟩
    have taken : Routing.accepts e.method stranger.method = true := by
      rw [Routing.accepts, beq_self_eq_true, Bool.true_or]
    have ran := (runs stranger).mpr ⟨e, found, internal, taken, Or.inr ⟨left, Or.inl shows⟩⟩
    obtain ⟨token, -, shows', -⟩ := trusted stranger ran
    cases shows.unique shows'
  · refine closed fun r e found internal => ⟨start, listed, ?_⟩
    rw [Endpoint.path_of_segments found]
    exact startsWith_trans under (Endpoint.startsWith_users_path internal)

namespace Sample

/-- Where no prefixes are listed, a stranger does not get to the internal handlers. -/
theorem internal_handlers_closed_by_default :
    ¬ (service codec).RunsInternal ⟨"GET", "/internal/users/0", [], []⟩ World.answer
      signedUp.2 := by
  have law := internal_handlers_closed_iff loaded built World.answer signedUp.2
  intro runs
  obtain ⟨token, -, shows, -⟩ :=
    law.2.2 ⟨"/internal/", List.mem_singleton_self _, by decide⟩ _ runs
  cases (Request.Shows.absent rfl).unique shows

-- A service whose environment lists another prefix, after someone has signed up to it.
def openEnvironment : Environment :=
  environment [("WARDEN_INTERNAL_PREFIXES", "/private/")] []

def openConfig : ServiceConfig :=
  { config none none with internalPrefixes := ["/private/"] }

def openService : UserService :=
  ⟨⟨codec, "user-service", ["/private/"]⟩, costs⟩

@[irreducible] def populated : World :=
  ((openService.handle signup).run World.answer world).2

def account : String :=
  "00000000-0000-7e5a-a80a-f6fdeecf029e"

/-- A stranger asks for an account. -/
def reads : SessionTokens.Request :=
  ⟨"GET", "/internal/users/" ++ account, [], []⟩

/-- A stranger ends the sessions of an account. -/
def revokes : SessionTokens.Request :=
  ⟨"POST", "/internal/users/" ++ account ++ "/revoke-sessions", [], []⟩

theorem runsInternal_of_stranger {r : SessionTokens.Request} {e : Endpoint}
    (bare : r.headers = []) (found : Endpoint.ofSegments? r.segments = some e)
    (internal : e.isInternal = true) (taken : Routing.accepts e.method r.method = true)
    (outside : openService.gate.isInternal r.path = false) (w : World) :
    openService.RunsInternal r World.answer w ∧ ¬ openService.Trusts r World.answer w := by
  have shows : r.Shows .none := by
    refine .absent ?_
    rw [Request.header?, bare]
    rfl
  refine ⟨(runsInternal_iff _ _ _ _).mpr
    ⟨e, found, internal, taken, Or.inr ⟨outside, Or.inl shows⟩⟩, ?_⟩
  rintro ⟨token, -, shows', -⟩
  cases shows.unique shows'

/-- The service starts, and without any token a stranger reads the account and ends its session. -/
theorem strangers_reach_internal_handlers :
    ServiceConfig.load .user openEnvironment = .ok openConfig ∧
    make openConfig costs = .ok openService ∧
    (openService.RunsInternal reads World.answer populated ∧
      ¬ openService.Trusts reads World.answer populated) ∧
    ((openService.handle reads).run World.answer populated).1.map Response.status = some 200 ∧
    (openService.RunsInternal revokes World.answer populated ∧
      ¬ openService.Trusts revokes World.answer populated) ∧
    ((openService.handle revokes).run World.answer populated).1.map Response.status = some 200 ∧
    populated.ledger.records.map Record.revoked = [false] ∧
    ((openService.handle revokes).run World.answer populated).2.ledger.records.map
      Record.revoked = [true] := by
  have loads : ServiceConfig.load .user openEnvironment = .ok openConfig := by
    decide +kernel
  have read : ((openService.handle reads).run World.answer populated).1.map Response.status =
      some 200 := by
    decide +kernel
  have revoked : ((openService.handle revokes).run World.answer populated).1.map
      Response.status = some 200 := by
    decide +kernel
  have before : populated.ledger.records.map Record.revoked = [false] := by
    decide +kernel
  have after : ((openService.handle revokes).run World.answer populated).2.ledger.records.map
      Record.revoked = [true] := by
    decide +kernel
  have readsFound : Endpoint.ofSegments? reads.segments = some (.account account) := by
    decide
  have revokesFound : Endpoint.ofSegments? revokes.segments = some (.revokeSessions account) := by
    decide
  exact ⟨loads, rfl, runsInternal_of_stranger rfl readsFound rfl rfl (by decide) populated, read,
    runsInternal_of_stranger rfl revokesFound rfl rfl (by decide) populated, revoked, before,
    after⟩

end Sample

end UserService

end SessionTokens
