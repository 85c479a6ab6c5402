import SessionTokens.Proofs.Api.Callers
import SessionTokens.Proofs.Api.Handlers
import SessionTokens.Proofs.Api.Paths

set_option autoImplicit false

namespace SessionTokens.AdminService

open Text

variable {σ : Type} {answer : (e : Effect) → σ → e.Answer × σ} {st : σ} {s : AdminService}
  {r : SessionTokens.Request} {e : Endpoint} {id : String} {claims : Claims}

/-- A request carries an access token of these claims. -/
def Carries (s : AdminService) (r : SessionTokens.Request)
    (answer : (e : Effect) → σ → e.Answer × σ) (st : σ) (claims : Claims) : Prop :=
  ∃ token, r.Shows (.bearer token) ∧ s.codec.readFrom answer st token = .ok claims ∧
    claims.kind = .access

/-- A request carries an access token with the role of an administrator. -/
def IsAdministrators (s : AdminService) (r : SessionTokens.Request)
    (answer : (e : Effect) → σ → e.Answer × σ) (st : σ) : Prop :=
  ∃ claims, s.Carries r answer st claims ∧ Role.admin ∈ claims.roles.getD []

/-- The endpoint of the user service that a request about a user is passed on to. -/
def Endpoint.atPeer (user : UserId) : Endpoint → UserService.Endpoint
  | .revokeSessions _ => .revokeSessions user.toText
  | _ => .account user.toText

/-- A request about the user whom a path segment names. -/
structure IsAbout (s : AdminService) (r : SessionTokens.Request) (e : Endpoint) (id : String) :
    Prop where
  found : Endpoint.ofSegments? r.segments = some e
  method : r.method = e.method
  segment : ∃ segment, (e = .account segment ∨ e = .revokeSessions segment) ∧
    Percent.decodeText? segment.toList = some id
  outside : s.gate.isInternal r.path = false

theorem IsAbout.requiresPrincipal (about : s.IsAbout r e id) :
    Routing.RequiresPrincipal (s.handler r) e := by
  obtain ⟨segment, rfl | rfl, -⟩ := about.segment
  all_goals exact ⟨_, fun principal => rfl⟩

theorem IsAbout.accepts (about : s.IsAbout r e id) :
    Routing.accepts e.method r.method = true := by
  rw [Routing.accepts, about.method, beq_self_eq_true, Bool.true_or]

theorem IsAbout.dropsBody (about : s.IsAbout r e id) :
    Routing.dropsBody Endpoint.method (Endpoint.ofSegments? r.segments) r = false := by
  rw [Routing.dropsBody, about.method]
  obtain ⟨segment, rfl | rfl, -⟩ := about.segment <;> rfl

theorem IsAbout.handler_eq (about : s.IsAbout r e id) (p : Principal) :
    s.handler r (some p) e =
      relay p id fun user => s.peer.send s.codec e.method (e.atPeer user).path := by
  obtain ⟨segment, rfl | rfl, decoded⟩ := about.segment
  all_goals
    change Routing.withSegment segment _ = _
    rw [Routing.withSegment, decoded]
    rfl

theorem Carries.unique {claims' : Claims} (carries : s.Carries r answer st claims)
    (carries' : s.Carries r answer st claims') : claims = claims' := by
  obtain ⟨token, shows, read, -⟩ := carries
  obtain ⟨token', shows', read', -⟩ := carries'
  cases shows.unique shows'
  exact Except.ok.inj (read.symm.trans read')

theorem Carries.isAdministrators_iff (carries : s.Carries r answer st claims) :
    s.IsAdministrators r answer st ↔ Role.admin ∈ (Principal.ofClaims claims).roles := by
  refine ⟨fun ⟨claims', carries', role⟩ => ?_, fun role => ⟨claims, carries, role⟩⟩
  rw [carries.unique carries']
  exact role

/-- A request about a user is passed on for an administrator who names one. -/
theorem run_relay (answer : (e : Effect) → σ → e.Answer × σ) (st : σ) (p : Principal)
    (id : String) (call : UserId → Action PeerError Json) :
    (relay p id call).run.run answer st =
      if Role.admin ∈ p.roles then
        match UserId.read? id with
        | none => (.error (.refused (.notFound s!"user {id} not found")), st)
        | some user =>
          let (result, t) := (call user).run.run answer st
          ((result.mapError (Fault.map ApiError.ofPeer)).map (Response.json 200), t)
      else (.error (.refused (.forbidden .admin)), st) := by
  rw [relay, Action.run_bind, Action.run_ofExcept, Principal.requireRole, Principal.hasRole]
  by_cases role : Role.admin ∈ p.roles
  · rw [if_pos role, if_pos (List.contains_iff_mem.mpr role)]
    simp only [mapError_ok]
    rw [Action.run_bind, Action.run_require]
    cases UserId.read? id with
    | none => rfl
    | some user =>
      dsimp only
      rw [← map_eq_pure_bind, Action.run_map, Action.run_mapCause]
  · rw [if_neg role, if_neg (mt List.contains_iff_mem.mp role)]
    rfl

/-- With an access token a request is relayed for its roles. -/
theorem IsAbout.run_of_carries (about : s.IsAbout r e id) (carries : s.Carries r answer st claims) :
    ∃ t, ReadsClocks answer st t ∧ (s.handle r).run answer st =
      let (result, u) := (relay (Principal.ofClaims claims) id fun user =>
        s.peer.send s.codec e.method (e.atPeer user).path).run.run answer t
      (Routing.answer false result, u) := by
  obtain ⟨token, shows, read, access⟩ := carries
  have through := Gate.letsThrough_of_access shows read access about.outside
  obtain ⟨t, reads, calls⟩ := Routing.hands_of_letsThrough through about.found about.accepts
  refine ⟨t, reads, ?_⟩
  rw [handle, calls, about.dropsBody, about.handler_eq]

end SessionTokens.AdminService
