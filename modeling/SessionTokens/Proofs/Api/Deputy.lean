import SessionTokens.Proofs.Api.RemoteRevocation
import SessionTokens.Proofs.Config.Address
import SessionTokens.Proofs.Program.PeerCalls

set_option autoImplicit false

namespace SessionTokens

open Text

variable {σ : Type} {answer : (e : Effect) → σ → e.Answer × σ} {st : σ}

/-- Readings of the clocks are no calls. -/
theorem ReadsClocks.of_logged {s t : σ × List PeerCall} (read : ReadsClocks (logged answer) s t) :
    ReadsClocks answer s.1 t.1 ∧ t.2 = s.2 := by
  induction read with
  | refl s => exact ⟨.refl _, rfl⟩
  | read later ih => exact ⟨.read ih.1, ih.2.trans (List.append_nil _)⟩

namespace PeerClient

/-- One call is made once a token is minted for it. -/
theorem run_send_logged {c : PeerClient} {codec : Codec} (method path : String) {token : String}
    {claims : Claims}
    (minted : codec.mintS2s (answer .moment st).1.now [c.audience] = .ok (token, claims)) :
    ∃ result t, (c.send codec method path).run.run (logged answer) (st, []) =
      (result, t, [⟨method, c.baseUrl ++ path, token⟩]) := by
  rw [send, Action.run_bind, Action.run_perform]
  simp only [logged]
  rw [Action.run_bind, Action.run_mapCause, Action.run_ofChecked, minted]
  simp only [mapError_ok]
  rw [Action.run_bind, Action.run_perform]
  exact ⟨_, _, rfl⟩

end PeerClient

namespace AdminService

variable {s : AdminService} {r : SessionTokens.Request} {e : Endpoint} {id : String}
  {claims : Claims}

/-- What ends the path of a call, after the user. -/
def Endpoint.suffix : Endpoint → String
  | .revokeSessions _ => "/revoke-sessions"
  | _ => ""

/-- The call that a request about a user leads to. Its address is the configured one, less the
slashes at its end, and the path of an endpoint of the user service, where the user stands in the
one canonical form; so it is found there for the same user. Its token is the service's own. -/
structure IsProperCall (s : AdminService) (env : Environment)
    (answer : (e : Effect) → σ → e.Answer × σ) (st : σ) (e : Endpoint) (user : UserId)
    (call : PeerCall) : Prop where
  method : call.method = e.method
  url : call.url = s.peer.baseUrl ++ (e.atPeer user).path
  path : (e.atPeer user).path = s!"/internal/users/{user.toText}" ++ e.suffix
  base : ∃ k, env.getD "WARDEN_PEER_URL" "http://localhost:8080" =
    s.peer.baseUrl ++ String.ofList (List.replicate k '/')
  ended : s.peer.baseUrl.toList.getLast? ≠ some '/'
  token : ∃ t claims, ReadsClocks answer st t ∧
    s.codec.mintS2s (answer .moment t).1.now [s.peer.audience] = .ok (call.token, claims)
  length : user.toText.toList.length = 36
  hyphenated : Uuid.IsHyphenated user.toText.toList
  found : UserService.Endpoint.ofSegments?
    (Neighbour.arrival call.method (e.atPeer user).path call.token).segments = some (e.atPeer user)
  taken : (e.atPeer user).method = call.method
  decoded : Percent.decodeText? user.toText.toList = some user.toText
  read : UserId.read? user.toText = some user

theorem IsAbout.isProperCall (about : s.IsAbout r e id) {env : Environment}
    {config : ServiceConfig} {admin : AdminConfig} (loaded : AdminConfig.load env = .ok admin)
    (built : make config admin = .ok s) {t : σ} (reads : ReadsClocks answer st t) {token : String}
    (minted : s.codec.mintS2s (answer .moment t).1.now [s.peer.audience] = .ok (token, claims))
    (user : UserId) : IsProperCall s env answer st e user
      ⟨e.method, s.peer.baseUrl ++ (e.atPeer user).path, token⟩ := by
  have base : s.peer.baseUrl =
      withoutEndSlashes (env.getD "WARDEN_PEER_URL" "http://localhost:8080") := by
    rw [(make_ok built).2]
    exact PeerClient.baseUrl_of_load loaded
  have hyphenated : Uuid.IsHyphenated user.toText.toList := by
    rw [UserId.toText, Uuid.toText, String.toList_ofList]
    exact user.uuid.isHyphenated_toList
  obtain ⟨segment, same, -⟩ := about.segment
  refine ⟨rfl, rfl, ?_, ?_, ?_, ⟨t, claims, reads, minted⟩, hyphenated.length, hyphenated, ?_, ?_,
    user.decodeText?_toText, user.read?_toText⟩
  · rcases same with rfl | rfl
    · exact String.append_empty.symm
    · rfl
  · rw [base]
    exact exists_withoutEndSlashes _
  · rw [base]
    exact getLast?_withoutEndSlashes _
  · have named : e.atPeer user = .account user.toText ∨
        e.atPeer user = .revokeSessions user.toText := by
      rcases same with rfl | rfl
      · exact Or.inl rfl
      · exact Or.inr rfl
    exact Neighbour.ofSegments?_arrival named _ _
  · rcases same with rfl | rfl <;> rfl

theorem IsAbout.run_of_nobody (about : s.IsAbout r e id) {config : ServiceConfig}
    {admin : AdminConfig} (built : make config admin = .ok s)
    (nobody : ∀ claims, ¬ s.Carries r answer st claims) :
    ∃ t code message, ReadsClocks answer st t ∧ (s.handle r).run answer st =
      (some (Routing.refusal false 401 code message), t) := by
  rw [← about.dropsBody]
  refine Routing.unauthorized (make_ok built).1 about.outside about.found about.accepts
    about.requiresPrincipal ?_
  exact fun token claims shows read access => nobody claims ⟨token, shows, read, access⟩

/-- What the calls and the answer of a request with an access token are. -/
theorem IsAbout.ends (about : s.IsAbout r e id) (carries : s.Carries r answer st claims) :
    ∃ t, ReadsClocks answer st t ∧ ∀ result u log,
      (relay (Principal.ofClaims claims) id fun user =>
        s.peer.send s.codec e.method (e.atPeer user).path).run.run (logged answer) (t, []) =
          (result, u, log) →
      (s.handle r).calls answer st = log ∧
        ((s.handle r).run answer st).1 = Routing.answer false result := by
  have carries' : s.Carries r (logged answer) (st, []) claims := carries
  obtain ⟨t, reads, ends⟩ := about.run_of_carries carries'
  obtain ⟨reads, silent⟩ := reads.of_logged
  refine ⟨t.1, reads, fun result u log relayed => ?_⟩
  rw [show t = (t.1, []) from Prod.ext rfl silent, relayed] at ends
  obtain ⟨response, calls⟩ := Program.calls_of_run ends
  exact ⟨calls, response⟩

theorem IsAbout.calls_of_named (about : s.IsAbout r e id)
    (administrators : s.IsAdministrators r answer st) {user : UserId}
    (named : UserId.read? id = some user)
    (mintable : ∀ t, ReadsClocks answer st t → ∃ token claims,
      s.codec.mintS2s (answer .moment t).1.now [s.peer.audience] = .ok (token, claims)) :
    ∃ t token claims, ReadsClocks answer st t ∧
      s.codec.mintS2s (answer .moment t).1.now [s.peer.audience] = .ok (token, claims) ∧
      (s.handle r).calls answer st =
        [⟨e.method, s.peer.baseUrl ++ (e.atPeer user).path, token⟩] := by
  have ⟨claims, carries, _⟩ := administrators
  obtain ⟨t, reads, ends⟩ := about.ends carries
  obtain ⟨token, service, minted⟩ := mintable t reads
  refine ⟨t, token, service, reads, minted, ?_⟩
  obtain ⟨result, u, sent⟩ := PeerClient.run_send_logged e.method (e.atPeer user).path minted
  have relayed := run_relay (logged answer) (t, []) (Principal.ofClaims claims) id fun user =>
    s.peer.send s.codec e.method (e.atPeer user).path
  rw [if_pos (carries.isAdministrators_iff.mp administrators), named] at relayed
  dsimp only at relayed
  rw [sent] at relayed
  exact (ends _ _ _ relayed).1

theorem IsAbout.unnamed (about : s.IsAbout r e id)
    (administrators : s.IsAdministrators r answer st) (named : UserId.read? id = none) :
    (s.handle r).calls answer st = [] ∧ ((s.handle r).run answer st).1 =
      some (ApiError.notFound s!"user {id} not found").response := by
  have ⟨claims, carries, _⟩ := administrators
  obtain ⟨t, -, ends⟩ := about.ends carries
  refine ends (.error (.refused (.notFound s!"user {id} not found"))) t [] ?_
  rw [run_relay, if_pos (carries.isAdministrators_iff.mp administrators), named]

theorem IsAbout.forbidden (about : s.IsAbout r e id)
    (stranger : ¬ s.IsAdministrators r answer st) (carries : s.Carries r answer st claims) :
    (s.handle r).calls answer st = [] ∧ ((s.handle r).run answer st).1 =
      some (ApiError.forbidden .admin).response := by
  obtain ⟨t, -, ends⟩ := about.ends carries
  refine ends (.error (.refused (.forbidden .admin))) t [] ?_
  rw [run_relay, if_neg (mt carries.isAdministrators_iff.mpr stranger)]

theorem IsAbout.unauthorized (about : s.IsAbout r e id) {config : ServiceConfig}
    {admin : AdminConfig} (built : make config admin = .ok s)
    (nobody : ¬ ∃ claims, s.Carries r answer st claims) :
    (s.handle r).calls answer st = [] ∧
      ((s.handle r).run answer st).1.map Response.status = some 401 := by
  have nobody' : ∀ claims, ¬ s.Carries r (logged answer) (st, []) claims :=
    fun claims carries => nobody ⟨claims, carries⟩
  obtain ⟨t, code, message, reads, ends⟩ := about.run_of_nobody built nobody'
  obtain ⟨response, calls⟩ := Program.calls_of_run ends
  rw [calls, response]
  exact ⟨reads.of_logged.2, rfl⟩

/-- The admin service is nobody's deputy but its administrators'. A request about a user leads to a
call if and only if it carries an access token with their role and names a user; then to one, which
has nothing of the request in it but which user this is. An administrator who names no user is
answered that there is none; whoever has an access token without the role is answered 403, and
everybody else 401, whatever is named, and no call is made. -/
theorem calls_are_for_administrators {env : Environment} {config : ServiceConfig}
    {admin : AdminConfig} (loaded : AdminConfig.load env = .ok admin)
    (built : make config admin = .ok s) (about : s.IsAbout r e id)
    (answer : (e : Effect) → σ → e.Answer × σ) (st : σ)
    (mintable : ∀ t, ReadsClocks answer st t → ∃ token claims,
      s.codec.mintS2s (answer .moment t).1.now [s.peer.audience] = .ok (token, claims)) :
    let calls := (s.handle r).calls answer st
    let response := ((s.handle r).run answer st).1
    (calls ≠ [] ↔ s.IsAdministrators r answer st ∧ ∃ user, UserId.read? id = some user) ∧
    (∀ user, s.IsAdministrators r answer st → UserId.read? id = some user →
      ∃ call, calls = [call] ∧ s.IsProperCall env answer st e user call) ∧
    (s.IsAdministrators r answer st → UserId.read? id = none → calls = [] ∧
      response = some (.json 404 (.object [("error", .string "not_found"),
        ("message", .string s!"user {id} not found")]))) ∧
    (¬ s.IsAdministrators r answer st → (∃ claims, s.Carries r answer st claims) → calls = [] ∧
      response.map Response.status = some 403) ∧
    ((¬ ∃ claims, s.Carries r answer st claims) → calls = [] ∧
      response.map Response.status = some 401) := by
  intro calls response
  have called (user : UserId) (administrators : s.IsAdministrators r answer st)
      (named : UserId.read? id = some user) :
      ∃ call, calls = [call] ∧ s.IsProperCall env answer st e user call := by
    obtain ⟨t, token, claims, reads, minted, made⟩ :=
      about.calls_of_named administrators named mintable
    exact ⟨_, made, about.isProperCall loaded built reads minted user⟩
  have forbidden (stranger : ¬ s.IsAdministrators r answer st)
      (carries : ∃ claims, s.Carries r answer st claims) :
      calls = [] ∧ response.map Response.status = some 403 := by
    obtain ⟨claims, carries⟩ := carries
    obtain ⟨silent, answered⟩ := about.forbidden stranger carries
    exact ⟨silent, congrArg (Option.map Response.status) answered⟩
  refine ⟨⟨fun some => ?_, fun ⟨administrators, user, named⟩ => ?_⟩, called,
    fun administrators named => about.unnamed administrators named, forbidden,
    about.unauthorized built⟩
  · by_cases carries : ∃ claims, s.Carries r answer st claims
    · by_cases administrators : s.IsAdministrators r answer st
      · refine ⟨administrators, Option.ne_none_iff_exists'.mp fun named => ?_⟩
        exact some (about.unnamed administrators named).1
      · exact absurd (forbidden administrators carries).1 some
    · exact absurd (about.unauthorized built carries).1 some
  · obtain ⟨call, made, -⟩ := called user administrators named
    rw [made]
    exact List.cons_ne_nil _ _

namespace Sample

/-- The call of an administrator about the user of number 7. -/
theorem administrator_is_heard : ∃ token call,
    (service codec).IsAdministrators (request token) World.answer world ∧
    ((service codec).handle (request token)).calls World.answer world = [call] ∧
    call.method = "POST" ∧ call.url = "http://localhost:8080/internal/users/" ++
      "00000000-0000-0000-0000-000000000007" ++ "/revoke-sessions" := by
  have made : Codec.make (config none none).keys (config none none).settings = .ok codec := rfl
  obtain ⟨token, asks⟩ := exists_asks made
  obtain ⟨segment, id, found, decoded, named⟩ := asks.named
  obtain ⟨bearer, claims, shows, read, access, role⟩ := asks.permitted
  have read' : (service codec).codec.readFrom World.answer world bearer = .ok claims := by
    rw [Codec.readFrom_world]
    exact read
  have administrators : (service codec).IsAdministrators (request token) World.answer world :=
    ⟨claims, ⟨bearer, shows, read', access⟩, role⟩
  obtain ⟨callToken, callClaims, isToken⟩ :=
    hasPeer.exists_isCallToken trivial (inTime none none) user
  have ends := calls_are_for_administrators adminLoaded built
    ⟨found, rfl, ⟨segment, .inr rfl, decoded⟩, asks.outside⟩ World.answer world
    (fun t reads => by
      obtain rfl := reads.world_eq
      exact ⟨callToken, callClaims, isToken.minted⟩)
  obtain ⟨call, made, proper⟩ := ends.2.1 user administrators named
  refine ⟨token, call, administrators, made, proper.method, ?_⟩
  exact proper.url

end Sample

end AdminService

end SessionTokens
