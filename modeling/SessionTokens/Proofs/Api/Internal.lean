import SessionTokens.Proofs.Api.Admission
import SessionTokens.Proofs.Api.Carried
import SessionTokens.Proofs.Rotation.Opening

set_option autoImplicit false

namespace SessionTokens.Gate

section

variable {σ : Type} {answer : (e : Effect) → σ → e.Answer × σ} {s : σ} {g : Gate} {r : Request}
  {token : String} {claims : Claims}

section Internal

variable (inside : g.isInternal r.path = true)

include inside

theorem admission_internal (verified : Option Claims) : g.admission r verified = g.trust verified :=
  if_pos inside

theorem verdict_internal (shows : r.Shows (.bearer token))
    (read : g.codec.readFrom answer s token = .ok claims) (other : claims.kind ≠ .refresh) :
    g.verdict r answer s = (g.checkCaller claims).map fun () => principalOf claims := by
  rw [verdict_of_bearer shows, credential_ok read other, Except.bind, admission_internal inside]
  rfl

/-- Behind an internal path there are requests of trusted services only, and no principal. -/
theorem letsThrough_internal_iff {principal : Option Principal} :
    g.LetsThrough r answer s principal ↔ principal = none ∧ ∃ token claims,
      r.Shows (.bearer token) ∧ g.codec.readFrom answer s token = .ok claims ∧
      claims.kind = .s2s ∧ claims.s2s = some true ∧ g.serviceId ∈ claims.audience := by
  constructor
  · intro through
    rcases letsThrough_cases through with
      ⟨-, outside, -⟩ | ⟨token, claims, shows, read, -, admitted, rfl⟩
    · rw [inside] at outside
      cases outside
    · rw [admission_internal inside] at admitted
      obtain ⟨service, flag, addressed⟩ := checkCaller_ok_iff.mp admitted
      exact ⟨if_pos service, token, claims, shows, read, service, flag, addressed⟩
  · rintro ⟨rfl, token, claims, shows, read, service, flag, addressed⟩
    have other : claims.kind ≠ .refresh := by
      rw [service]
      nofun
    rw [letsThrough_iff, verdict_internal inside shows read other,
      checkCaller_ok_iff.mpr ⟨service, flag, addressed⟩, principalOf, if_pos service]
    rfl

theorem refuses_anonymous (shows : r.Shows .none) : g.Refuses r answer s 401 "unauthorized" := by
  refine refuses_of_verdict (e := .unauthorized "s2s bearer token required") ?_
  rw [verdict_of_none shows, admission_internal inside]
  rfl

theorem refuses_untrusted (shows : r.Shows (.bearer token))
    (read : g.codec.readFrom answer s token = .ok claims) (other : claims.kind ≠ .refresh)
    (untrusted : ¬ (claims.kind = .s2s ∧ claims.s2s = some true)) :
    g.Refuses r answer s 403 "s2s_required" := by
  refine refuses_of_verdict (e := .s2sRequired) ?_
  rw [verdict_internal inside shows read other, checkCaller, if_pos]
  · rfl
  · exact Decidable.not_and_iff_or_not.mp untrusted

theorem refuses_misaddressed (shows : r.Shows (.bearer token))
    (read : g.codec.readFrom answer s token = .ok claims) (service : claims.kind = .s2s)
    (flag : claims.s2s = some true) (elsewhere : g.serviceId ∉ claims.audience) :
    g.Refuses r answer s 403 "audience_mismatch" := by
  have other : claims.kind ≠ .refresh := by
    rw [service]
    nofun
  have unaddressed : claims.isAddressedTo g.serviceId = false := by
    rw [Bool.eq_false_iff]
    exact mt List.contains_iff_mem.mp elsewhere
  refine refuses_of_verdict (e := .audienceMismatch) ?_
  rw [verdict_internal inside shows read other, checkCaller, if_neg, unaddressed]
  · rfl
  · rintro (wrong | unset)
    · exact wrong service
    · exact unset flag

end Internal

/-- A request for an internal path reaches what is behind the gates if and only if it carries a
bearer token that is read as the token of a service, flagged as one and addressed to this service;
and then it has no principal. Any other is answered by the gates: the first reason that applies
stands in the answer. A codec made of keys finds fault with nothing but the token. -/
theorem internal_requests_are_of_services (answer : (e : Effect) → σ → e.Answer × σ) (s : σ)
    (g : Gate) (r : Request) {start : String} (listed : start ∈ g.internalPrefixes)
    (under : Text.startsWith start r.path = true) :
    (∀ principal, g.LetsThrough r answer s principal ↔ principal = none ∧ ∃ token claims,
      r.Shows (.bearer token) ∧ g.codec.readFrom answer s token = .ok claims ∧
      claims.kind = .s2s ∧ claims.s2s = some true ∧ g.serviceId ∈ claims.audience) ∧
    (r.Shows .unreadable → g.Refuses r answer s 401 "malformed") ∧
    (r.Shows .none → g.Refuses r answer s 401 "unauthorized") ∧
    (∀ token, r.Shows (.bearer token) →
      (∀ e, g.codec.readFrom answer s token = .error e → e.IsOfToken →
        g.Refuses r answer s 401 e.code) ∧
      ∀ claims, g.codec.readFrom answer s token = .ok claims →
        (claims.kind = .refresh → g.Refuses r answer s 401 "wrong_token_type") ∧
        (claims.kind ≠ .refresh → ¬ (claims.kind = .s2s ∧ claims.s2s = some true) →
          g.Refuses r answer s 403 "s2s_required") ∧
        (claims.kind = .s2s → claims.s2s = some true → g.serviceId ∉ claims.audience →
          g.Refuses r answer s 403 "audience_mismatch")) ∧
    ∀ keys settings, Codec.make keys settings = .ok g.codec →
      ∀ token e, g.codec.readFrom answer s token = .error e → e.IsOfToken := by
  have inside : g.isInternal r.path = true := List.any_eq_true.mpr ⟨start, listed, under⟩
  refine ⟨fun principal => letsThrough_internal_iff inside, refuses_unreadable,
    refuses_anonymous inside, ?_, fun keys settings made token e refused =>
      Codec.isOfToken_of_readFrom made refused⟩
  intro token shows
  refine ⟨fun e refused ofToken => refuses_unread shows refused ofToken, ?_⟩
  intro claims read
  refine ⟨refuses_refresh shows read, refuses_untrusted inside shows read, ?_⟩
  intro service flag elsewhere
  exact refuses_misaddressed inside shows read service flag elsewhere

end

namespace Sample

open Rotation.Sample

def gate : Gate :=
  ⟨Rotation.Sample.codec, "users", ["/internal/"]⟩

/-- A request for an account, with a token or without. -/
def request (token : Option String) : Request :=
  ⟨"GET", "/internal/users/7", (token.map fun t => ⟨"Authorization", Request.bearing t⟩).toList, []⟩

theorem shows_none : (request none).Shows .none :=
  .absent rfl

theorem header?_request (token : String) :
    (request (some token)).header? "authorization" = some (Request.bearing token) := by
  have named : Request.sameName "Authorization" "authorization" = true := by decide
  rw [Request.header?, request, Option.map_some, Option.toList_some,
    List.find?_cons_of_pos (by exact named), Option.map_some]

theorem internal_request (token : Option String) :
    Text.startsWith "/internal/" (request token).path = true := by
  change Text.startsWith "/internal/" (String.ofList
    ("/internal/users/7".toList.takeWhile Request.isPathChar)) = true
  decide

/-- Claims that are good for ten minutes. -/
def claims (kind : TokenKind) (roles : Option (List Role)) (flag : Option Bool)
    (audience : List String) : Claims :=
  ⟨"login", "login", audience, moment.now, (Instant.ofSeconds? 600).get rfl, kind, roles, none,
    flag⟩

/-- A token of such claims is shown by the request that carries it and read as what it states. -/
theorem exists_request (kind : TokenKind) (roles : Option (List Role)) (flag : Option Bool)
    (audience : List String) (valid : (claims kind roles flag audience).flaw? = none) :
    ∃ token, (request (some token)).Shows (.bearer token) ∧
      gate.codec.readFrom World.answer (World.start moment .counting) token =
        .ok (claims kind roles flag audience) := by
  obtain ⟨token, encoded⟩ : ∃ token,
      Rotation.Sample.codec.encode (claims kind roles flag audience) = .ok token :=
    Codec.exists_encode rfl valid
  refine ⟨token, Request.shows_of_encode encoded (header?_request token), ?_⟩
  rw [Codec.readFrom_world]
  have future : moment.now < (Instant.ofSeconds? 600).get rfl := by decide
  exact Rotation.decode_own made paired encoded (by decide) (by decide : (0 : Int) ≤ 600) future

/-- The call of a service gets through; without a token, or with another's, it does not. -/
theorem call_gets_through :
    let w := World.start moment .counting
    (∃ token, gate.LetsThrough (request (some token)) World.answer w none) ∧
    gate.Refuses (request none) World.answer w 401 "unauthorized" ∧
    ∃ token, gate.Refuses (request (some token)) World.answer w 403 "audience_mismatch" := by
  intro w
  have law (token : Option String) := internal_requests_are_of_services World.answer w gate
    (request token) (List.mem_singleton_self "/internal/") (internal_request token)
  refine ⟨?_, ?_, ?_⟩
  · obtain ⟨token, shows, read⟩ := exists_request .s2s none (some true) ["users"] (by decide)
    exact ⟨token, ((law _).1 none).mpr ⟨rfl, token, _, shows, read, rfl, rfl,
      List.mem_singleton_self _⟩⟩
  · exact (law _).2.2.1 shows_none
  · obtain ⟨token, shows, read⟩ := exists_request .s2s none (some true) ["orders"] (by decide)
    have answers := ((law _).2.2.2.1 token shows).2 _ read
    exact ⟨token, answers.2.2 rfl rfl (by decide)⟩

end Sample

end SessionTokens.Gate
