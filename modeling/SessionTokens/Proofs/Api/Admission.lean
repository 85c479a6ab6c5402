import SessionTokens.Api.Routing
import SessionTokens.Proofs.Api.Bearer
import SessionTokens.Proofs.Program.Runs
import SessionTokens.Proofs.Token.Reasons

set_option autoImplicit false

namespace SessionTokens

variable {σ : Type} {answer : (e : Effect) → σ → e.Answer × σ} {s t : σ}

/-- Readings of the clocks lead from one state to another. -/
inductive ReadsClocks (answer : (e : Effect) → σ → e.Answer × σ) : σ → σ → Prop
  | refl (s : σ) : ReadsClocks answer s s
  | read {s t : σ} (later : ReadsClocks answer (answer .moment s).2 t) : ReadsClocks answer s t

theorem ReadsClocks.once : ReadsClocks answer s (answer .moment s).2 :=
  .read (.refl _)

theorem ReadsClocks.twice : ReadsClocks answer s (answer .moment (answer .moment s).2).2 :=
  .read .once

theorem ReadsClocks.world_eq {w w' : World} (read : ReadsClocks World.answer w w') : w' = w := by
  induction read with
  | refl w => rfl
  | read later ih => exact ih

namespace Codec

/-- The claims of a token, read at one moment and still unexpired at another. -/
def decodeUntil (c : Codec) (first later : Moment) (token : String) : Except TokenError Claims :=
  (c.decode first.host first.now token).bind fun claims =>
    if claims.expiresAt ≤ later.now then .error .expired else .ok claims

/-- What a token is read as from a state on. -/
def readFrom (c : Codec) (answer : (e : Effect) → σ → e.Answer × σ) (s : σ) (token : String) :
    Except TokenError Claims :=
  c.decodeUntil (answer .moment s).1 (answer .moment (answer .moment s).2).1 token

theorem unexpired_of_decode {c : Codec} {host : Int} {now : Instant} {token : String}
    {claims : Claims} (decoded : c.decode host now token = .ok claims) :
    now < claims.expiresAt := by
  have definite : IsDefinite (c.decode host now token) := decoded ▸ isDefinite_ok claims
  rw [(decode_definite definite).2] at decoded
  cases answer : (Verifier.askInOrder host token c.verifiers).2 with
  | error e =>
    rw [answer] at decoded
    cases decoded
  | ok w =>
    rw [answer] at decoded
    exact (accept_ok decoded).2.2

/-- At one moment a token is read as it is decoded. -/
theorem decodeUntil_self (c : Codec) (moment : Moment) (token : String) :
    c.decodeUntil moment moment token = c.decode moment.host moment.now token := by
  rw [decodeUntil]
  cases decoded : c.decode moment.host moment.now token with
  | error e => rfl
  | ok claims => exact if_neg (Instant.not_le.mpr (unexpired_of_decode decoded))

theorem readFrom_world (c : Codec) (w : World) (token : String) :
    c.readFrom World.answer w token = c.decode w.moment.host w.moment.now token :=
  c.decodeUntil_self w.moment token

/-- A codec made of keys reads a token or finds fault with it, also over two readings. -/
theorem isOfToken_of_readFrom {c : Codec} {token : String} {keys : KeyMaterial}
    {settings : CodecSettings} (made : make keys settings = .ok c) {e : TokenError}
    (refused : c.readFrom answer s token = .error e) : e.IsOfToken := by
  rw [readFrom, decodeUntil] at refused
  cases decoded : c.decode (answer .moment s).1.host (answer .moment s).1.now token with
  | error fault =>
    rw [decoded] at refused
    cases refused
    exact isOfToken_of_decode made decoded
  | ok claims =>
    rw [decoded] at refused
    simp only [Except.bind] at refused
    split at refused
    · cases refused
      exact TokenError.isOfToken_expired
    · cases refused

end Codec

/-- The answer that tells a client of a failure, where answers may have to go without a body. -/
def Routing.refusal (bodiless : Bool) (status : Nat) (code message : String) : Response :=
  if bodiless then .bare status
  else .json status (.object [("error", .string code), ("message", .string message)])

theorem Routing.answer_refused (bodiless : Bool) (e : ApiError) :
    Routing.answer bodiless (.error (.refused e)) =
      some (refusal bodiless e.status e.code e.publicMessage) := rfl

namespace Gate

variable {g : Gate} {r : Request} {c : Codec} {token : String} {claims : Claims}
  {principal : Option Principal}

/-- The claims of a token that may accompany a request. -/
def credential (c : Codec) (answer : (e : Effect) → σ → e.Answer × σ) (s : σ) (token : String) :
    Except ApiError Claims :=
  ((c.readFrom answer s token).mapError .token).bind fun claims =>
    if claims.kind = .refresh then
      .error (.wrongTokenType "refresh tokens are not request credentials")
    else .ok claims

theorem run_authenticate (c : Codec) (answer : (e : Effect) → σ → e.Answer × σ) (s : σ)
    (token : String) : ∃ t, ReadsClocks answer s t ∧
      (authenticate c token).run.run answer s =
        ((credential c answer s token).mapError .refused, t) := by
  rw [authenticate, Action.run_bind, Action.run_perform, credential, Codec.readFrom,
    Codec.decodeUntil]
  dsimp only
  rw [Action.run_bind, Action.run_ofExcept]
  cases c.decode (answer .moment s).1.host (answer .moment s).1.now token with
  | error e => exact ⟨_, .once, rfl⟩
  | ok claims =>
    refine ⟨_, .twice, ?_⟩
    dsimp only [mapError_ok]
    rw [Action.run_bind, Action.run_perform]
    simp only [Except.bind]
    split
    · rfl
    · dsimp only [mapError_ok]
      split <;> rfl

/-- What the second gate says to the claims of an internal request. -/
def trust (g : Gate) : Option Claims → Except ApiError Unit
  | none => .error (.unauthorized "s2s bearer token required")
  | some claims => g.checkCaller claims

/-- What the second gate says to a request with these claims. -/
def admission (g : Gate) (r : Request) (verified : Option Claims) : Except ApiError Unit :=
  if g.isInternal r.path then g.trust verified else .ok ()

theorem run_admitCaller {verified : Option Claims} (shown : verified = none → r.bearer = .ok none)
    (answer : (e : Effect) → σ → e.Answer × σ) (s : σ) :
    (g.admitCaller verified r).run.run answer s =
      ((g.admission r verified).mapError .refused, s) := by
  unfold admitCaller admission
  split
  · cases verified with
    | none =>
      simp only [callerClaims, shown rfl]
      rfl
    | some claims => rfl
  · rfl

/-- What the gates decide of a request: the principal it is let through with, or why it is not. -/
def verdict (g : Gate) (r : Request) (answer : (e : Effect) → σ → e.Answer × σ) (s : σ) :
    Except ApiError (Option Principal) :=
  match r.bearer with
  | .error e => .error e
  | .ok none => (g.admission r none).map fun () => none
  | .ok (some token) => (credential g.codec answer s token).bind fun claims =>
    (g.admission r (some claims)).map fun () => principalOf claims

/-- The gates do nothing but decide: the decision and the state they leave do not depend on what is
behind them. -/
theorem run_pass (g : Gate) (r : Request) (answer : (e : Effect) → σ → e.Answer × σ) (s : σ) :
    ∃ t, ReadsClocks answer s t ∧ ∀ inner : Option Principal → Action ApiError Response,
      (g.pass r inner).run.run answer s =
        match g.verdict r answer s with
        | .ok principal => (inner principal).run.run answer t
        | .error e => (.error (.refused e), t) := by
  cases shown : r.bearer with
  | error e =>
    refine ⟨s, .refl s, fun inner => ?_⟩
    rw [pass, Action.run_bind, identify, shown]
    simp only [verdict, shown]
    rfl
  | ok bearer =>
    cases bearer with
    | none =>
      refine ⟨s, .refl s, fun inner => ?_⟩
      have identified : (g.identify r).run.run answer s = (.ok none, s) := by
        rw [identify, shown]
        rfl
      rw [pass, Action.run_bind, identified]
      dsimp only
      rw [Action.run_bind, run_admitCaller fun _ => shown]
      simp only [verdict, shown]
      cases g.admission r none <;> rfl
    | some token =>
      obtain ⟨t, read, run⟩ := run_authenticate g.codec answer s token
      refine ⟨t, read, fun inner => ?_⟩
      have identified : (g.identify r).run.run answer s =
          (((credential g.codec answer s token).map some).mapError .refused, t) := by
        rw [identify, shown, Action.run_bind, Action.run_ofExcept]
        dsimp only [mapError_ok]
        rw [Action.run_bind, run]
        cases credential g.codec answer s token <;> rfl
      rw [pass, Action.run_bind, identified]
      simp only [verdict, shown]
      cases credential g.codec answer s token with
      | error e => rfl
      | ok claims =>
        dsimp only [Except.map, mapError_ok, Except.bind]
        have shown' : some claims = none → r.bearer = .ok none := fun missing => nomatch missing
        rw [Action.run_bind, run_admitCaller shown']
        cases g.admission r (some claims) <;> rfl

/-- A request reaches what is behind the gates, with a principal or without. -/
def LetsThrough (g : Gate) (r : Request) (answer : (e : Effect) → σ → e.Answer × σ) (s : σ)
    (principal : Option Principal) : Prop :=
  ∃ t, ReadsClocks answer s t ∧ ∀ inner : Option Principal → Action ApiError Response,
    (g.pass r inner).run.run answer s = (inner principal).run.run answer t

/-- A request is answered by the gates with a status and a code, whatever it asks for and whatever
is behind them. -/
def Refuses (g : Gate) (r : Request) (answer : (e : Effect) → σ → e.Answer × σ) (s : σ)
    (status : Nat) (code : String) : Prop :=
  ∃ t message, ReadsClocks answer s t ∧ ∀ {E : Type} (method : E → String) (endpoint : Option E)
    (handler : Option Principal → E → Action ApiError Response),
    (Routing.handle g method endpoint r handler).run answer s =
      (some (Routing.refusal (Routing.dropsBody method endpoint r) status code message), t)

theorem letsThrough_iff : g.LetsThrough r answer s principal ↔
    g.verdict r answer s = .ok principal := by
  obtain ⟨t, read, run⟩ := run_pass g r answer s
  constructor
  · rintro ⟨t', -, reaches⟩
    -- a handler that tells this principal from all others
    let inner : Option Principal → Action ApiError Response := fun p =>
      if p = principal then pure (.bare 200) else Action.refuse .invalidCredentials
    have same := (run inner).symm.trans (reaches inner)
    have seen : (inner principal).run.run answer t' = (.ok (.bare 200), t') := by
      dsimp only [inner]
      rw [if_pos rfl]
      rfl
    rw [seen] at same
    cases decided : g.verdict r answer s with
    | error e =>
      rw [decided] at same
      cases (Prod.mk.inj same).1
    | ok p =>
      by_cases equal : p = principal
      · rw [equal]
      · rw [decided] at same
        dsimp only [inner] at same
        rw [if_neg equal] at same
        cases (Prod.mk.inj same).1
  · intro decided
    refine ⟨t, read, fun inner => ?_⟩
    rw [run inner, decided]

theorem refuses_of_verdict {e : ApiError} (decided : g.verdict r answer s = .error e) :
    g.Refuses r answer s e.status e.code := by
  obtain ⟨t, read, run⟩ := run_pass g r answer s
  refine ⟨t, e.publicMessage, read, fun method endpoint handler => ?_⟩
  rw [Routing.handle, Program.run_bind, run, decided]
  exact Prod.ext (Routing.answer_refused _ e) rfl

theorem verdict_of_none (shows : r.Shows .none) :
    g.verdict r answer s = (g.admission r none).map fun () => none := by
  rw [verdict, shows.bearer_eq]
  rfl

theorem verdict_of_unreadable (shows : r.Shows .unreadable) :
    g.verdict r answer s = .error (.token .malformed) := by
  rw [verdict, shows.bearer_eq]
  rfl

theorem verdict_of_bearer (shows : r.Shows (.bearer token)) :
    g.verdict r answer s = (credential g.codec answer s token).bind fun claims =>
      (g.admission r (some claims)).map fun () => principalOf claims := by
  rw [verdict, shows.bearer_eq]
  rfl

theorem credential_error {e : TokenError} (read : c.readFrom answer s token = .error e) :
    credential c answer s token = .error (.token e) := by
  rw [credential, read]
  rfl

theorem credential_refresh (read : c.readFrom answer s token = .ok claims)
    (refresh : claims.kind = .refresh) : credential c answer s token =
      .error (.wrongTokenType "refresh tokens are not request credentials") := by
  rw [credential, read]
  exact if_pos refresh

theorem credential_ok (read : c.readFrom answer s token = .ok claims)
    (other : claims.kind ≠ .refresh) : credential c answer s token = .ok claims := by
  rw [credential, read]
  exact if_neg other

theorem credential_ok_iff : credential c answer s token = .ok claims ↔
    c.readFrom answer s token = .ok claims ∧ claims.kind ≠ .refresh := by
  refine ⟨fun accepted => ?_, fun ⟨read, other⟩ => credential_ok read other⟩
  cases read : c.readFrom answer s token with
  | error e =>
    rw [credential_error read] at accepted
    cases accepted
  | ok claims' =>
    by_cases refresh : claims'.kind = .refresh
    · rw [credential_refresh read refresh] at accepted
      cases accepted
    · rw [credential_ok read refresh] at accepted
      cases accepted
      exact ⟨rfl, refresh⟩

/-- The second gate lets in services that have a token addressed to this one. -/
theorem checkCaller_ok_iff : g.checkCaller claims = .ok () ↔
    claims.kind = .s2s ∧ claims.s2s = some true ∧ g.serviceId ∈ claims.audience := by
  have addressed : claims.isAddressedTo g.serviceId = true ↔ g.serviceId ∈ claims.audience :=
    List.contains_iff_mem
  rw [checkCaller]
  by_cases kind : claims.kind = .s2s
  · by_cases flag : claims.s2s = some true
    · simp [kind, flag, ← addressed]
    · simp [kind, flag]
  · simp [kind]

/-- A request with an access token is let through to a path of everyone's, for its subject. -/
theorem letsThrough_of_access (shows : r.Shows (.bearer token))
    (read : g.codec.readFrom answer s token = .ok claims) (access : claims.kind = .access)
    (outside : g.isInternal r.path = false) :
    g.LetsThrough r answer s (some (Principal.ofClaims claims)) := by
  have other : claims.kind ≠ .refresh := by
    rw [access]
    nofun
  have person : claims.kind ≠ .s2s := by
    rw [access]
    nofun
  have admitted : g.admission r (some claims) = .ok () := if_neg (Bool.eq_false_iff.mp outside)
  rw [letsThrough_iff, verdict_of_bearer shows, credential_ok read other, Except.bind, admitted,
    principalOf, if_neg person]
  rfl

/-- A request is let through without credentials to where they are not needed, or with a token that
is not a refresh token. -/
theorem letsThrough_cases (through : g.LetsThrough r answer s principal) :
    (r.Shows .none ∧ g.isInternal r.path = false ∧ principal = none) ∨
      ∃ token claims, r.Shows (.bearer token) ∧ g.codec.readFrom answer s token = .ok claims ∧
        claims.kind ≠ .refresh ∧ g.admission r (some claims) = .ok () ∧
        principal = principalOf claims := by
  have decided := letsThrough_iff.mp through
  obtain ⟨shown, shows⟩ := r.exists_shows
  cases shown with
  | none =>
    rw [verdict_of_none shows, admission] at decided
    split at decided
    · cases decided
    · rename_i outside
      exact Or.inl ⟨shows, Bool.eq_false_iff.mpr outside, (Except.ok.inj decided).symm⟩
  | unreadable =>
    rw [verdict_of_unreadable shows] at decided
    cases decided
  | bearer token =>
    rw [verdict_of_bearer shows] at decided
    cases accepted : credential g.codec answer s token with
    | error e =>
      rw [accepted] at decided
      cases decided
    | ok claims =>
      obtain ⟨read, other⟩ := credential_ok_iff.mp accepted
      rw [accepted] at decided
      simp only [Except.bind] at decided
      cases admitted : g.admission r (some claims) with
      | error e =>
        rw [admitted] at decided
        cases decided
      | ok u =>
        rw [admitted] at decided
        exact Or.inr ⟨token, claims, shows, read, other, admitted, (Except.ok.inj decided).symm⟩

/-- Outside of its prefixes a gate lets through whoever shows nothing, or a token that may accompany
a request. -/
theorem letsThrough_outside_iff (outside : g.isInternal r.path = false) :
    (∃ principal, g.LetsThrough r answer s principal) ↔ r.Shows .none ∨ ∃ token claims,
      r.Shows (.bearer token) ∧ g.codec.readFrom answer s token = .ok claims ∧
      claims.kind ≠ .refresh := by
  have admitted (verified : Option Claims) : g.admission r verified = .ok () :=
    if_neg (Bool.eq_false_iff.mp outside)
  constructor
  · rintro ⟨principal, through⟩
    rcases letsThrough_cases through with ⟨shows, -⟩ | ⟨token, claims, shows, read, other, -⟩
    · exact Or.inl shows
    · exact Or.inr ⟨token, claims, shows, read, other⟩
  · rintro (shows | ⟨token, claims, shows, read, other⟩)
    · refine ⟨none, letsThrough_iff.mpr ?_⟩
      rw [verdict_of_none shows, admitted]
      rfl
    · refine ⟨principalOf claims, letsThrough_iff.mpr ?_⟩
      rw [verdict_of_bearer shows, credential_ok read other, Except.bind, admitted]
      rfl

theorem refuses_unreadable (shows : r.Shows .unreadable) : g.Refuses r answer s 401 "malformed" :=
  refuses_of_verdict (verdict_of_unreadable shows)

/-- A token that is not read is refused with the codec's reason. -/
theorem refuses_unread {e : TokenError} (shows : r.Shows (.bearer token))
    (refused : g.codec.readFrom answer s token = .error e) (ofToken : e.IsOfToken) :
    g.Refuses r answer s 401 e.code := by
  have decided : g.verdict r answer s = .error (.token e) := by
    rw [verdict_of_bearer shows, credential_error refused]
    rfl
  have told := refuses_of_verdict decided
  cases e with
  | encoding cause => exact absurd rfl (ofToken cause)
  | _ => exact told

theorem refuses_refresh (shows : r.Shows (.bearer token))
    (read : g.codec.readFrom answer s token = .ok claims) (refresh : claims.kind = .refresh) :
    g.Refuses r answer s 401 "wrong_token_type" := by
  refine refuses_of_verdict (e := .wrongTokenType "refresh tokens are not request credentials") ?_
  rw [verdict_of_bearer shows, credential_refresh read refresh]
  rfl

end Gate

end SessionTokens
