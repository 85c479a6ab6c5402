import SessionTokens.Proofs.Api.Internal

set_option autoImplicit false

namespace SessionTokens

namespace Gate

variable {σ : Type} {answer : (e : Effect) → σ → e.Answer × σ} {s : σ} {g : Gate} {r : Request}
  {inner : Option Principal → Action ApiError Response}

/-- Passes a request through the second gate alone. No principal is known behind it. -/
def passAlone (g : Gate) (r : Request) (inner : Option Principal → Action ApiError Response) :
    Action ApiError Response := do
  g.admitCaller none r
  inner none

theorem identify_bind {α : Type} (g : Gate) (r : Request)
    (next : Option Claims → Action ApiError α) :
    g.identify r >>= next =
      match r.bearer with
      | .error e => Action.refuse e
      | .ok none => next none
      | .ok (some token) => authenticate g.codec token >>= fun claims => next (some claims) := by
  unfold identify
  cases r.bearer with
  | error e => rfl
  | ok bearer =>
    cases bearer with
    | none => rfl
    | some token =>
      change (authenticate g.codec token >>= fun claims => pure (some claims)) >>= next = _
      rw [bind_assoc]
      simp only [pure_bind]

theorem callerClaims_bind {α : Type} (g : Gate) (r : Request) (next : Claims → Action ApiError α) :
    g.callerClaims none r >>= next =
      match r.bearer with
      | .error e => Action.refuse e
      | .ok none => Action.refuse (.unauthorized "s2s bearer token required")
      | .ok (some token) => authenticate g.codec token >>= next := by
  unfold callerClaims
  cases r.bearer with
  | error e => rfl
  | ok bearer =>
    cases bearer with
    | none => rfl
    | some token => rfl

/-- Whom the second gate lets in is a service, and a service is no principal. -/
theorem checkCaller_bind (g : Gate) (claims : Claims)
    (inner : Option Principal → Action ApiError Response) :
    (Action.ofExcept (g.checkCaller claims) >>= fun _ => inner (principalOf claims)) =
      Action.ofExcept (g.checkCaller claims) >>= fun _ => inner none := by
  cases checked : g.checkCaller claims with
  | error e => rfl
  | ok _ =>
    have service : claims.kind = .s2s := (checkCaller_ok_iff.mp checked).1
    rw [principalOf, if_pos service]

/-- On an internal path the second gate does the same alone as behind the first. -/
theorem pass_eq_passAlone (inside : g.isInternal r.path = true)
    (inner : Option Principal → Action ApiError Response) :
    g.pass r inner = g.passAlone r inner := by
  have judged : ∀ verified, g.admitCaller verified r =
      g.callerClaims verified r >>= fun claims => Action.ofExcept (g.checkCaller claims) := by
    intro verified
    rw [admitCaller, if_pos inside]
  have alone : g.passAlone r inner = g.callerClaims none r >>= fun claims =>
      Action.ofExcept (g.checkCaller claims) >>= fun _ => inner none := by
    rw [passAlone, judged, bind_assoc]
  rw [alone, callerClaims_bind, pass, identify_bind]
  cases shown : r.bearer with
  | error e => rfl
  | ok bearer =>
    cases bearer with
    | none =>
      dsimp only
      rw [judged, bind_assoc, callerClaims_bind, shown]
    | some token =>
      dsimp only
      apply congrArg (authenticate g.codec token >>= ·)
      funext claims
      rw [judged]
      exact checkCaller_bind g claims inner

/-- Gates in front of something that is told the principal. -/
abbrev Gates : Type :=
  (Option Principal → Action ApiError Response) → Action ApiError Response

/-- A request is admitted: what is behind the gates runs, with the principal, whatever it is. -/
def Gates.Admit (gates : Gates) (answer : (e : Effect) → σ → e.Answer × σ) (s : σ)
    (principal : Option Principal) : Prop :=
  ∃ t, ReadsClocks answer s t ∧
    ∀ inner, (gates inner).run.run answer s = (inner principal).run.run answer t

/-- A request is refused with a status, a code and a message, whatever is behind the gates. -/
def Gates.Refuse (gates : Gates) (answer : (e : Effect) → σ → e.Answer × σ) (s : σ)
    (status : Nat) (code message : String) : Prop :=
  ∃ t, ReadsClocks answer s t ∧ ∀ inner, ((gates inner).run.run answer s).2 = t ∧
    ∀ bodiless, Routing.answer bodiless ((gates inner).run.run answer s).1 =
      some (Routing.refusal bodiless status code message)

/-- A request that is refused does not depend on what is behind the gates; one that is admitted
does. -/
theorem Gates.Admit.not_refuse {gates : Gates} {principal : Option Principal} {status : Nat}
    {code message : String} (admits : gates.Admit answer s principal) :
    ¬ gates.Refuse answer s status code message := by
  rintro ⟨_, -, told⟩
  obtain ⟨t, -, runs⟩ := admits
  have answered : ∀ n : Nat, n = status := by
    intro n
    have refused := (told fun _ => pure (.bare n)).2 true
    rw [runs] at refused
    exact congrArg Response.status (Option.some.inj refused)
  have clash : (200 : Nat) = 204 := (answered 200).trans (answered 204).symm
  cases clash

theorem refuse_of_verdict {e : ApiError} (decided : g.verdict r answer s = .error e) :
    Gates.Refuse (g.pass r) answer s e.status e.code e.publicMessage := by
  obtain ⟨t, read, run⟩ := run_pass g r answer s
  refine ⟨t, read, fun inner => ?_⟩
  rw [run, decided]
  exact ⟨rfl, fun bodiless => Routing.answer_refused bodiless e⟩

/-- Both gates do one of the two to every request. -/
theorem admit_or_refuse (g : Gate) (r : Request) (answer : (e : Effect) → σ → e.Answer × σ)
    (s : σ) : (∃ principal, Gates.Admit (g.pass r) answer s principal) ∨
      ∃ e : ApiError, Gates.Refuse (g.pass r) answer s e.status e.code e.publicMessage := by
  cases decided : g.verdict r answer s with
  | ok principal => exact Or.inl ⟨principal, letsThrough_iff.mpr decided⟩
  | error e => exact Or.inr ⟨e, refuse_of_verdict decided⟩

/-- The two ways of the second gate agree. A request for an internal path is admitted by the gate
alone, which reads the token itself, if and only if it is admitted behind the first gate, whose
claims are taken over, and then with no principal either way. The others are those that are refused,
by both with the status, the code and the message of one failure. -/
theorem trust_gate_ways_agree (answer : (e : Effect) → σ → e.Answer × σ) (s : σ) (g : Gate)
    (r : Request) (inside : g.isInternal r.path = true) :
    (∀ principal, Gates.Admit (g.passAlone r) answer s principal ↔
      Gates.Admit (g.pass r) answer s principal) ∧
    (∀ status code message, Gates.Refuse (g.passAlone r) answer s status code message ↔
      Gates.Refuse (g.pass r) answer s status code message) ∧
    (Gates.Admit (g.pass r) answer s none ↔ ¬ ∃ e : ApiError,
      Gates.Refuse (g.pass r) answer s e.status e.code e.publicMessage) := by
  have one : g.passAlone r = g.pass r := by
    funext inner
    exact (pass_eq_passAlone inside inner).symm
  rw [one]
  refine ⟨fun _ => Iff.rfl, fun _ _ _ => Iff.rfl, ?_⟩
  constructor
  · rintro admits ⟨e, refuses⟩
    exact admits.not_refuse refuses
  · intro unrefused
    obtain ⟨principal, admits⟩ := (admit_or_refuse g r answer s).resolve_right unrefused
    have nobody : principal = none := ((letsThrough_internal_iff inside).mp admits).1
    rw [← nobody]
    exact admits

/-- The call of a service is admitted by the second gate alone, and a request without a token is
refused by it as behind the first. -/
theorem call_is_admitted_alone :
    let g := Sample.gate
    let w := World.start Rotation.Sample.moment .counting
    (∃ token, g.isInternal (Sample.request (some token)).path = true ∧
      Gates.Admit (g.passAlone (Sample.request (some token))) World.answer w none) ∧
    g.isInternal (Sample.request none).path = true ∧
      Gates.Refuse (g.passAlone (Sample.request none)) World.answer w 401 "unauthorized"
        "s2s bearer token required" := by
  intro g w
  have inside : ∀ token, g.isInternal (Sample.request token).path = true := fun token =>
    List.any_eq_true.mpr
      ⟨"/internal/", List.mem_singleton_self _, Sample.internal_request token⟩
  have ways (token : Option String) :=
    trust_gate_ways_agree World.answer w g (Sample.request token) (inside token)
  refine ⟨?_, inside none, ?_⟩
  · obtain ⟨token, shows, read⟩ := Sample.exists_request .s2s none (some true) ["users"] (by decide)
    have through : Gates.Admit (g.pass (Sample.request (some token))) World.answer w none :=
      (letsThrough_internal_iff (inside (some token))).mpr ⟨rfl, token, _, shows, read, rfl, rfl,
        List.mem_singleton_self _⟩
    exact ⟨token, inside (some token), ((ways (some token)).1 none).mpr through⟩
  · have decided : g.verdict (Sample.request none) World.answer w =
        .error (.unauthorized "s2s bearer token required") := by
      rw [verdict_of_none Sample.shows_none, admission_internal (inside none)]
      rfl
    exact ((ways none).2.1 _ _ _).mpr (refuse_of_verdict decided)

end Gate

end SessionTokens
