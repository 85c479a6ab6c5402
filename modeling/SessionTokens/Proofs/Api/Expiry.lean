import SessionTokens.Proofs.Api.Admission
import SessionTokens.Proofs.Token.Clocks
import SessionTokens.Proofs.Token.Preference
import SessionTokens.Rotation

set_option autoImplicit false

namespace SessionTokens

/-- An answer that depends on the instant at most in whether the claims have expired. -/
def IsLimited (answer : Instant → Except TokenError Claims) : Prop :=
  (∃ e, ∀ now, answer now = .error e) ∨
    ∃ claims, (∀ now, now < claims.expiresAt → answer now = .ok claims) ∧
      ∀ now, claims.expiresAt ≤ now → answer now = .error .expired

theorem IsLimited.earlier {answer : Instant → Except TokenError Claims} (limited : IsLimited answer)
    {now later : Instant} {claims : Claims} (read : answer later = .ok claims)
    (ordered : now ≤ later) : answer now = .ok claims := by
  rcases limited with ⟨e, always⟩ | ⟨stated, before, from_then⟩
  · rw [always] at read
    cases read
  · have young : later < stated.expiresAt := by
      apply Instant.not_le.mp
      intro reached
      rw [from_then later reached] at read
      cases read
    have younger : now < stated.expiresAt := by
      simp only [Instant.lt_def, Instant.le_def] at *
      omega
    rw [before now younger, ← before later young, read]

theorem IsTimed.earlier {answer : Int → Except TokenError WireClaims} (timed : IsTimed answer)
    {host later : Int} {w : WireClaims} (answered : answer later = .ok w)
    (ordered : host ≤ later) : answer host = .ok w := by
  rcases timed with ⟨e, always⟩ | ⟨stated, always⟩
  · rw [always] at answered
    cases answered
  · rw [always] at answered ⊢
    by_cases old : stated.expiresAt < later
    · rw [if_pos old] at answered
      cases answered
    · have young : ¬ stated.expiresAt < host := by omega
      rw [if_neg old] at answered
      rw [if_neg young, answered]

namespace Codec

variable {c : Codec} {token : String} {claims : Claims}

/-- The order of the times that a payload states is judged before the instant is. -/
theorem isLimited_accept (c : Codec) (w : WireClaims) : IsLimited fun now => c.accept now w := by
  unfold accept
  cases w.toClaims? c.settings.rolesClaim with
  | none => exact Or.inl ⟨.malformed, fun _ => rfl⟩
  | some claims =>
    dsimp only
    by_cases reversed : claims.expiresAt ≤ claims.issuedAt
    · exact Or.inl ⟨.malformed, fun _ => if_pos reversed⟩
    · simp only [if_neg reversed]
      refine Or.inr ⟨claims, fun now young => ?_, fun now old => if_pos old⟩
      exact if_neg (Instant.not_le.mpr young)

theorem isLimited_decode (c : Codec) (host : Int) (token : String) :
    IsLimited fun now => c.decode host now token := by
  simp only [decode_eq]
  by_cases readable : hasHeader token = true
  · simp only [if_pos readable]
    cases (Verifier.askInOrder host token c.verifiers).2 with
    | error e => exact Or.inl ⟨e, fun _ => rfl⟩
    | ok w => exact c.isLimited_accept w
  · exact Or.inl ⟨.malformed, fun _ => if_neg readable⟩

/-- The clocks go forward from one reading to another. Verifiers that hold no key may use the host's
time as they like, so for them it stands still. -/
def Passes (c : Codec) (earlier later : Moment) : Prop :=
  earlier.now ≤ later.now ∧
    (earlier.host = later.host ∨ Verifier.AreKeyed c.verifiers ∧ earlier.host ≤ later.host)

theorem Passes.refl (c : Codec) (moment : Moment) : c.Passes moment moment :=
  ⟨Instant.le_refl _, Or.inl rfl⟩

theorem Passes.trans {first second third : Moment} (before : c.Passes first second)
    (after : c.Passes second third) : c.Passes first third := by
  refine ⟨Instant.le_trans before.1 after.1, ?_⟩
  rcases before.2 with same | ⟨keyed, le⟩
  · rw [same]
    exact after.2
  · rcases after.2 with same' | ⟨-, le'⟩
    · exact Or.inr ⟨keyed, same' ▸ le⟩
    · exact Or.inr ⟨keyed, Int.le_trans le le'⟩

/-- A token that is read was read so at all times before. -/
theorem Passes.decode {earlier later : Moment} (passes : c.Passes earlier later)
    (read : c.decode later.host later.now token = .ok claims) :
    c.decode earlier.host earlier.now token = .ok claims := by
  have then_too : c.decode earlier.host later.now token = .ok claims := by
    rcases passes.2 with same | ⟨keyed, ordered⟩
    · rw [same, read]
    · rw [decode_eq] at read ⊢
      split at read
      · rename_i readable
        rw [if_pos readable]
        cases answered : (Verifier.askInOrder later.host token c.verifiers).2 with
        | error e =>
          rw [answered] at read
          cases read
        | ok w =>
          rw [answered] at read
          have timed := Verifier.isTimed_askInOrder token c.verifiers keyed
          rw [timed.earlier answered ordered, ← read]
      · cases read
  exact (c.isLimited_decode earlier.host token).earlier then_too passes.1

theorem Passes.refused {earlier later : Moment} (passes : c.Passes earlier later) {e : TokenError}
    (refused : c.decode earlier.host earlier.now token = .error e) :
    ∃ e, c.decode later.host later.now token = .error e := by
  cases read : c.decode later.host later.now token with
  | error e' => exact ⟨e', rfl⟩
  | ok claims =>
    rw [passes.decode read] at refused
    cases refused

/-- States in an order of time: every effect leads to a later state, and the clocks show no less in
later states. -/
structure NeverBack {σ : Type} (c : Codec) (answer : (e : Effect) → σ → e.Answer × σ)
    (before : σ → σ → Prop) : Prop where
  trans : ∀ {s t u}, before s t → before t u → before s u
  effect : ∀ e s, before s (answer e s).2
  clocks : ∀ {s t}, before s t → c.Passes (answer .moment s).1 (answer .moment t).1

/-- Programs do not set the clocks of a world. -/
theorem neverBack_world (c : Codec) :
    c.NeverBack World.answer fun w w' => c.Passes w.moment w'.moment where
  trans := Passes.trans
  effect e w := by
    rw [w.moment_answer e]
    exact .refl c w.moment
  clocks passes := passes

end Codec

section

variable {σ : Type} {answer : (e : Effect) → σ → e.Answer × σ} {before : σ → σ → Prop} {c : Codec}
  {token : String} {claims : Claims} {s t u : σ}

namespace Rotation

theorem presented_error {moment : Moment} {e : TokenError}
    (refused : c.decode moment.host moment.now token = .error e) :
    ∃ e, presented c moment token = .error e := by
  rw [presented, refused]
  cases e <;> exact ⟨_, rfl⟩

theorem presented_refused {earlier later : Moment} (passes : c.Passes earlier later)
    {e : RotationError} (refused : presented c earlier token = .error e) :
    ∃ e, presented c later token = .error e := by
  cases read : c.decode later.host later.now token with
  | error e' => exact presented_error read
  | ok claims =>
    rw [presented, passes.decode read] at refused
    rw [presented, read]
    exact ⟨e, refused⟩

/-- A token that is not fit to be presented is not looked up. -/
theorem run_rotate_of_refused {e : RotationError}
    (refused : presented c (answer .moment s).1 token = .error e) :
    (rotate c token).run.run answer s = (.error (.refused e), (answer .moment s).2) := by
  rw [rotate, Action.run_bind, Action.run_perform]
  dsimp only
  rw [Action.run_bind, Action.run_ofExcept, refused]
  rfl

end Rotation

namespace Gate

/-- What the gates say to decoded claims at their second reading of the clock. -/
def recheck (later : Moment) (claims : Claims) : Except ApiError Claims :=
  if claims.expiresAt ≤ later.now then .error (.token .expired)
  else if claims.kind = .refresh then
    .error (.wrongTokenType "refresh tokens are not request credentials")
  else .ok claims

theorem run_authenticate_of_refused {e : TokenError}
    (refused : c.decode (answer .moment s).1.host (answer .moment s).1.now token = .error e) :
    (authenticate c token).run.run answer s =
      (.error (.refused (.token e)), (answer .moment s).2) := by
  rw [authenticate, Action.run_bind, Action.run_perform]
  dsimp only
  rw [Action.run_bind, Action.run_ofExcept, refused]
  rfl

theorem run_authenticate_of_read
    (read : c.decode (answer .moment s).1.host (answer .moment s).1.now token = .ok claims) :
    (authenticate c token).run.run answer s =
      ((recheck (answer .moment (answer .moment s).2).1 claims).mapError .refused,
        (answer .moment (answer .moment s).2).2) := by
  rw [authenticate, Action.run_bind, Action.run_perform]
  dsimp only
  rw [Action.run_bind, Action.run_ofExcept, read]
  dsimp only [mapError_ok]
  rw [Action.run_bind, Action.run_perform, recheck]
  dsimp only
  split
  · rfl
  · split <;> rfl

/-- The gates refuse no later what they let pass, so what they refuse once they refuse for ever. -/
theorem authenticate_refused (steady : c.NeverBack answer before) {e : Fault ApiError}
    (refused : (authenticate c token).run.run answer s = (.error e, t)) (later : before t u) :
    ∃ e v, (authenticate c token).run.run answer u = (.error e, v) := by
  cases read : c.decode (answer .moment u).1.host (answer .moment u).1.now token with
  | error e' => exact ⟨_, _, run_authenticate_of_refused read⟩
  | ok claims =>
    rw [run_authenticate_of_read read]
    have once : before s (answer .moment s).2 := steady.effect .moment s
    have twice : before (answer .moment s).2 (answer .moment (answer .moment s).2).2 :=
      steady.effect .moment _
    have young : ¬ claims.expiresAt ≤ (answer .moment u).1.now :=
      Instant.not_le.mpr (Codec.unexpired_of_decode read)
    cases first : c.decode (answer .moment s).1.host (answer .moment s).1.now token with
    | error e' =>
      rw [run_authenticate_of_refused first] at refused
      obtain ⟨-, rfl⟩ := Prod.mk.inj refused
      have passes := steady.clocks (steady.trans once later)
      rw [passes.decode read] at first
      cases first
    | ok claims' =>
      rw [run_authenticate_of_read first] at refused
      obtain ⟨said, rfl⟩ := Prod.mk.inj refused
      have passes := steady.clocks (steady.trans once (steady.trans twice later))
      rw [passes.decode read] at first
      obtain rfl := Except.ok.inj first
      -- the second reading is before the state the refusal leaves
      have second := (steady.clocks (steady.trans twice later)).1
      have unexpired : ¬ claims.expiresAt ≤ (answer .moment (answer .moment s).2).1.now :=
        fun old => young (Instant.le_trans old second)
      rw [recheck, if_neg unexpired] at said
      by_cases refresh : claims.kind = .refresh
      · rw [recheck, if_pos refresh]
        split <;> exact ⟨_, _, rfl⟩
      · rw [if_neg refresh] at said
        cases said

end Gate

end

namespace Codec

/-- A token's expiry is one threshold, for every codec and every token. With the host's time fixed
the token is refused with one error at every instant, or it states claims, is read as them at every
instant before they expire, and is expired at every instant from then on. So where no clock goes
back, a token once refused is refused at all times after, by the codec, by the gates and where it is
presented for rotation. The gates look at the expiry again after they have decoded; at the same
instant this second look refuses nothing. -/
theorem expiry_is_one_threshold (c : Codec) (token : String) :
    (∀ host, (∃ e, ∀ now, c.decode host now token = .error e) ∨
      ∃ claims, (∀ now, now < claims.expiresAt → c.decode host now token = .ok claims) ∧
        ∀ now, claims.expiresAt ≤ now → c.decode host now token = .error .expired) ∧
    (∀ earlier later, c.Passes earlier later → ∀ e,
      c.decode earlier.host earlier.now token = .error e →
        ∃ e, c.decode later.host later.now token = .error e) ∧
    (∀ {σ : Type} (answer : (e : Effect) → σ → e.Answer × σ) (before : σ → σ → Prop),
      c.NeverBack answer before →
      (∀ s e t, (Gate.authenticate c token).run.run answer s = (.error e, t) → ∀ u, before t u →
        ∃ e v, (Gate.authenticate c token).run.run answer u = (.error e, v)) ∧
      ∀ s e, Rotation.presented c (answer .moment s).1 token = .error e → ∀ u, before s u →
        ∃ e, Rotation.presented c (answer .moment u).1 token = .error e ∧
          (Rotation.rotate c token).run.run answer u =
            (.error (.refused e), (answer .moment u).2)) ∧
    ∀ {σ : Type} (answer : (e : Effect) → σ → e.Answer × σ) (s : σ) (claims : Claims),
      (answer .moment (answer .moment s).2).1.now = (answer .moment s).1.now →
      c.decode (answer .moment s).1.host (answer .moment s).1.now token = .ok claims →
      ((Gate.authenticate c token).run.run answer s).1 =
        if claims.kind = .refresh then
          .error (.refused (.wrongTokenType "refresh tokens are not request credentials"))
        else .ok claims := by
  refine ⟨fun host => c.isLimited_decode host token, fun earlier later passes e => passes.refused,
    ?_, ?_⟩
  · intro σ answer before steady
    constructor
    · intro s e t refused u later
      exact Gate.authenticate_refused steady refused later
    · intro s e refused u later
      obtain ⟨e', refused'⟩ := Rotation.presented_refused (steady.clocks later) refused
      exact ⟨e', refused', Rotation.run_rotate_of_refused refused'⟩
  · intro σ answer s claims same read
    have young : ¬ claims.expiresAt ≤ (answer .moment (answer .moment s).2).1.now := by
      rw [same]
      exact Instant.not_le.mpr (unexpired_of_decode read)
    rw [Gate.run_authenticate_of_read read, Gate.recheck, if_neg young]
    split <;> rfl

/-- A token good for a quarter of an hour, a nanosecond before its end and at its end, and what the
gates make of it at both instants and when the host's clock has caught up. -/
theorem quarter_of_an_hour_ends_once :
    let codec : Codec := ⟨.secret (List.replicate 32 7), [.secret (List.replicate 32 7)],
      ⟨"login", .standard, .standard⟩⟩
    let c : Claims := ⟨"alice", "login", [], ⟨0, 0, by decide, by decide, by decide⟩,
      ⟨900, 0, by decide, by decide, by decide⟩, .access, some [.admin, .user], none, none⟩
    let last : Moment := ⟨⟨899, 999999999, by decide, by decide, by decide⟩, 0⟩
    let expiry : Moment := ⟨⟨900, 0, by decide, by decide, by decide⟩, 0⟩
    let after : Moment := ⟨⟨1000, 0, by decide, by decide, by decide⟩, 5000⟩
    codec.Passes last expiry ∧ codec.Passes expiry after ∧ ∃ token,
      codec.decode 0 last.now token = .ok c ∧ codec.decode 0 expiry.now token = .error .expired ∧
      (∃ e, codec.decode after.host after.now token = .error e) ∧
      ((Gate.authenticate codec token).run.run World.answer (.start last .counting)).1 = .ok c ∧
      (∃ e t, (Gate.authenticate codec token).run.run World.answer (.start expiry .counting) =
        (.error e, t)) ∧
      ∃ e t, (Gate.authenticate codec token).run.run World.answer (.start after .counting) =
        (.error e, t) := by
  intro codec c last expiry after
  let keys : KeyMaterial := ⟨List.replicate 32 7, none, none, none⟩
  have made : make keys codec.settings = .ok codec := rfl
  have paired : keys.IsPaired := fun _ _ _ signing => nomatch signing
  have keyed : Verifier.AreKeyed codec.verifiers := (isChainOf_make made).keyed
  have ends : codec.Passes last expiry := ⟨by decide, Or.inl rfl⟩
  have goes_on : codec.Passes expiry after := ⟨by decide, Or.inr ⟨keyed, by decide⟩⟩
  obtain ⟨token, encoded⟩ : ∃ token, codec.encode c = .ok token := exists_encode rfl (by decide)
  have good : codec.decode 0 last.now token = .ok c :=
    decode_of_encode made made paired (Or.inl ⟨rfl, rfl⟩) encoded 0 last.now
  obtain ⟨threshold, refused, gates, second⟩ := expiry_is_one_threshold codec token
  have ended : codec.decode 0 expiry.now token = .error .expired := by
    rcases threshold 0 with ⟨e, always⟩ | ⟨claims, before, from_then⟩
    · rw [always] at good
      cases good
    · have young : last.now < claims.expiresAt := by
        apply Instant.not_le.mp
        intro old
        rw [from_then last.now old] at good
        cases good
      have same : claims = c := Except.ok.inj ((before last.now young).symm.trans good)
      apply from_then
      rw [same]
      decide
  have turned_away : (Gate.authenticate codec token).run.run World.answer (.start expiry .counting) =
      (.error (.refused (.token .expired)), .start expiry .counting) :=
    Gate.run_authenticate_of_refused ended
  refine ⟨ends, goes_on, token, good, ended, refused expiry after goes_on _ ended, ?_,
    ⟨_, _, turned_away⟩, ?_⟩
  · exact second World.answer (.start last .counting) c rfl good
  · exact (gates World.answer _ codec.neverBack_world).1 _ _ _ turned_away
      (.start after .counting) goes_on

end Codec

end SessionTokens
