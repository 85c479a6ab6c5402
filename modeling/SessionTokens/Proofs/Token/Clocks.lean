import SessionTokens.Proofs.Token.RoundTrip

set_option autoImplicit false

namespace SessionTokens

/-- An answer that depends on the host's time at most in whether the payload has expired. -/
def IsTimed (answer : Int → Except TokenError WireClaims) : Prop :=
  (∃ e, ∀ host, answer host = .error e) ∨
    ∃ w, ∀ host, answer host = if w.expiresAt < host then .error .expired else .ok w

theorem IsTimed.unique {answer : Int → Except TokenError WireClaims} (timed : IsTimed answer)
    {host host' : Int} {w w' : WireClaims} (first : answer host = .ok w)
    (second : answer host' = .ok w') : w = w' := by
  rcases timed with ⟨e, always⟩ | ⟨v, always⟩
  · rw [always] at first
    cases first
  · have stated : ∀ {host : Int} {w : WireClaims}, answer host = .ok w → v = w := by
      intro host w answers
      rw [always] at answers
      split at answers
      · cases answers
      · exact Except.ok.inj answers
    rw [← stated first, ← stated second]

/-- Whether a verifier leaves a token to others does not depend on the time either. -/
theorem IsTimed.refuses {answer : Int → Except TokenError WireClaims} (timed : IsTimed answer)
    {host : Int} (refused : answer host = .error .invalidSignature) :
    ∀ host', answer host' = .error .invalidSignature := by
  rcases timed with ⟨e, always⟩ | ⟨v, always⟩
  · intro host'
    rw [always, ← always host, refused]
  · rw [always] at refused
    split at refused <;> cases refused

namespace Token

theorem isTimed_claims (p : Parts) : IsTimed p.claims := by
  unfold Parts.claims
  cases document? p.payload with
  | none => exact Or.inl ⟨_, fun _ => rfl⟩
  | some d =>
    dsimp only
    cases d.read WireClaims.read with
    | error e => exact Or.inl ⟨_, fun _ => rfl⟩
    | ok w =>
      dsimp only
      by_cases unreadable : (!hasReadableStart d.root || w.expiresAt < 0) = true
      · exact Or.inl ⟨.malformed, fun host => if_pos unreadable⟩
      · exact Or.inr ⟨w, fun host => if_neg unreadable⟩

theorem isTimed_verify (k : Key) (token : String) : IsTimed fun host => verify k host token := by
  unfold verify
  cases Parts.split? token with
  | none => exact Or.inl ⟨_, fun _ => rfl⟩
  | some p =>
    dsimp only
    cases p.algorithm? with
    | none => exact Or.inl ⟨_, fun _ => rfl⟩
    | some a =>
      dsimp only
      by_cases other : a ≠ k.algorithm
      · exact Or.inl ⟨.invalidSignature, fun host => if_pos other⟩
      · simp only [if_neg other]
        cases k.check p with
        | error e => exact Or.inl ⟨e, fun _ => rfl⟩
        | ok _ => exact isTimed_claims p

end Token

theorem Verifier.isTimed_askInOrder (token : String) (verifiers : List Verifier)
    (keyed : ∀ v ∈ verifiers, ∃ name k, v = Verifier.ofKey name k) :
    IsTimed fun host => (askInOrder host token verifiers).2 := by
  induction verifiers with
  | nil => exact Or.inl ⟨.invalidSignature, fun _ => rfl⟩
  | cons v rest ih =>
    rw [List.forall_mem_cons] at keyed
    obtain ⟨name, k, rfl⟩ := keyed.1
    have timed := Token.isTimed_verify k token
    by_cases left : Token.verify k 0 token = .error .invalidSignature
    · have asked : ∀ host, (askInOrder host token (ofKey name k :: rest)).2 =
          (askInOrder host token rest).2 := by
        intro host
        rw [askInOrder, show (ofKey name k).verify host token = _ from timed.refuses left host]
      simp only [asked]
      exact ih keyed.2
    · have answered : ∀ host, (askInOrder host token (ofKey name k :: rest)).2 =
          Token.verify k host token := by
        intro host
        have kept : (ofKey name k).verify host token ≠ .error .invalidSignature := by
          intro refused
          exact left (timed.refuses refused 0)
        rw [askInOrder]
        split
        · rename_i refused
          exact absurd refused kept
        · rfl
      simp only [answered]
      exact timed

namespace Codec

variable {keys : KeyMaterial} {settings : CodecSettings} {codec : Codec}

/-- Whenever a token is read, it states the same claims. -/
theorem decode_unique (made : make keys settings = .ok codec) {token : String} {host host' : Int}
    {now now' : Instant} {c c' : Claims} (first : codec.decode host now token = .ok c)
    (second : codec.decode host' now' token = .ok c') : c = c' := by
  have timed := Verifier.isTimed_askInOrder token codec.verifiers (isChainOf_make made).keyed
  have stated : ∀ {host : Int} {now : Instant} {c : Claims}, codec.decode host now token = .ok c →
      ∃ w, (Verifier.askInOrder host token codec.verifiers).2 = .ok w ∧
        w.toClaims? codec.settings.rolesClaim = some c := by
    intro host now c decoded
    have definite : IsDefinite (codec.decode host now token) := by
      rw [decoded]
      exact isDefinite_ok c
    obtain ⟨-, same⟩ := decode_definite definite
    rw [decoded] at same
    cases answer : (Verifier.askInOrder host token codec.verifiers).2 with
    | error e =>
      rw [answer] at same
      cases same
    | ok w =>
      rw [answer] at same
      exact ⟨w, rfl, (accept_ok same.symm).1⟩
  obtain ⟨w, answer, read⟩ := stated first
  obtain ⟨w', answer', read'⟩ := stated second
  rw [timed.unique answer answer'] at read
  rw [read] at read'
  exact Option.some.inj read'

end Codec

end SessionTokens
