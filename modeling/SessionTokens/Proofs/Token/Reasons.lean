import SessionTokens.Proofs.Token.Trust

set_option autoImplicit false

namespace SessionTokens

/-- A failure that is about a token and not about the making of one. -/
def TokenError.IsOfToken (e : TokenError) : Prop :=
  ∀ cause, e ≠ .encoding cause

namespace TokenError

theorem isOfToken_malformed : malformed.IsOfToken := by
  intro cause same
  cases same

theorem isOfToken_invalidSignature : invalidSignature.IsOfToken := by
  intro cause same
  cases same

theorem isOfToken_expired : expired.IsOfToken := by
  intro cause same
  cases same

end TokenError

open TokenError

namespace Token

variable {e : TokenError}

theorem isOfToken_of_claims {p : Parts} {host : Int} (refused : p.claims host = .error e) :
    e.IsOfToken := by
  unfold Parts.claims at refused
  split at refused
  · cases refused
    exact isOfToken_malformed
  · split at refused
    · cases refused
      exact isOfToken_malformed
    · split at refused
      · cases refused
        exact isOfToken_malformed
      · split at refused
        · cases refused
          exact isOfToken_expired
        · cases refused

theorem isOfToken_of_verify {k : Key} {host : Int} {token : String}
    (refused : verify k host token = .error e) : e.IsOfToken := by
  unfold verify at refused
  split at refused
  · cases refused
    exact isOfToken_malformed
  · split at refused
    · cases refused
      exact isOfToken_malformed
    · split at refused
      · cases refused
        exact isOfToken_invalidSignature
      · split at refused
        · rename_i fault checked
          cases refused
          rcases check_error checked with rfl | rfl
          · exact isOfToken_malformed
          · exact isOfToken_invalidSignature
        · exact isOfToken_of_claims refused

end Token

theorem Verifier.isOfToken_of_askInOrder {host : Int} {token : String} {e : TokenError} :
    ∀ {verifiers : List Verifier},
      (∀ v ∈ verifiers, ∀ e, v.verify host token = .error e → e.IsOfToken) →
      (askInOrder host token verifiers).2 = .error e → e.IsOfToken
  | [], _, refused => by
    cases refused
    exact isOfToken_invalidSignature
  | v :: rest, each, refused => by
    rw [askInOrder] at refused
    split at refused
    · exact isOfToken_of_askInOrder (fun u later => each u (List.mem_cons_of_mem v later)) refused
    · exact each v List.mem_cons_self e refused

namespace Codec

variable {c : Codec} {e : TokenError}

theorem isOfToken_of_accept {now : Instant} {w : WireClaims} (refused : c.accept now w = .error e) :
    e.IsOfToken := by
  unfold accept at refused
  split at refused
  · cases refused
    exact isOfToken_malformed
  · split at refused
    · cases refused
      exact isOfToken_malformed
    · split at refused
      · cases refused
        exact isOfToken_expired
      · cases refused

/-- A codec made of keys reads a token or finds fault with it. -/
theorem isOfToken_of_decode {keys : KeyMaterial} {settings : CodecSettings}
    (made : make keys settings = .ok c) {host : Int} {now : Instant} {token : String}
    (refused : c.decode host now token = .error e) : e.IsOfToken := by
  rw [decode, decodeTraced] at refused
  split at refused
  · dsimp only at refused
    cases answer : (Verifier.askInOrder host token c.verifiers).2 with
    | ok w =>
      rw [answer] at refused
      exact isOfToken_of_accept refused
    | error fault =>
      rw [answer] at refused
      cases refused
      refine Verifier.isOfToken_of_askInOrder (fun v inside e' refused' => ?_) answer
      obtain ⟨name, k, rfl, -⟩ := holds_of_mem_verifiers made inside
      exact Token.isOfToken_of_verify refused'
  · cases refused
    exact isOfToken_malformed

end Codec

end SessionTokens
