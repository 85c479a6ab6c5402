import SessionTokens.Proofs.Token.RoundTrip
import SessionTokens.Proofs.Token.Unsigned

set_option autoImplicit false

namespace SessionTokens

open Text

namespace Token

/-- What a token is answered by every key that does not leave it to others. -/
def ownAnswer (host : Int) (token : String) : Except TokenError WireClaims :=
  match Parts.split? token with
  | none => .error .malformed
  | some p =>
    match p.algorithm? with
    | none => .error .malformed
    | some a =>
      if a = .rs256 ∧ Base64.decode? Base64.urlSafe p.signature = none then .error .malformed
      else p.claims host

variable {k : Key} {p : Parts}

theorem ownAnswer_ne_invalidSignature (host : Int) (token : String) :
    ownAnswer host token ≠ .error .invalidSignature := by
  unfold ownAnswer
  split
  · nofun
  · split
    · nofun
    · split
      · nofun
      · exact claims_ne_invalidSignature _ host

/-- An RSA signature that is accepted is base64url. -/
theorem readable_of_check (accepted : k.check p = .ok ()) :
    ¬ (k.algorithm = .rs256 ∧ Base64.decode? Base64.urlSafe p.signature = none) := by
  rintro ⟨own, unreadable⟩
  cases k with
  | secret key => cases own
  | rsa bytes =>
    rw [Key.check, unreadable] at accepted
    cases accepted

/-- Before its signature holds a token is malformed for all keys of its algorithm or for none, and
after that its payload decides. -/
theorem verify_left_or_own (k : Key) (host : Int) (token : String) :
    verify k host token = .error .invalidSignature ∨
      verify k host token = ownAnswer host token := by
  unfold verify ownAnswer
  cases Parts.split? token with
  | none => exact Or.inr rfl
  | some p =>
    dsimp only
    cases p.algorithm? with
    | none => exact Or.inr rfl
    | some a =>
      dsimp only
      by_cases other : a ≠ k.algorithm
      · exact Or.inl (if_pos other)
      · rw [if_neg other]
        obtain rfl := Decidable.not_not.mp other
        cases checked : k.check p with
        | ok _ =>
          right
          rw [if_neg (readable_of_check checked)]
        | error e =>
          dsimp only
          rw [check_error_eq checked]
          split
          · exact Or.inr rfl
          · exact Or.inl rfl

end Token

namespace Verifier

/-- Each of the verifiers holds a key. -/
def AreKeyed (verifiers : List Verifier) : Prop :=
  ∀ v ∈ verifiers, ∃ name k, v = ofKey name k

variable {host : Int} {token : String} {verifiers others : List Verifier}

theorem AreKeyed.verify_cases (keyed : AreKeyed verifiers) :
    ∀ v ∈ verifiers, v.verify host token = .error .invalidSignature ∨
      v.verify host token = Token.ownAnswer host token := by
  intro v inside
  obtain ⟨name, k, rfl⟩ := keyed v inside
  exact Token.verify_left_or_own k host token

/-- One verifier that comes to an answer speaks for its chain. -/
theorem AreKeyed.askInOrder_eq_verify (keyed : AreKeyed verifiers) {v : Verifier}
    (inside : v ∈ verifiers) (definite : v.verify host token ≠ .error .invalidSignature) :
    (askInOrder host token verifiers).2 = v.verify host token := by
  have own : v.verify host token = Token.ownAnswer host token :=
    (keyed.verify_cases v inside).resolve_left definite
  rw [own]
  exact askInOrder_eq verifiers keyed.verify_cases ⟨v, inside, own⟩
    (Token.ownAnswer_ne_invalidSignature host token)

/-- Chains of the same verifiers answer alike. -/
theorem AreKeyed.askInOrder_congr (keyed : AreKeyed verifiers)
    (same : ∀ v, v ∈ others ↔ v ∈ verifiers) :
    (askInOrder host token others).2 = (askInOrder host token verifiers).2 := by
  have keyed' : AreKeyed others := fun v inside => keyed v ((same v).mp inside)
  by_cases one : ∃ v ∈ verifiers, v.verify host token ≠ .error .invalidSignature
  · obtain ⟨v, inside, definite⟩ := one
    rw [keyed.askInOrder_eq_verify inside definite,
      keyed'.askInOrder_eq_verify ((same v).mpr inside) definite]
  · have left : ∀ v ∈ verifiers, v.verify host token = .error .invalidSignature := fun v inside =>
      Classical.not_not.mp fun definite => one ⟨v, inside, definite⟩
    rw [askInOrder_left left, askInOrder_left fun v inside => left v ((same v).mp inside)]

end Verifier

namespace Codec

variable {keys : KeyMaterial} {settings : CodecSettings} {codec : Codec}
  {verifiers others : List Verifier}

theorem decode_eq (c : Codec) (host : Int) (now : Instant) (token : String) :
    c.decode host now token =
      if hasHeader token then (Verifier.askInOrder host token c.verifiers).2.bind (c.accept now)
      else .error .malformed := by
  rw [decode, decodeTraced]
  split <;> rfl

/-- Whether a codec can be made does not depend on its chain. -/
theorem withVerifiers_eq (keys : KeyMaterial) (settings : CodecSettings)
    (verifiers : List Verifier) : withVerifiers keys settings verifiers =
      ((checkSecret keys.secret).bind fun _ => signingKey keys).map fun signer =>
        ⟨signer, verifiers, settings⟩ := by
  simp only [withVerifiers, bind, Except.bind]
  cases checkSecret keys.secret with
  | error e => rfl
  | ok _ =>
    dsimp only
    cases signingKey keys <;> rfl

theorem withVerifiers_of_make (made : make keys settings = .ok codec)
    (verifiers : List Verifier) :
    withVerifiers keys settings verifiers = .ok { codec with verifiers } := by
  simp only [make, bind, Except.bind] at made
  cases checked : checkSecret keys.secret with
  | error e => rw [checked] at made; cases made
  | ok _ =>
    cases chain : standardVerifiers keys with
    | error e => rw [checked, chain] at made; cases made
    | ok standard =>
      rw [checked, chain] at made
      dsimp only at made
      rw [withVerifiers_eq, checked] at made
      rw [withVerifiers_eq, checked]
      cases signing : signingKey keys with
      | error e => rw [signing] at made; cases made
      | ok signer =>
        rw [signing] at made
        obtain rfl := Except.ok.inj made
        rfl

/-- What a codec with a chain of one's own makes of a token. -/
def decodeWith (keys : KeyMaterial) (settings : CodecSettings) (verifiers : List Verifier)
    (host : Int) (now : Instant) (token : String) : Except KeyError (Except TokenError Claims) :=
  (withVerifiers keys settings verifiers).map fun c => c.decode host now token

variable {host : Int} {token : String}

/-- The chain counts for what it answers and for nothing else. -/
theorem decodeWith_eq (keys : KeyMaterial) (settings : CodecSettings) (verifiers : List Verifier)
    (host : Int) (now : Instant) (token : String) :
    decodeWith keys settings verifiers host now token =
      ((checkSecret keys.secret).bind fun _ => signingKey keys).map fun signer =>
        if hasHeader token then
          (Verifier.askInOrder host token verifiers).2.bind (accept ⟨signer, [], settings⟩ now)
        else .error .malformed := by
  rw [decodeWith, withVerifiers_eq]
  cases (checkSecret keys.secret).bind fun _ => signingKey keys with
  | error e => rfl
  | ok signer =>
    dsimp only [Except.map]
    rw [decode, decodeTraced]
    split <;> rfl

theorem decodeWith_congr (asked : (Verifier.askInOrder host token others).2 =
      (Verifier.askInOrder host token verifiers).2)
    (keys : KeyMaterial) (settings : CodecSettings) (now : Instant) :
    decodeWith keys settings others host now token =
      decodeWith keys settings verifiers host now token := by
  rw [decodeWith_eq, decodeWith_eq, asked]

/-- Where all of a chain leave a token to others and that is not the answer, the chain has not been
asked. -/
theorem decodeWith_of_left (now : Instant)
    (left : (Verifier.askInOrder host token verifiers).2 = .error .invalidSignature)
    (other : decodeWith keys settings verifiers host now token ≠ .ok (.error .invalidSignature)) :
    decodeWith keys settings others host now token =
      decodeWith keys settings verifiers host now token := by
  rw [decodeWith_eq, left] at other
  rw [decodeWith_eq, decodeWith_eq]
  cases built : (checkSecret keys.secret).bind fun _ => signingKey keys with
  | error e => rfl
  | ok signer =>
    rw [built] at other
    dsimp only [Except.map] at other ⊢
    by_cases readable : hasHeader token = true
    · rw [if_pos readable] at other
      exact absurd rfl other
    · rw [if_neg readable, if_neg readable]

/-- The order of a chain of verifiers is a preference and no more: whatever keys they hold, and
whatever the token and the clocks, the same verifiers in another order give the same answer. More
verifiers make a difference to a token only if it was nobody's before, so none of them turns away
what another accepts. In particular the standard order is one of many. -/
theorem verifier_order_is_preference (keyed : Verifier.AreKeyed verifiers) (keys : KeyMaterial)
    (settings : CodecSettings) (host : Int) (now : Instant) (token : String) :
    (∀ order : List Verifier, order.Perm verifiers →
      decodeWith keys settings order host now token =
        decodeWith keys settings verifiers host now token) ∧
    (∀ more : List Verifier, Verifier.AreKeyed more → verifiers ⊆ more →
      decodeWith keys settings verifiers host now token ≠ .ok (.error .invalidSignature) →
      decodeWith keys settings more host now token =
        decodeWith keys settings verifiers host now token) ∧
    ∀ codec, make keys settings = .ok codec →
      ∀ order : List Verifier, order.Perm codec.verifiers →
        decodeWith keys settings order host now token = .ok (codec.decode host now token) := by
  refine ⟨?_, ?_, ?_⟩
  · intro order perm
    exact decodeWith_congr (keyed.askInOrder_congr fun _ => perm.mem_iff) keys settings now
  · intro more keyed' within heard
    by_cases one : ∃ v ∈ verifiers, v.verify host token ≠ .error .invalidSignature
    · obtain ⟨v, inside, definite⟩ := one
      apply decodeWith_congr
      rw [keyed.askInOrder_eq_verify inside definite,
        keyed'.askInOrder_eq_verify (within inside) definite]
    · have left : (Verifier.askInOrder host token verifiers).2 = .error .invalidSignature :=
        Verifier.askInOrder_left fun v inside =>
          Classical.not_not.mp fun definite => one ⟨v, inside, definite⟩
      exact decodeWith_of_left now left heard
  · intro codec made order perm
    have standard : Verifier.AreKeyed codec.verifiers := (isChainOf_make made).keyed
    have asked : (Verifier.askInOrder host token order).2 =
        (Verifier.askInOrder host token codec.verifiers).2 :=
      standard.askInOrder_congr fun _ => perm.mem_iff
    rw [decodeWith_congr asked keys settings now, decodeWith, withVerifiers_of_make made]
    rfl

/-- A token made with a secret is read wherever the secret stands among a stranger's and a key that
is none. -/
theorem order_of_three_is_preference :
    let keys : KeyMaterial := ⟨List.replicate 32 7, none, none, none⟩
    let settings : CodecSettings := ⟨"login", .standard, .standard⟩
    let own : Verifier := .secret (List.replicate 32 7)
    let stranger : Verifier := .secret (List.replicate 32 9)
    let broken : Verifier := .ofKey "rs256" (.rsa [])
    let c : Claims := ⟨"alice", "login", [], ⟨0, 0, by decide, by decide, by decide⟩,
      ⟨900, 0, by decide, by decide, by decide⟩, .access, some [.admin, .user], none, none⟩
    let now : Instant := ⟨899, 1, by decide, by decide, by decide⟩
    Verifier.AreKeyed [stranger, broken, own] ∧ ∃ token,
      decodeWith keys settings [own, stranger, broken] 900 now token = .ok (.ok c) ∧
      decodeWith keys settings [stranger, broken, own] 900 now token = .ok (.ok c) := by
  intro keys settings own stranger broken c now
  let codec : Codec := ⟨.secret (List.replicate 32 7), [own], settings⟩
  have made : make keys settings = .ok codec := rfl
  have alone : Verifier.AreKeyed [own] := (isChainOf_make made).keyed
  have keyed : Verifier.AreKeyed [stranger, broken, own] := by
    intro v inside
    simp only [List.mem_cons, List.not_mem_nil, or_false] at inside
    rcases inside with rfl | rfl | rfl
    · exact ⟨_, _, rfl⟩
    · exact ⟨_, _, rfl⟩
    · exact ⟨_, _, rfl⟩
  have paired : keys.IsPaired := fun _ _ _ signing => nomatch signing
  obtain ⟨token, encoded⟩ : ∃ token, codec.encode c = .ok token := exists_encode rfl (by decide)
  have first : decodeWith keys settings [own] 900 now token = .ok (.ok c) :=
    congrArg Except.ok (decode_of_encode made made paired (Or.inl ⟨rfl, rfl⟩) encoded 900 now)
  have more : decodeWith keys settings [stranger, broken, own] 900 now token = .ok (.ok c) := by
    have heard : decodeWith keys settings [own] 900 now token ≠
        .ok (.error .invalidSignature) := by
      rw [first]
      nofun
    rw [← first]
    apply (verifier_order_is_preference alone keys settings 900 now token).2.1 _ keyed _ heard
    exact List.subset_cons_of_subset _ (List.subset_cons_of_subset _ (List.Subset.refl _))
  have moved : ([own] ++ [stranger, broken]).Perm ([stranger, broken] ++ [own]) :=
    List.perm_append_comm
  refine ⟨keyed, token, ?_, more⟩
  rw [← more]
  exact (verifier_order_is_preference keyed keys settings 900 now token).1 _ moved

end Codec

end SessionTokens
