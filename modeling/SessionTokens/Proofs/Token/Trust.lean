import SessionTokens.Proofs.Claims.Stated
import SessionTokens.Proofs.Token.Chain

set_option autoImplicit false

namespace SessionTokens

open Text Json

/-- The material vouches for a token: its secret makes the signature part, or one of its two public
keys verifies the signature that the part writes. The header has to name the key's algorithm. -/
inductive KeyMaterial.Vouches (keys : KeyMaterial) (p : Token.Parts) : Prop
  | secret (algorithm : p.algorithm? = some .hs256)
      (signature : p.signature =
        Base64.encode Base64.urlSafe (Crypto.Hmac.code keys.secret p.signed))
  | publicKey {pem signature : List UInt8} {key : Crypto.Rsa.PublicKey}
      (configured : keys.publicPem = some pem ∨ keys.peerPem = some pem)
      (readable : publicKey? pem = some key)
      (algorithm : p.algorithm? = some .rs256)
      (written : p.signature = Base64.encode Base64.urlSafe signature)
      (verifies : key.verify p.signed signature = true)

/-- A key of the material: its secret, or what one of its two files for verifying holds. -/
inductive KeyMaterial.Holds (keys : KeyMaterial) : Token.Key → Prop
  | secret : keys.Holds (.secret keys.secret)
  | file {pem bytes : List UInt8} (configured : keys.publicPem = some pem ∨ keys.peerPem = some pem)
      (found : Pem.rsaKey? pem = some bytes) : keys.Holds (.rsa bytes)

/-- Neither of the failures that say nothing of a signature. -/
def IsDefinite {α : Type} (answer : Except TokenError α) : Prop :=
  answer ≠ .error .malformed ∧ answer ≠ .error .invalidSignature

theorem isDefinite_ok {α : Type} (a : α) : IsDefinite (.ok a) :=
  ⟨nofun, nofun⟩

theorem isDefinite_expired {α : Type} : IsDefinite (.error .expired : Except TokenError α) :=
  ⟨nofun, nofun⟩

namespace Token

theorem eq_text_of_split? {token : String} {p : Parts} (parted : Parts.split? token = some p) :
    token = p.text ∧ '.' ∉ p.payload ∧ '.' ∉ p.signature := by
  unfold Parts.split? at parted
  split at parted
  · rename_i front signature last
    obtain ⟨⟨header, payload⟩, second, rfl⟩ := Option.map_eq_some_iff.mp parted
    refine ⟨?_, not_mem_of_splitLast? second, not_mem_of_splitLast? last⟩
    have joined : token.toList = (header ++ '.' :: payload) ++ '.' :: signature := by
      rw [eq_of_splitLast? last, eq_of_splitLast? second]
    rw [Parts.text, ← joined, String.ofList_toList]
  · cases parted

variable {k : Key} {p : Parts} {host : Int} {token : String}

theorem check_error {e : TokenError} (refused : k.check p = .error e) :
    e = .malformed ∨ e = .invalidSignature := by
  unfold Key.check at refused
  split at refused
  · split at refused
    · cases refused
    · exact Or.inr (Except.error.inj refused).symm
  · split at refused
    · exact Or.inl (Except.error.inj refused).symm
    · split at refused
      · split at refused
        · cases refused
        · exact Or.inr (Except.error.inj refused).symm
      · exact Or.inr (Except.error.inj refused).symm

/-- A verifier comes to an answer by reading the payload of a token whose header names its key's
algorithm and whose signature its key accepts. -/
theorem verify_definite (definite : IsDefinite (verify k host token)) :
    ∃ p, Parts.split? token = some p ∧ p.algorithm? = some k.algorithm ∧ k.check p = .ok () ∧
      verify k host token = p.claims host := by
  unfold verify at definite ⊢
  cases parted : Parts.split? token with
  | none =>
    rw [parted] at definite
    exact absurd rfl definite.1
  | some p =>
    simp only [parted] at definite
    cases stated : p.algorithm? with
    | none =>
      simp only [stated] at definite
      exact absurd rfl definite.1
    | some a =>
      simp only [stated] at definite
      by_cases other : a ≠ k.algorithm
      · rw [if_pos other] at definite
        exact absurd rfl definite.2
      · rw [if_neg other] at definite
        obtain rfl := Decidable.not_not.mp other
        cases checked : k.check p with
        | error e =>
          rw [checked] at definite
          rcases check_error checked with rfl | rfl
          · exact absurd rfl definite.1
          · exact absurd rfl definite.2
        | ok _ => exact ⟨p, rfl, stated, checked, by simp only [stated, checked, if_neg other]⟩

/-- What a key of the material accepts, the material vouches for. -/
theorem vouches_of_check {keys : KeyMaterial} (held : keys.Holds k)
    (algorithm : p.algorithm? = some k.algorithm) (accepted : k.check p = .ok ()) :
    keys.Vouches p := by
  cases held with
  | secret =>
    rw [Key.check] at accepted
    split at accepted
    · rename_i same
      exact .secret algorithm (eq_of_beq same)
    · cases accepted
  | file configured found =>
    rw [Key.check] at accepted
    split at accepted
    · cases accepted
    · rename_i signature decoded
      split at accepted
      · rename_i key readable
        split at accepted
        · rename_i verifies
          refine .publicKey configured ?_ algorithm (Base64.encode_decode? decoded).symm verifies
          rw [publicKey?, found, Option.bind_some, readable]
        · cases accepted
      · cases accepted

/-- What a payload says is never that the token belongs to another. -/
theorem claims_ne_invalidSignature (p : Parts) (host : Int) :
    p.claims host ≠ .error .invalidSignature := by
  unfold Parts.claims
  split
  · nofun
  · split
    · nofun
    · split
      · nofun
      · split
        · nofun
        · nofun

theorem claims_ok {w : WireClaims} (read : p.claims host = .ok w) :
    ∃ members, document? p.payload = some ⟨.object members, true⟩ ∧
      WireClaims.read (.object members) = .ok w := by
  unfold Parts.claims at read
  split at read
  · cases read
  · rename_i d here
    split at read
    · cases read
    · rename_i w' whole
      have same : w' = w := by
        split at read
        · cases read
        · split at read
          · cases read
          · exact Except.ok.inj read
      subst same
      obtain ⟨a, shape, ends⟩ := Read.bind_eq_ok.mp whole
      split at ends
      · rename_i ended
        obtain rfl := Except.ok.inj ends
        obtain ⟨root, last⟩ := d
        obtain rfl : last = true := ended
        cases root with
        | object members => exact ⟨members, here, shape⟩
        | _ => cases shape
      · cases ends

end Token

/-- A chain comes to an answer through one of its verifiers. -/
theorem Verifier.askInOrder_definite {host : Int} {token : String} : ∀ {verifiers : List Verifier},
    IsDefinite (askInOrder host token verifiers).2 →
      ∃ v ∈ verifiers, v.verify host token = (askInOrder host token verifiers).2
  | [], definite => absurd rfl definite.2
  | v :: rest, definite => by
    rw [askInOrder] at definite ⊢
    split
    · rename_i left
      rw [left] at definite
      obtain ⟨u, later, answers⟩ := askInOrder_definite definite
      exact ⟨u, List.mem_cons_of_mem v later, answers⟩
    · exact ⟨v, List.mem_cons_self, rfl⟩

namespace Codec

variable {keys : KeyMaterial} {settings : CodecSettings} {codec : Codec}

theorem holds_of_mem_verifiers (made : make keys settings = .ok codec) {v : Verifier}
    (inside : v ∈ codec.verifiers) : ∃ name k, v = Verifier.ofKey name k ∧ keys.Holds k := by
  rcases mem_verifiers made inside with rfl | ⟨name, pem, bytes, given, found, rfl⟩
  · exact ⟨_, _, rfl, .secret⟩
  · exact ⟨name, .rsa bytes, rfl, .file given found⟩

theorem accept_ok {now : Instant} {w : WireClaims} {c : Claims}
    (accepted : codec.accept now w = .ok c) :
    w.toClaims? codec.settings.rolesClaim = some c ∧ c.issuedAt < c.expiresAt ∧
      now < c.expiresAt := by
  unfold accept at accepted
  split at accepted
  · cases accepted
  · rename_i claims meant
    split at accepted
    · cases accepted
    · rename_i window
      split at accepted
      · cases accepted
      · rename_i future
        obtain rfl := Except.ok.inj accepted
        exact ⟨meant, Instant.not_le.mp window, Instant.not_le.mp future⟩

/-- What a codec reads is what its chain of verifiers answers. -/
theorem decode_definite {host : Int} {now : Instant} {token : String}
    (definite : IsDefinite (codec.decode host now token)) :
    IsDefinite (Verifier.askInOrder host token codec.verifiers).2 ∧
      codec.decode host now token =
        (Verifier.askInOrder host token codec.verifiers).2.bind (codec.accept now) := by
  rw [decode, decodeTraced] at definite ⊢
  split
  · rename_i readable
    rw [if_pos readable] at definite
    refine ⟨?_, rfl⟩
    dsimp only at definite
    cases answer : (Verifier.askInOrder host token codec.verifiers).2 with
    | ok w => exact isDefinite_ok w
    | error e =>
      rw [answer] at definite
      refine ⟨?_, ?_⟩
      · intro same
        obtain rfl := Except.error.inj same
        exact definite.1 rfl
      · intro same
        obtain rfl := Except.error.inj same
        exact definite.2 rfl
  · rename_i unreadable
    rw [if_neg unreadable] at definite
    exact absurd rfl definite.1

theorem hasHeader_text {p : Token.Parts} {algorithm : Token.Algorithm} {signature : List UInt8}
    (signed : p.IsSigned algorithm signature) : hasHeader p.text = true := by
  rw [hasHeader, signed.split?_text, Option.bind_some, signed.algorithm]
  rfl

/-- The chain of the material that vouches for a token has a verifier whose key accepts it. -/
theorem exists_verifier (made : make keys settings = .ok codec) {p : Token.Parts}
    (vouched : keys.Vouches p) (payload : '.' ∉ p.payload) :
    ∃ k signature, p.IsSigned k.algorithm signature ∧ k.check p = .ok () ∧
      ∃ name, Verifier.ofKey name k ∈ codec.verifiers := by
  have chain := isChainOf_make made
  cases vouched with
  | secret algorithm signature =>
    refine ⟨.secret keys.secret, _, ⟨payload, algorithm, signature⟩, ?_, _, chain.secret⟩
    rw [Token.Key.check]
    exact if_pos (beq_iff_eq.mpr signature)
  | publicKey configured readable algorithm written verifies =>
    obtain ⟨name, bytes, found, inside⟩ := chain.file _ configured
    rw [publicKey?, found, Option.bind_some] at readable
    refine ⟨.rsa bytes, _, ⟨payload, algorithm, written⟩, ?_, name, inside⟩
    rw [Token.Key.check, written, Base64.decode?_encode Base64.urlSafe_isFaithful]
    dsimp only
    rw [readable]
    exact if_pos verifies

/-- Of a token that the material vouches for, the payload alone decides, whichever verifiers are
asked before the one that accepts it. -/
theorem decode_of_vouches (made : make keys settings = .ok codec) {p : Token.Parts}
    (vouched : keys.Vouches p) (payload : '.' ∉ p.payload) (host : Int) (now : Instant) :
    codec.decode host now p.text = (p.claims host).bind (codec.accept now) := by
  obtain ⟨k, signature, signed, accepted, name, inside⟩ := exists_verifier made vouched payload
  have answer : (Verifier.askInOrder host p.text codec.verifiers).2 = p.claims host := by
    refine Verifier.askInOrder_eq codec.verifiers ?_
      ⟨_, inside, Token.verify_accepted signed rfl accepted host⟩
      (Token.claims_ne_invalidSignature p host)
    intro v other
    obtain ⟨_, k', rfl⟩ := (isChainOf_make made).keyed v other
    exact Token.verify_cases signed k' host
  rw [decode, decodeTraced, hasHeader_text signed, if_pos rfl]
  dsimp only
  rw [answer]

/-- A token that a codec accepts, or refuses as expired alone, is one that its key material vouches
for; the claims accepted are those its payload states, in their time. Of a token that the material
does vouch for, the payload alone decides. -/
theorem decode_is_trusted (made : make keys settings = .ok codec) (host : Int) (now : Instant)
    (token : String) :
    ((∃ c, codec.decode host now token = .ok c) ∨ codec.decode host now token = .error .expired →
      ∃ p : Token.Parts, token = p.text ∧ '.' ∉ p.payload ∧ '.' ∉ p.signature ∧ keys.Vouches p ∧
        ∀ c, codec.decode host now token = .ok c →
          (∃ members, Token.document? p.payload = some ⟨.object members, true⟩ ∧
            c.StatedBy settings.rolesClaim members) ∧
          c.issuedAt < c.expiresAt ∧ now < c.expiresAt ∧
          c.issuedAt.nanos = 0 ∧ c.expiresAt.nanos = 0) ∧
    ∀ p : Token.Parts, token = p.text → '.' ∉ p.payload → keys.Vouches p →
      codec.decode host now token = (p.claims host).bind (codec.accept now) := by
  refine ⟨?_, fun p text payload vouched => text ▸ decode_of_vouches made vouched payload host now⟩
  intro trusted
  have definite : IsDefinite (codec.decode host now token) := by
    rcases trusted with ⟨c, read⟩ | expired
    · rw [read]
      exact isDefinite_ok c
    · rw [expired]
      exact isDefinite_expired
  -- the answer comes from one verifier, whose key is one of the material's
  obtain ⟨answered, decoded⟩ := decode_definite definite
  obtain ⟨v, inside, answers⟩ := Verifier.askInOrder_definite answered
  obtain ⟨name, k, rfl, held⟩ := holds_of_mem_verifiers made inside
  have verified : Token.verify k host token = _ := answers
  rw [← verified] at answered decoded
  obtain ⟨p, parted, algorithm, accepted, claims⟩ := Token.verify_definite answered
  obtain ⟨text, payload, signature⟩ := Token.eq_text_of_split? parted
  refine ⟨p, text, payload, signature, Token.vouches_of_check held algorithm accepted, ?_⟩
  intro c read
  rw [decoded, claims] at read
  cases stated : p.claims host with
  | error e =>
    rw [stated] at read
    cases read
  | ok w =>
    rw [stated] at read
    obtain ⟨meant, window, future⟩ := accept_ok read
    obtain ⟨members, document, reads⟩ := Token.claims_ok stated
    rw [(make_ok made).2.2] at meant
    have states := WireClaims.statedBy_of_read reads meant
    exact ⟨⟨members, document, states⟩, window, future, states.whole.1, states.whole.2⟩

/-- A service that trusts its own secret alone, and a token made with it. -/
theorem decode_is_trusted_with_secret :
    let keys : KeyMaterial := ⟨List.replicate 32 7, none, none, none⟩
    let settings : CodecSettings := ⟨"login", .standard, .standard⟩
    let codec : Codec := ⟨.secret (List.replicate 32 7), [.secret (List.replicate 32 7)], settings⟩
    let c : Claims := ⟨"alice", "login", [], ⟨0, 0, by decide, by decide, by decide⟩,
      ⟨900, 0, by decide, by decide, by decide⟩, .access, some [.admin, .user], none, none⟩
    let now : Instant := ⟨899, 1, by decide, by decide, by decide⟩
    make keys settings = .ok codec ∧ ∃ token, codec.decode 900 now token = .ok c ∧
      codec.decode 901 now token = .error .expired ∧
      ∃ p : Token.Parts, token = p.text ∧ '.' ∉ p.payload ∧ '.' ∉ p.signature ∧ keys.Vouches p ∧
        ∃ members, Token.document? p.payload = some ⟨.object members, true⟩ ∧
          c.StatedBy .standard members := by
  intro keys settings codec c now
  have made : make keys settings = .ok codec := rfl
  let header := encodePart (Token.header .hs256)
  let payload := encodePart (WireClaims.ofClaims c .standard).toJson
  let p : Token.Parts := ⟨header, payload, Base64.encode Base64.urlSafe
    (Crypto.Hmac.code keys.secret (Utf8.encode (header ++ '.' :: payload)))⟩
  have vouched : keys.Vouches p := .secret (Token.algorithm?_header .hs256 _ _) rfl
  have decoded : ∀ host, codec.decode host now p.text =
      (p.claims host).bind (codec.accept now) := fun host =>
    (decode_is_trusted made host now p.text).2 p rfl (Token.dot_not_mem_encodePart _) vouched
  have claims := Token.claims_payload c .standard header p.signature
  have accepted : codec.decode 900 now p.text = .ok c := by
    rw [decoded, claims]
    rfl
  have late : codec.decode 901 now p.text = .error .expired := by
    rw [decoded, claims]
    rfl
  obtain ⟨p', text, dotless, dotless', vouched', states⟩ :=
    (decode_is_trusted made 900 now p.text).1 (Or.inl ⟨c, accepted⟩)
  exact ⟨made, p.text, accepted, late, p', text, dotless, dotless', vouched',
    (states c accepted).1⟩

end Codec

end SessionTokens
