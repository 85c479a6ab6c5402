import SessionTokens.Proofs.Token.Trust

set_option autoImplicit false

namespace SessionTokens

open Text

/-- The algorithms that some material verifies with, in the order in which its keys are asked. -/
def KeyMaterial.algorithms (keys : KeyMaterial) : List Token.Algorithm :=
  (keys.peerPem.toList ++ keys.publicPem.toList).map (fun _ => .rs256) ++ [.hs256]

theorem KeyMaterial.rs256_mem_algorithms {keys : KeyMaterial} :
    .rs256 ∈ keys.algorithms ↔
      ∃ pem, keys.publicPem = some pem ∨ keys.peerPem = some pem := by
  simp only [algorithms, List.mem_append, List.mem_map, Option.mem_toList, List.mem_singleton,
    reduceCtorEq, or_false, and_true]
  exact exists_congr fun pem => or_comm

theorem Text.Base64.decode?_of_dot {s : List Char} (dotted : '.' ∈ s) :
    decode? urlSafe s = none := by
  cases decoded : decode? urlSafe s with
  | none => rfl
  | some bytes =>
    rw [← encode_decode? decoded] at dotted
    exact absurd dotted (dot_not_mem_encode bytes)

namespace Token

/-- How a token that no key accepts is refused. Its header has to be readable and its signature
part one part; where there are RSA keys, an RSA signature has to be base64url. -/
def dismissal (algorithms : List Algorithm) (header signature : List Char) : TokenError :=
  if '.' ∈ signature then .malformed
  else
    match Parts.algorithm? ⟨header, [], signature⟩ with
    | none => .malformed
    | some a =>
      if a = .rs256 ∧ a ∈ algorithms ∧ Base64.decode? Base64.urlSafe signature = none then
        .malformed
      else .invalidSignature

theorem dismissal_cases (algorithms : List Algorithm) (header signature : List Char) :
    dismissal algorithms header signature = .malformed ∨
      dismissal algorithms header signature = .invalidSignature := by
  unfold dismissal
  split
  · exact Or.inl rfl
  · split
    · exact Or.inl rfl
    · split
      · exact Or.inl rfl
      · exact Or.inr rfl

theorem document?_of_dot {part : List Char} (dotted : '.' ∈ part) : document? part = none := by
  rw [document?, Base64.decode?_of_dot dotted, Option.map_none]

/-- A signature part with a dot in it leaves a dot in what is read as the header. -/
theorem hasHeader_of_dot {p : Parts} (dotted : '.' ∈ p.signature) :
    Codec.hasHeader p.text = false := by
  rw [Codec.hasHeader]
  cases parted : Parts.split? p.text with
  | none => rfl
  | some q =>
    obtain ⟨text, payload, signature⟩ := eq_text_of_split? parted
    have dots : p.text.toList.count '.' = q.header.count '.' + 2 := by
      rw [text, Parts.text, String.toList_ofList, List.count_append, List.count_append,
        List.count_cons_self, List.count_cons_self, List.count_eq_zero_of_not_mem payload,
        List.count_eq_zero_of_not_mem signature]
    have more : 2 < p.text.toList.count '.' := by
      have last := List.count_pos_iff.mpr dotted
      rw [Parts.text, String.toList_ofList, List.count_append, List.count_append,
        List.count_cons_self, List.count_cons_self]
      omega
    have header : '.' ∈ q.header := List.count_pos_iff.mp (by omega)
    rw [Option.bind_some, Parts.algorithm?, document?_of_dot header]
    rfl

variable {keys : KeyMaterial} {p : Parts} {k : Key} {host : Int}

theorem check_error_eq {e : TokenError} (refused : k.check p = .error e) :
    e = if k.algorithm = .rs256 ∧ Base64.decode? Base64.urlSafe p.signature = none then .malformed
      else .invalidSignature := by
  cases k with
  | secret key =>
    rw [Key.check] at refused
    have other : ¬ (Key.secret key).algorithm = .rs256 := Algorithm.noConfusion
    rw [if_neg fun unreadable => other unreadable.1]
    split at refused
    · cases refused
    · exact (Except.error.inj refused).symm
  | rsa bytes =>
    rw [Key.check] at refused
    split at refused
    · rename_i unreadable
      rw [if_pos ⟨rfl, unreadable⟩]
      exact (Except.error.inj refused).symm
    · rename_i signature readable
      rw [if_neg fun unreadable => Option.some_ne_none _ (readable.symm.trans unreadable.2)]
      split at refused
      · split at refused
        · cases refused
        · exact (Except.error.inj refused).symm
      · exact (Except.error.inj refused).symm

/-- A verifier refuses a token that is not signed before it comes to the payload. -/
theorem verify_unsigned (held : keys.Holds k) (parted : Parts.split? p.text = some p)
    (unsigned : ¬ keys.Vouches p) {a : Algorithm} (stated : p.algorithm? = some a) :
    verify k host p.text = .error
      (if a = .rs256 ∧ a = k.algorithm ∧ Base64.decode? Base64.urlSafe p.signature = none then
        .malformed
      else .invalidSignature) := by
  rw [verify, parted]
  simp only [stated]
  by_cases own : a = k.algorithm
  · rw [if_neg (not_not_intro own)]
    obtain rfl := own
    cases checked : k.check p with
    | ok _ => exact absurd (vouches_of_check held stated checked) unsigned
    | error e =>
      dsimp only
      rw [check_error_eq checked]
      simp only [true_and]
  · rw [if_pos own, if_neg fun unreadable => own unreadable.2.1]

end Token

/-- When every verifier leaves a token to others, nobody's is what it stays. -/
theorem Verifier.askInOrder_left {host : Int} {token : String} {verifiers : List Verifier}
    (each : ∀ v ∈ verifiers, v.verify host token = .error .invalidSignature) :
    (askInOrder host token verifiers).2 = .error .invalidSignature := by
  induction verifiers with
  | nil => rfl
  | cons v rest ih =>
    rw [List.forall_mem_cons] at each
    rw [askInOrder, each.1]
    exact ih each.2

namespace Codec

variable {keys : KeyMaterial} {settings : CodecSettings} {codec : Codec}

/-- One verifier for the algorithm that a token states is enough to find its signature unreadable,
and none of the others says anything else. -/
theorem askInOrder_unsigned (made : make keys settings = .ok codec) {p : Token.Parts}
    (parted : Token.Parts.split? p.text = some p) (unsigned : ¬ keys.Vouches p)
    {a : Token.Algorithm} (stated : p.algorithm? = some a) (host : Int) :
    (Verifier.askInOrder host p.text codec.verifiers).2 = .error
      (if a = .rs256 ∧ a ∈ keys.algorithms ∧ Base64.decode? Base64.urlSafe p.signature = none then
        .malformed
      else .invalidSignature) := by
  have answers : ∀ v ∈ codec.verifiers, ∃ name k, v = Verifier.ofKey name k ∧ keys.Holds k ∧
      v.verify host p.text = .error
        (if a = .rs256 ∧ a = k.algorithm ∧ Base64.decode? Base64.urlSafe p.signature = none then
          .malformed
        else .invalidSignature) := by
    intro v inside
    obtain ⟨name, k, rfl, held⟩ := holds_of_mem_verifiers made inside
    exact ⟨name, k, rfl, held, Token.verify_unsigned held parted unsigned stated⟩
  split
  · rename_i unreadable
    obtain ⟨rfl, listed, unread⟩ := unreadable
    obtain ⟨pem, configured⟩ := KeyMaterial.rs256_mem_algorithms.mp listed
    obtain ⟨name, bytes, found, inside⟩ := (isChainOf_make made).file pem configured
    refine Verifier.askInOrder_eq codec.verifiers ?_ ⟨_, inside, ?_⟩ nofun
    · intro v other
      obtain ⟨_, k, -, -, answer⟩ := answers v other
      rw [answer]
      split
      · exact Or.inr rfl
      · exact Or.inl rfl
    · refine (Token.verify_unsigned (.file configured found) parted unsigned stated).trans ?_
      exact congrArg Except.error (if_pos ⟨rfl, rfl, unread⟩)
  · rename_i readable
    refine Verifier.askInOrder_left fun v inside => ?_
    obtain ⟨_, k, rfl, held, answer⟩ := answers v inside
    rw [answer, if_neg]
    rintro ⟨rfl, own, unread⟩
    refine readable ⟨rfl, ?_, unread⟩
    cases held with
    | secret => cases own
    | file configured found => exact KeyMaterial.rs256_mem_algorithms.mpr ⟨_, configured⟩

theorem decode_of_not_vouches (made : make keys settings = .ok codec) {p : Token.Parts}
    (payload : '.' ∉ p.payload) (unsigned : ¬ keys.Vouches p) (host : Int) (now : Instant) :
    codec.decode host now p.text =
      .error (Token.dismissal keys.algorithms p.header p.signature) := by
  rw [decode, decodeTraced, Token.dismissal]
  by_cases dotted : '.' ∈ p.signature
  · rw [Token.hasHeader_of_dot dotted, if_pos dotted]
    rfl
  · rw [if_neg dotted]
    have parted := Token.split?_text p payload dotted
    have same : Token.Parts.algorithm? ⟨p.header, [], p.signature⟩ = p.algorithm? := rfl
    rw [same, hasHeader, parted, Option.bind_some]
    cases stated : p.algorithm? with
    | none => rfl
    | some a =>
      rw [if_pos Option.isSome_some]
      dsimp only
      rw [askInOrder_unsigned made parted unsigned stated]
      rfl

/-- Two tokens that differ in their payload, neither of them signed by a key of the material, are
refused alike, at whatever time each of them comes: how is a function of the header, the signature
part and the algorithms of the keys. -/
theorem unsigned_payload_is_unread (made : make keys settings = .ok codec)
    {header signature first second : List Char} (dotless : '.' ∉ first) (dotless' : '.' ∉ second)
    (unsigned : ¬ keys.Vouches ⟨header, first, signature⟩)
    (unsigned' : ¬ keys.Vouches ⟨header, second, signature⟩)
    (host host' : Int) (now now' : Instant) :
    ∃ e, (e = .malformed ∨ e = .invalidSignature) ∧
      e = Token.dismissal keys.algorithms header signature ∧
      codec.decode host now (Token.Parts.text ⟨header, first, signature⟩) = .error e ∧
      codec.decode host' now' (Token.Parts.text ⟨header, second, signature⟩) = .error e :=
  ⟨_, Token.dismissal_cases keys.algorithms header signature, rfl,
    decode_of_not_vouches made dotless unsigned host now,
    decode_of_not_vouches made dotless' unsigned' host' now'⟩

/-- A payload that is no document and the claims of an administrator, behind one header and the
signature of neither. -/
theorem unsigned_payload_is_unread_with_secret :
    let keys : KeyMaterial := ⟨List.replicate 32 7, none, none, none⟩
    let settings : CodecSettings := ⟨"login", .standard, .standard⟩
    let codec : Codec := ⟨.secret (List.replicate 32 7), [.secret (List.replicate 32 7)], settings⟩
    let c : Claims := ⟨"alice", "login", [], ⟨0, 0, by decide, by decide, by decide⟩,
      ⟨900, 0, by decide, by decide, by decide⟩, .access, some [.admin], none, none⟩
    let header := encodePart (Token.header .hs256)
    let payload := encodePart (WireClaims.ofClaims c .standard).toJson
    let now : Instant := ⟨899, 1, by decide, by decide, by decide⟩
    make keys settings = .ok codec ∧ '.' ∉ ['?'] ∧ '.' ∉ payload ∧
      ¬ keys.Vouches ⟨header, ['?'], []⟩ ∧ ¬ keys.Vouches ⟨header, payload, []⟩ ∧
      ∃ e, (e = .malformed ∨ e = .invalidSignature) ∧
        e = Token.dismissal keys.algorithms header [] ∧
        codec.decode 0 now (Token.Parts.text ⟨header, ['?'], []⟩) = .error e ∧
        codec.decode 901 now (Token.Parts.text ⟨header, payload, []⟩) = .error e := by
  intro keys settings codec c header payload now
  have made : make keys settings = .ok codec := rfl
  have unsigned : ∀ part, ¬ keys.Vouches ⟨header, part, []⟩ := by
    intro part vouched
    cases vouched with
    | secret _ signature =>
      have empty := @Base64.encode_injective _ Base64.urlSafe_isFaithful [] _ signature
      have size := congrArg List.length empty
      rw [Crypto.Hmac.length_code] at size
      cases size
    | publicKey configured => rcases configured with absent | absent <;> cases absent
  have dotless : '.' ∉ payload := Token.dot_not_mem_encodePart _
  exact ⟨made, by decide, dotless, unsigned _, unsigned _,
    unsigned_payload_is_unread made (by decide) dotless (unsigned _) (unsigned _) 0 901 now now⟩

end Codec

end SessionTokens
