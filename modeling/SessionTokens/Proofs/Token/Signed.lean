import SessionTokens.Proofs.Claims.Wire
import SessionTokens.Proofs.Text.Base64
import SessionTokens.Proofs.Text.Utf8
import SessionTokens.Token.Codec

set_option autoImplicit false

namespace SessionTokens

open Text Json

theorem splitLast?_of_not_mem {separator : Char} {s : List Char} (absent : separator ∉ s) :
    splitLast? separator s = none := by
  induction s with
  | nil => rfl
  | cons c s ih =>
    rw [List.mem_cons, not_or] at absent
    rw [splitLast?, ih absent.2]
    exact if_neg fun same => absent.1 (eq_of_beq same).symm

theorem splitLast?_append {separator : Char} {after : List Char} (before : List Char)
    (absent : separator ∉ after) :
    splitLast? separator (before ++ separator :: after) = some (before, after) := by
  induction before with
  | nil =>
    rw [List.nil_append, splitLast?, splitLast?_of_not_mem absent]
    exact if_pos (beq_self_eq_true separator)
  | cons c before ih => rw [List.cons_append, splitLast?, ih]

namespace Token

/-- The text of a token of three parts. -/
def Parts.text (p : Parts) : String :=
  String.ofList ((p.header ++ '.' :: p.payload) ++ '.' :: p.signature)

theorem split?_text (p : Parts) (payload : '.' ∉ p.payload) (signature : '.' ∉ p.signature) :
    Parts.split? p.text = some p := by
  rw [Parts.split?, Parts.text, String.toList_ofList, splitLast?_append _ signature]
  dsimp only
  rw [splitLast?_append _ payload]
  rfl

theorem document?_encodePart {v : Json} (plain : v.IsPlain) :
    document? (Codec.encodePart v) = some ⟨tree v, true⟩ := by
  rw [document?, Codec.encodePart, Base64.decode?_encode Base64.urlSafe_isFaithful, Option.map_some,
    Utf8.units_encode, scan_write plain]

theorem dot_not_mem_encodePart (v : Json) : '.' ∉ Codec.encodePart v :=
  Base64.dot_not_mem_encode _

theorem returns_header (a : Algorithm) :
    Values.Return headerFields
      (some "JWT", a, none, none, none, none, none, none, none, none, ()) := by
  refine ⟨returns_omittableText _ _, ?_, rfl, rfl, rfl, rfl, rfl, rfl, rfl, rfl, trivial⟩
  cases a <;> exact ⟨.string _, rfl⟩

theorem isPlain_header (a : Algorithm) : (header a).IsPlain :=
  .object (isPlain_of_mem_members headerFields _ (returns_header a))

theorem readHeader_header (a : Algorithm) : readHeader (tree (header a)) = .ok a := by
  rw [readHeader, header, readRecord_members _ (by decide) (returns_header a)]
  rfl

theorem algorithm?_header (a : Algorithm) (payload signature : List Char) :
    Parts.algorithm? ⟨Codec.encodePart (header a), payload, signature⟩ = some a := by
  rw [Parts.algorithm?, document?_encodePart (isPlain_header a), Option.bind_some, Document.read,
    readHeader_header]
  rfl

theorem membersNamed_of_not_mem (name : String) (ms : List (String × Json))
    (absent : ∀ m ∈ ms, m.1 ≠ name) : membersNamed name (treeMembers ms) = [] := by
  induction ms with
  | nil => rfl
  | cons m ms ih =>
    rw [List.forall_mem_cons] at absent
    rw [treeMembers, membersNamed, beq_eq_false_iff_ne.mpr absent.1, if_neg Bool.false_ne_true,
      ih absent.2]

theorem hasReadableStart_ofClaims (c : Claims) (rolesClaim : RolesClaim) :
    hasReadableStart (tree (WireClaims.ofClaims c rolesClaim).toJson) = true := by
  have absent : ∀ m ∈ (WireClaims.ofClaims c rolesClaim).values.members WireClaims.fields ++
      (WireClaims.ofClaims c rolesClaim).extra, m.1 ≠ "nbf" := by
    intro m member same
    rcases List.mem_append.mp member with field | outside
    · have named := name_of_mem_members _ _ m field
      rw [same] at named
      exact absurd named (by decide)
    · rcases WireClaims.extra_ofClaims c rolesClaim with none | ⟨names, roles⟩
      · rw [none] at outside
        cases outside
      · rw [roles] at outside
        rw [List.mem_singleton.mp outside] at same
        apply rolesClaim.not_registered
        rw [show rolesClaim.name = "nbf" from same]
        decide
  rw [WireClaims.toJson, tree, hasReadableStart, membersNamed_of_not_mem "nbf" _ absent]

/-- The expiry as the host's clock sees it. -/
theorem claims_payload (c : Claims) (rolesClaim : RolesClaim) (header signature : List Char)
    (host : Int) :
    Parts.claims
        ⟨header, Codec.encodePart (WireClaims.ofClaims c rolesClaim).toJson, signature⟩ host =
      if c.expiresAt.seconds < 0 then .error .malformed
      else if c.expiresAt.seconds < host then .error .expired
      else .ok (WireClaims.ofClaims c rolesClaim) := by
  rw [Parts.claims, document?_encodePart (WireClaims.isPlain_ofClaims c rolesClaim)]
  dsimp only [Document.read]
  rw [WireClaims.read_ofClaims]
  simp only [bind, Except.bind, if_true, hasReadableStart_ofClaims, Bool.not_true, Bool.false_or,
    decide_eq_true_eq]
  rfl

/-- A token whose three parts are written with the characters of base64url. -/
structure Parts.IsWritten (p : Parts) (a : Algorithm) (signature : List UInt8) : Prop where
  header : p.header = Codec.encodePart (Token.header a)
  payload : '.' ∉ p.payload
  signature : p.signature = Base64.encode Base64.urlSafe signature

/-- A token that states an algorithm and carries a signature. -/
structure Parts.IsSigned (p : Parts) (a : Algorithm) (signature : List UInt8) : Prop where
  payload : '.' ∉ p.payload
  algorithm : p.algorithm? = some a
  signature : p.signature = Base64.encode Base64.urlSafe signature

variable {p : Parts} {a : Algorithm} {signature : List UInt8}

theorem Parts.IsWritten.isSigned (written : p.IsWritten a signature) :
    p.IsSigned a signature := by
  refine ⟨written.payload, ?_, written.signature⟩
  obtain ⟨front, payload, last⟩ := p
  obtain rfl : front = _ := written.header
  exact algorithm?_header a payload last

theorem Parts.IsSigned.split?_text (signed : p.IsSigned a signature) :
    Parts.split? p.text = some p := by
  refine Token.split?_text p signed.payload ?_
  rw [signed.signature]
  exact Base64.dot_not_mem_encode signature

theorem verify_text (signed : p.IsSigned a signature) (k : Key) (host : Int) :
    verify k host p.text =
      if a ≠ k.algorithm then .error .invalidSignature
      else
        match k.check p with
        | .error e => .error e
        | .ok () => p.claims host := by
  rw [verify, signed.split?_text]
  cases checked : k.check p with
  | error e => simp only [signed.algorithm, checked]
  | ok _ => simp only [signed.algorithm, checked]

/-- A signature that a key does not accept says nothing about the token. -/
theorem check_cases (signed : p.IsSigned a signature) (k : Key) :
    k.check p = .ok () ∨ k.check p = .error .invalidSignature := by
  cases k with
  | secret key =>
    rw [Key.check]
    split
    · exact Or.inl rfl
    · exact Or.inr rfl
  | rsa bytes =>
    rw [Key.check, signed.signature, Base64.decode?_encode Base64.urlSafe_isFaithful]
    dsimp only
    split
    · split
      · exact Or.inl rfl
      · exact Or.inr rfl
    · exact Or.inr rfl

theorem verify_cases (signed : p.IsSigned a signature) (k : Key) (host : Int) :
    verify k host p.text = .error .invalidSignature ∨ verify k host p.text = p.claims host := by
  rw [verify_text signed]
  split
  · exact Or.inl rfl
  · rcases check_cases signed k with accepted | refused
    · rw [accepted]
      exact Or.inr rfl
    · rw [refused]
      exact Or.inl rfl

theorem verify_accepted (signed : p.IsSigned a signature) {k : Key} (own : k.algorithm = a)
    (accepted : k.check p = .ok ()) (host : Int) : verify k host p.text = p.claims host := by
  rw [verify_text signed, if_neg (not_not_intro own.symm), accepted]

end Token

/-- When all verifiers that do not leave the token to others give one answer, the order in which
they are asked does not matter. -/
theorem Verifier.askInOrder_eq {host : Int} {token : String}
    {answer : Except TokenError WireClaims} (verifiers : List Verifier)
    (each : ∀ v ∈ verifiers,
      v.verify host token = .error .invalidSignature ∨ v.verify host token = answer)
    (one : ∃ v ∈ verifiers, v.verify host token = answer)
    (definite : answer ≠ .error .invalidSignature) :
    (askInOrder host token verifiers).2 = answer := by
  induction verifiers with
  | nil =>
    obtain ⟨v, inside, -⟩ := one
    cases inside
  | cons v rest ih =>
    rw [List.forall_mem_cons] at each
    rcases each.1 with left | here
    · have later : ∃ v ∈ rest, v.verify host token = answer := by
        obtain ⟨u, inside, answers⟩ := one
        rcases List.mem_cons.mp inside with rfl | later
        · exact absurd (answers.symm.trans left) definite
        · exact ⟨u, later, answers⟩
      rw [askInOrder, left]
      exact ih each.2 later
    · rw [askInOrder, here]
      split
      · exact absurd rfl definite
      · rfl

end SessionTokens
