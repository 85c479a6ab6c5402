import SessionTokens.Proofs.Claims.Shape
import SessionTokens.Proofs.Token.Preference

set_option autoImplicit false

namespace SessionTokens

open Text Json WireClaims

namespace Token

variable {k : Key} {p q : Parts} {ms ms' : List Member} {host : Int}

/-- A token that a key accepts carries a signature. -/
theorem exists_isSigned {token : String} (parted : Parts.split? token = some p)
    (algorithm : p.algorithm? = some k.algorithm) (accepted : k.check p = .ok ()) :
    token = p.text ∧ ∃ signature, p.IsSigned k.algorithm signature := by
  obtain ⟨text, payload, -⟩ := eq_text_of_split? parted
  refine ⟨text, ?_⟩
  cases k with
  | secret key =>
    rw [Key.check] at accepted
    split at accepted
    · rename_i same
      exact ⟨_, payload, algorithm, eq_of_beq same⟩
    · cases accepted
  | rsa bytes =>
    rw [Key.check] at accepted
    split at accepted
    · cases accepted
    · rename_i signature readable
      exact ⟨signature, payload, algorithm, (Base64.encode_decode? readable).symm⟩

theorem membersNamed_ofList {name : String} (absent : some name ∉ ms.map Prod.fst) :
    membersNamed name (.ofList ms) = [] := by
  induction ms with
  | nil => rfl
  | cons m ms ih =>
    rw [List.map_cons, List.mem_cons, not_or] at absent
    obtain ⟨_ | other, value⟩ := m
    · exact ih absent.2
    · have different : other ≠ name := fun same => absent.1 (congrArg some same.symm)
      rw [Members.ofList, membersNamed_cons_other different, ih absent.2]

/-- What a payload without a start of validity comes to. -/
theorem claims_of_object (payload : document? p.payload = some ⟨.object (.ofList ms), true⟩)
    (ordinary : IsOrdinary ms) : p.claims host =
      match read (.object (.ofList ms)) with
      | .error _ => .error .malformed
      | .ok w =>
        if w.expiresAt < 0 then .error .malformed
        else if w.expiresAt < host then .error .expired
        else .ok w := by
  have start : hasReadableStart (.object (.ofList ms)) = true := by
    rw [hasReadableStart, membersNamed_ofList ordinary.2]
  rw [Parts.claims, payload]
  dsimp only [Document.read]
  cases read (.object (.ofList ms)) with
  | error e => rfl
  | ok w =>
    simp only [bind, Except.bind, if_true, start, Bool.not_true, Bool.false_or, decide_eq_true_eq]

end Token

namespace Codec

open Token

variable {c : Codec} {p q : Parts} {ms ms' : List Member} {host : Int}

/-- Nothing but what is taken of a payload counts in what it means. -/
theorem bind_accept_congr (now : Instant)
    (payload : document? p.payload = some ⟨.object (.ofList ms), true⟩)
    (payload' : document? q.payload = some ⟨.object (.ofList ms'), true⟩)
    (ordinary : IsOrdinary ms) (ordinary' : IsOrdinary ms')
    (same : glimpse c.settings.rolesClaim.name (read (.object (.ofList ms))) =
      glimpse c.settings.rolesClaim.name (read (.object (.ofList ms')))) :
    (p.claims host).bind (c.accept now) = (q.claims host).bind (c.accept now) := by
  rw [claims_of_object payload ordinary, claims_of_object payload' ordinary']
  cases here : read (.object (.ofList ms)) with
  | error e =>
    cases there : read (.object (.ofList ms')) with
    | error e' => rfl
    | ok w' =>
      rw [here, there] at same
      cases same
  | ok w =>
    cases there : read (.object (.ofList ms')) with
    | error e' =>
      rw [here, there] at same
      cases same
    | ok w' =>
      rw [here, there] at same
      obtain ⟨values, role⟩ := Prod.mk.inj (Option.some.inj same)
      have expires : w.expiresAt = w'.expiresAt :=
        congrArg (fun v : Values fields => v.2.2.2.2.1) values
      have accepted : c.accept now w = c.accept now w' := by
        rw [accept, accept, toClaims?_congr values role]
      dsimp only
      rw [expires]
      split
      · rfl
      · split
        · rfl
        · exact accepted

end Codec

/-- Two tokens with one header that one key has signed. The key is one of the verifiers', or each of
theirs takes both tokens for its own or neither. -/
structure SignedAlike (verifiers : List Verifier) (p q : Token.Parts) : Prop where
  header : p.header = q.header
  key : ∃ k : Token.Key, p.algorithm? = some k.algorithm ∧ k.check p = .ok () ∧ k.check q = .ok () ∧
    ((∃ name, Verifier.ofKey name k ∈ verifiers) ∨
      ∀ name k', Verifier.ofKey name k' ∈ verifiers → (k'.check p = .ok () ↔ k'.check q = .ok ()))

namespace Verifier

open Token

variable {verifiers : List Verifier} {p q : Parts} {k : Key} {a : Algorithm} {name : String}
  {signature : List UInt8}

/-- The payload of a token that one of the keys accepts decides, whoever is asked before. -/
theorem AreKeyed.askInOrder_accepted (keyed : AreKeyed verifiers)
    (signed : p.IsSigned a signature) (inside : ofKey name k ∈ verifiers) (own : k.algorithm = a)
    (accepted : k.check p = .ok ()) (host : Int) :
    (askInOrder host p.text verifiers).2 = p.claims host := by
  have answer : (ofKey name k).verify host p.text = p.claims host :=
    verify_accepted signed own accepted host
  rw [keyed.askInOrder_eq_verify inside, answer]
  rw [answer]
  exact claims_ne_invalidSignature p host

theorem AreKeyed.askInOrder_refused (keyed : AreKeyed verifiers) (signed : p.IsSigned a signature)
    (refused : ∀ name k, ofKey name k ∈ verifiers → k.algorithm = a → k.check p ≠ .ok ())
    (host : Int) : (askInOrder host p.text verifiers).2 = .error .invalidSignature := by
  refine askInOrder_left fun v inside => ?_
  obtain ⟨name, k, rfl⟩ := keyed v inside
  change Token.verify k host p.text = _
  rw [verify_text signed]
  split
  · rfl
  · rename_i own
    rw [(check_cases signed k).resolve_left (refused name k inside (Decidable.not_not.mp own).symm)]

end Verifier

namespace Codec

open Token

section

variable {c : Codec} {p q : Parts} {token token' : String}

/-- Tokens that are signed alike are nobody's, or their payloads decide about both. -/
theorem decode_signedAlike (keyed : Verifier.AreKeyed c.verifiers)
    (parted : Parts.split? token = some p) (parted' : Parts.split? token' = some q)
    (alike : SignedAlike c.verifiers p q) (host : Int) (now : Instant) :
    (c.decode host now token = .error .invalidSignature ∧
      c.decode host now token' = .error .invalidSignature) ∨
    (c.decode host now token = (p.claims host).bind (c.accept now) ∧
      c.decode host now token' = (q.claims host).bind (c.accept now)) := by
  obtain ⟨header, k, algorithm, accepted, accepted', trusted⟩ := alike
  have algorithm' : q.algorithm? = some k.algorithm := by
    rw [← algorithm, Parts.algorithm?, Parts.algorithm?, header]
  obtain ⟨rfl, signature, signed⟩ := exists_isSigned parted algorithm accepted
  obtain ⟨rfl, signature', signed'⟩ := exists_isSigned parted' algorithm' accepted'
  rw [decode_eq, decode_eq, hasHeader_text signed, hasHeader_text signed', if_pos rfl, if_pos rfl]
  by_cases one : ∃ name k', Verifier.ofKey name k' ∈ c.verifiers ∧ k'.algorithm = k.algorithm ∧
      k'.check p = .ok () ∧ k'.check q = .ok ()
  · obtain ⟨name, k', inside, own, accepts, accepts'⟩ := one
    rw [keyed.askInOrder_accepted signed inside own accepts,
      keyed.askInOrder_accepted signed' inside own accepts']
    exact Or.inr ⟨rfl, rfl⟩
  · rcases trusted with ⟨name, inside⟩ | agree
    · exact absurd ⟨name, k, inside, rfl, accepted, accepted'⟩ one
    · have refused : ∀ name k', Verifier.ofKey name k' ∈ c.verifiers →
          k'.algorithm = k.algorithm → k'.check p ≠ .ok () := fun name k' inside own accepts =>
        one ⟨name, k', inside, own, accepts, (agree name k' inside).mp accepts⟩
      have refused' : ∀ name k', Verifier.ofKey name k' ∈ c.verifiers →
          k'.algorithm = k.algorithm → k'.check q ≠ .ok () := fun name k' inside own accepts =>
        refused name k' inside own ((agree name k' inside).mpr accepts)
      rw [keyed.askInOrder_refused signed refused, keyed.askInOrder_refused signed' refused']
      exact Or.inl ⟨rfl, rfl⟩

/-- A token with an encoded payload that is signed with a secret. -/
def signedBy (key : List UInt8) (payload : List Char) : Parts :=
  let header := encodePart (Token.header .hs256)
  ⟨header, payload, secretSignature key (Utf8.encode (header ++ '.' :: payload))⟩

variable {key : List UInt8} {payload : List Char}

theorem check_signedBy (key : List UInt8) (payload : List Char) :
    (Key.secret key).check (signedBy key payload) = .ok () :=
  if_pos (beq_self_eq_true _)

theorem isSigned_signedBy (key : List UInt8) (dotless : '.' ∉ payload) :
    (signedBy key payload).IsSigned .hs256 (Crypto.Hmac.code key (signedBy key payload).signed) :=
  ⟨dotless, algorithm?_header .hs256 _ _, rfl⟩

theorem signedAlike_signedBy (inside : Verifier.secret key ∈ c.verifiers)
    (payload payload' : List Char) :
    SignedAlike c.verifiers (signedBy key payload) (signedBy key payload') :=
  ⟨rfl, .secret key, algorithm?_header .hs256 _ _, check_signedBy key payload,
    check_signedBy key payload', Or.inl ⟨_, inside⟩⟩

theorem decode_signedBy (keyed : Verifier.AreKeyed c.verifiers)
    (inside : Verifier.secret key ∈ c.verifiers) (dotless : '.' ∉ payload) (host : Int)
    (now : Instant) : c.decode host now (signedBy key payload).text =
      ((signedBy key payload).claims host).bind (c.accept now) := by
  have signed := isSigned_signedBy key dotless
  rw [decode_eq, hasHeader_text signed, if_pos rfl,
    keyed.askInOrder_accepted signed inside rfl (check_signedBy key payload)]

/-- The shape of a payload makes no difference: tokens that one key has signed are answered alike
when their payloads differ in the order of the members, in how an audience of one is written, in
`null` for a token's identifier or the mark of a service, and in members that no one looks at, as
often as one likes and there and back. -/
theorem decode_of_respelt (keyed : Verifier.AreKeyed c.verifiers)
    (parted : Parts.split? token = some p) (parted' : Parts.split? token' = some q)
    (alike : SignedAlike c.verifiers p q) {ms ms' : List Member}
    (payload : document? p.payload = some ⟨.object (.ofList ms), true⟩)
    (payload' : document? q.payload = some ⟨.object (.ofList ms'), true⟩)
    (ordinary : IsOrdinary ms)
    (respelt : Relation.EqvGen (Respells c.settings.rolesClaim.name) ms ms') (host : Int)
    (now : Instant) : c.decode host now token = c.decode host now token' := by
  obtain ⟨both, same⟩ := glimpse_eq_of_respelt respelt
  rcases decode_signedAlike keyed parted parted' alike host now with ⟨left, left'⟩ | ⟨own, own'⟩
  · rw [left, left']
  · rw [own, own']
    exact bind_accept_congr now payload payload' ordinary (both.mp ordinary) (same ordinary)

end

namespace Issuers

/-- A codec with one secret. -/
def codec : Codec :=
  ⟨.secret (List.replicate 32 7), [.secret (List.replicate 32 7)], ⟨"login", .standard, .standard⟩⟩

theorem keyed : Verifier.AreKeyed codec.verifiers := by
  intro v inside
  obtain rfl := List.mem_singleton.mp inside
  exact ⟨_, _, rfl⟩

theorem holds_secret : Verifier.secret (List.replicate 32 7) ∈ codec.verifiers :=
  List.mem_singleton.mpr rfl

/-- A token that the codec's secret has signed. -/
def token (payload : List Char) : Parts :=
  signedBy (List.replicate 32 7) payload

theorem decode_token (host : Int) (now : Instant) {payload : List Char} (dotless : '.' ∉ payload) :
    codec.decode host now (token payload).text =
      ((token payload).claims host).bind (codec.accept now) :=
  decode_signedBy keyed holds_secret dotless host now

/-- The members of the payload, with the audience in either form. -/
def members (audience : Tree) : List Member :=
  [(some "sub", .string (some "alice")), (some "iss", .string (some "login"))] ++
    (some "aud", audience) ::
      [(some "iat", tree (ofInt 0)), (some "exp", tree (ofInt 900)),
        (some "typ", .string (some "access")), (some "roles", tree (texts ["ADMIN"]))]

/-- What another issuer adds. -/
def added : List Member :=
  [(some "jti", .null), (some "scope", tree (texts ["openid"]))]

def reshaped : Json :=
  .object [("scope", texts ["openid"]), ("jti", .null), ("roles", texts ["ADMIN"]),
    ("typ", .string "access"), ("exp", ofInt 900), ("iat", ofInt 0), ("aud", .string "desk"),
    ("iss", .string "login"), ("sub", .string "alice")]

theorem isPlain_reshaped : reshaped.IsPlain := by
  refine .object ?_
  simp only [List.forall_mem_cons]
  exact ⟨isPlain_texts _, .null, isPlain_texts _, .string _, .integer _, .integer _, .string _,
    .string _, .string _, nofun⟩

theorem payload_reshaped : document? (encodePart reshaped) =
    some ⟨.object (.ofList (members (.string (some "desk")) ++ added).reverse), true⟩ :=
  document?_encodePart isPlain_reshaped

theorem respelt : Relation.EqvGen (Respells "roles") (members (tree (texts ["desk"])))
    (members (.string (some "desk")) ++ added).reverse := by
  have one : Respells "roles" (members (.string (some "desk"))) (members (tree (texts ["desk"]))) :=
    .audience _ _ _
  have null : Respells "roles" (members (.string (some "desk")))
      (members (.string (some "desk")) ++ [(some "jti", .null)]) := .null (by decide) (by decide)
  have more : Respells "roles" (members (.string (some "desk")) ++ [(some "jti", .null)])
      (members (.string (some "desk")) ++ added) :=
    .more (by decide) (by decide) (by decide) ⟨rfl, trivial⟩ (by decide)
  have turned : Respells "roles" (members (.string (some "desk")) ++ added)
      (members (.string (some "desk")) ++ added).reverse := .order (List.reverse_perm _).symm
  exact (((Relation.EqvGen.rel _ _ one).symm.trans _ _ _ (.rel _ _ null)).trans _ _ _
    (.rel _ _ more)).trans _ _ _ (.rel _ _ turned)

/-- A token as this service writes it, and the same from an issuer that puts the members the other
way round, has one audience as a text and `null` for an identifier, and states scopes. -/
theorem reshaped_token_is_read :
    let c : Claims := ⟨"alice", "login", ["desk"], ⟨0, 0, by decide, by decide, by decide⟩,
      ⟨900, 0, by decide, by decide, by decide⟩, .access, some [.admin], none, none⟩
    let now : Instant := ⟨899, 1, by decide, by decide, by decide⟩
    codec.decode 900 now (token (encodePart (ofClaims c .standard).toJson)).text = .ok c ∧
      codec.decode 900 now (token (encodePart reshaped)).text = .ok c := by
  intro c now
  have first : codec.decode 900 now (token (encodePart (ofClaims c .standard).toJson)).text =
      .ok c := by
    rw [decode_token 900 now (dot_not_mem_encodePart _), token, signedBy, claims_payload]
    rfl
  have parted (v : Json) : Parts.split? (token (encodePart v)).text = some (token (encodePart v)) :=
    (isSigned_signedBy _ (dot_not_mem_encodePart v)).split?_text
  have payload : document? (encodePart (ofClaims c .standard).toJson) =
      some ⟨.object (.ofList (members (tree (texts ["desk"])))), true⟩ :=
    document?_encodePart (isPlain_ofClaims c .standard)
  have ordinary : IsOrdinary (members (tree (texts ["desk"]))) :=
    ⟨areDistinct_of_nodup (by decide), by decide⟩
  have same := decode_of_respelt keyed (parted (ofClaims c .standard).toJson) (parted reshaped)
    (signedAlike_signedBy holds_secret _ _) payload payload_reshaped ordinary respelt 900 now
  exact ⟨first, same ▸ first⟩

/-- A payload without an audience or roles. -/
def bare : String :=
  "\x7b\"sub\":\"alice\",\"iss\":\"login\",\"iat\":0,\"exp\":900,\"typ\":\"access\"\x7d"

/-- The same with half of a surrogate pair in a member that no one looks at. -/
def noted : String :=
  "\x7b\"sub\":\"alice\",\"iss\":\"login\",\"iat\":0,\"exp\":900,\"typ\":\"access\"," ++
    "\"note\":\"\\ud800\"\x7d"

def part (text : String) : List Char :=
  Base64.encode Base64.urlSafe (Utf8.encode text.toList)

def bareMembers : List Member :=
  [(some "sub", .string (some "alice")), (some "iss", .string (some "login")),
    (some "iat", tree (ofInt 0)), (some "exp", tree (ofInt 900)),
    (some "typ", .string (some "access"))]

theorem document?_part (text : String) :
    document? (part text) = some (Document.scan (text.toList.map some)) := by
  rw [document?, part, Base64.decode?_encode Base64.urlSafe_isFaithful, Option.map_some,
    Utf8.units_encode]

theorem scan_bare : Document.scan (bare.toList.map some) = ⟨.object (.ofList bareMembers), true⟩ := by
  conv =>
    lhs
    arg 1
    cbv
  rfl

theorem scan_noted : Document.scan (noted.toList.map some) =
    ⟨.object (.ofList (bareMembers ++ [(some "note", .string none)])), true⟩ := by
  conv =>
    lhs
    arg 1
    cbv
  rfl

/-- What is added has to be text: half of a surrogate pair in a member of a name that means nothing
is neither nested nor a number, and the token is malformed for it. -/
theorem half_pair_is_refused :
    let c : Claims := ⟨"alice", "login", [], ⟨0, 0, by decide, by decide, by decide⟩,
      ⟨900, 0, by decide, by decide, by decide⟩, .access, none, none, none⟩
    let now : Instant := ⟨899, 1, by decide, by decide, by decide⟩
    document? (part bare) = some ⟨.object (.ofList bareMembers), true⟩ ∧
    document? (part noted) =
      some ⟨.object (.ofList (bareMembers ++ [(some "note", .string none)])), true⟩ ∧
    IsOrdinary (bareMembers ++ [(some "note", .string none)]) ∧
    "note" ∉ registeredClaims ∧ "note" ≠ codec.settings.rolesClaim.name ∧
    (Tree.string none).nesting ≤ innerDepth ∧
    SignedAlike codec.verifiers (token (part bare)) (token (part noted)) ∧
    codec.decode 900 now (token (part bare)).text = .ok c ∧
    codec.decode 900 now (token (part noted)).text = .error .malformed := by
  intro c now
  have payload := (document?_part bare).trans (congrArg some scan_bare)
  have payload' := (document?_part noted).trans (congrArg some scan_noted)
  have ordinary : IsOrdinary bareMembers := ⟨areDistinct_of_nodup (by decide), by decide⟩
  have ordinary' : IsOrdinary (bareMembers ++ [(some "note", .string none)]) :=
    (isOrdinary_concat (by decide) (by decide) _).mpr ordinary
  have dotless (text : String) : '.' ∉ part text := Base64.dot_not_mem_encode _
  refine ⟨payload, payload', ordinary', by decide, by decide, Nat.zero_le _,
    signedAlike_signedBy holds_secret _ _, ?_, ?_⟩
  · have claims : (token (part bare)).claims 900 = _ := claims_of_object payload ordinary
    rw [decode_token 900 now (dotless bare), claims]
    rfl
  · have claims : (token (part noted)).claims 900 = _ := claims_of_object payload' ordinary'
    rw [decode_token 900 now (dotless noted), claims]
    rfl

end Issuers

end Codec

end SessionTokens
