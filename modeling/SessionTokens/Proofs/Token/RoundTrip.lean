import SessionTokens.Proofs.Claims.Validity
import SessionTokens.Proofs.Token.Trust

set_option autoImplicit false

namespace SessionTokens

open Text Json

/-- The chain of verifiers of `own` has the one for what `other` signs: the same secret, or the
public key as its own or as its peer's. -/
def KeyMaterial.Trusts (own other : KeyMaterial) : Prop :=
  (other.privatePem = none ∧ own.secret = other.secret) ∨
  (other.privatePem.isSome ∧ ∃ pem trusted, other.publicPem = some pem ∧
    (own.publicPem = some trusted ∨ own.peerPem = some trusted) ∧
    publicKey? trusted = publicKey? pem)

/-- The public key of the material verifies whatever its private key signs. -/
def KeyMaterial.IsPaired (keys : KeyMaterial) : Prop :=
  ∀ privateKey pem publicKey, Codec.signingKey keys = .ok (.rsa privateKey) →
    keys.publicPem = some pem → publicKey? pem = some publicKey →
    ∀ message signature, privateKey.sign? message = some signature →
      publicKey.verify message signature = true

namespace Codec

/-- The bytes of a signature that the key makes. -/
def Signs (signer : SigningKey) (message signature : List UInt8) : Prop :=
  match signer with
  | .secret key => signature = Crypto.Hmac.code key message
  | .rsa key => key.sign? message = some signature

theorem sign?_eq_some {signer : SigningKey} {message : List UInt8} {text : List Char}
    (signed : signer.sign? message = some text) :
    ∃ signature, text = Base64.encode Base64.urlSafe signature ∧
      Signs signer message signature := by
  cases signer with
  | secret key => exact ⟨_, (Option.some.inj signed).symm, rfl⟩
  | rsa key =>
    obtain ⟨signature, made, rfl⟩ := Option.map_eq_some_iff.mp signed
    exact ⟨signature, rfl, made⟩

/-- The parts of the token that a claim set is written as. -/
def partsOf (c : Codec) (claims : Claims) (signature : List UInt8) : Token.Parts :=
  ⟨encodePart (Token.header c.signer.algorithm),
    encodePart (WireClaims.ofClaims claims c.settings.rolesClaim).toJson,
    Base64.encode Base64.urlSafe signature⟩

theorem encode_ok {c : Codec} {claims : Claims} {token : String}
    (encoded : c.encode claims = .ok token) :
    claims.flaw? = none ∧ ∃ signature, token = (c.partsOf claims signature).text ∧
      Signs c.signer (c.partsOf claims signature).signed signature := by
  unfold encode at encoded
  split at encoded
  · cases encoded
  · rename_i valid
    refine ⟨?_, ?_⟩
    · unfold Claims.validate at valid
      split at valid
      · cases valid
      · assumption
    · dsimp only at encoded
      split at encoded
      · rename_i text signed
        obtain ⟨signature, rfl, signs⟩ := sign?_eq_some signed
        exact ⟨signature, (Except.ok.inj encoded).symm, signs⟩
      · cases encoded

/-- A key that signs every message signs every valid claim set. -/
theorem exists_encode_of_signs {c : Codec}
    (signs : ∀ message, ∃ signature, c.signer.sign? message = some signature) {claims : Claims}
    (valid : claims.flaw? = none) : ∃ token, c.encode claims = .ok token := by
  obtain ⟨signature, signed⟩ := signs (Utf8.encode (encodePart (Token.header c.signer.algorithm) ++
    '.' :: encodePart (WireClaims.ofClaims claims c.settings.rolesClaim).toJson))
  rw [encode, Claims.validate, valid]
  dsimp only
  rw [signed]
  exact ⟨_, rfl⟩

theorem exists_encode {c : Codec} {key : List UInt8} (signer : c.signer = .secret key)
    {claims : Claims} (valid : claims.flaw? = none) : ∃ token, c.encode claims = .ok token := by
  apply exists_encode_of_signs _ valid
  rw [signer]
  exact fun _ => ⟨_, rfl⟩

/-- It mints refresh tokens as long as their expiry is within bounds. -/
theorem exists_mintRefresh {c : Codec}
    (signs : ∀ message, ∃ signature, c.signer.sign? message = some signature)
    {now expiresAt : Instant} {subject : String} (named : blank subject = false)
    (issuer : blank c.settings.issuer = false)
    (added : now.wholeSeconds.add? c.settings.lifetimes.refresh = some expiresAt)
    (window : now.wholeSeconds < expiresAt) (whole : expiresAt.nanos = 0) (id : TokenId) :
    ∃ token claims, c.mintRefresh now subject id = .ok (token, claims) ∧
      claims.expiresAt = expiresAt := by
  let claims : Claims := ⟨subject, c.settings.issuer, [], now.wholeSeconds, expiresAt, .refresh,
    none, some id, none⟩
  have valid : claims.flaw? = none :=
    Claims.flaw?_eq_none_iff.mpr ⟨named, issuer, window, ⟨rfl, whole⟩, rfl, rfl⟩
  obtain ⟨token, encoded⟩ := exists_encode_of_signs signs valid
  refine ⟨token, claims, ?_, rfl⟩
  rw [mintRefresh, Claims.refresh?, added, Option.map_some, mint, encoded]

theorem isWritten_partsOf (c : Codec) (claims : Claims) (signature : List UInt8) :
    (c.partsOf claims signature).IsWritten c.signer.algorithm signature :=
  ⟨rfl, Token.dot_not_mem_encodePart _, rfl⟩

end Codec

/-- The times of a valid claim set. -/
theorem Claims.times_of_valid {c : Claims} (valid : c.flaw? = none) :
    c.issuedAt < c.expiresAt ∧ c.issuedAt.nanos = 0 ∧ c.expiresAt.nanos = 0 := by
  have order := flaw?_eq_none_iff.mp valid
  exact ⟨order.window, order.whole⟩

namespace Codec

variable {keysA keysB : KeyMaterial} {settingsA settingsB : CodecSettings} {a b : Codec}

/-- Material that is trusted to verify what a codec signs vouches for it. -/
theorem vouches_of_signs (madeA : make keysA settingsA = .ok a) (paired : keysA.IsPaired)
    (trusts : keysB.Trusts keysA) {p : Token.Parts} {signature : List UInt8}
    (written : p.IsWritten a.signer.algorithm signature)
    (signs : Signs a.signer p.signed signature) : keysB.Vouches p := by
  have algorithm := written.isSigned.algorithm
  have signing := (make_ok madeA).1
  rcases trusts with ⟨symmetric, same⟩ | ⟨asymmetric, pem, trusted, published, given, equal⟩
  · simp only [signingKey, symmetric] at signing
    have signer := Except.ok.inj signing
    rw [← signer] at algorithm signs
    refine .secret algorithm ?_
    rw [written.signature, same, signs]
  · obtain ⟨privatePem, held⟩ := Option.isSome_iff_exists.mp asymmetric
    have pair := signing
    simp only [signingKey, held, published] at pair
    obtain ⟨key, publicKey, signer, -, readable⟩ := SigningKey.readPair_ok pair
    rw [signer] at signing algorithm signs
    exact .publicKey given (equal.trans readable) algorithm written.signature
      (paired key pem publicKey signing published readable _ _ signs)

/-- What a reader accepts of the payload of a valid claim set at an instant. -/
theorem accept_ofClaims {c : Claims} (valid : c.flaw? = none) (rolesClaim : RolesClaim)
    (now : Instant) :
    b.accept now (WireClaims.ofClaims c rolesClaim) =
      if c.expiresAt ≤ now then .error .expired
      else .ok (if b.settings.rolesClaim.name = rolesClaim.name then c
        else { c with roles := none }) := by
  obtain ⟨window, issued, expires⟩ := Claims.times_of_valid valid
  rw [accept, WireClaims.toClaims?_ofClaims c rolesClaim _ issued expires]
  have later : ¬ c.expiresAt ≤ c.issuedAt := Instant.not_le.mpr window
  by_cases same : b.settings.rolesClaim.name = rolesClaim.name
  · simp only [same, if_true, later, if_false]
  · simp only [same, if_false, later]

/-- What one codec writes, a codec that trusts it reads: by the host's clock first, then by its
own. -/
theorem decode_of_encode (madeA : make keysA settingsA = .ok a)
    (madeB : make keysB settingsB = .ok b)
    (paired : keysA.IsPaired) (trusts : keysB.Trusts keysA) {c : Claims} {token : String}
    (encoded : a.encode c = .ok token) (host : Int) (now : Instant) :
    b.decode host now token =
      if c.expiresAt.seconds < 0 then .error .malformed
      else if c.expiresAt.seconds < host then .error .expired
      else if c.expiresAt ≤ now then .error .expired
      else .ok (if settingsB.rolesClaim.name = settingsA.rolesClaim.name then c
        else { c with roles := none }) := by
  obtain ⟨valid, signature, rfl, signs⟩ := encode_ok encoded
  have written := isWritten_partsOf a c signature
  have payload : (a.partsOf c signature).claims host = _ :=
    Token.claims_payload c a.settings.rolesClaim _ _ host
  have vouched := vouches_of_signs madeA paired trusts written signs
  rw [decode_of_vouches madeB vouched written.payload, payload]
  split
  · rfl
  split
  · rfl
  rw [← (make_ok madeA).2.2, ← (make_ok madeB).2.2]
  exact accept_ofClaims valid a.settings.rolesClaim now

/-- A claim set that one service signs is, until it expires, what another service reads that trusts
the signing key, but for roles under a name that is not the reader's. Once it has expired by either
clock the token is refused as expired and for no other reason. -/
theorem decode_across_services (madeA : make keysA settingsA = .ok a)
    (madeB : make keysB settingsB = .ok b) (paired : keysA.IsPaired) (trusts : keysB.Trusts keysA)
    {c : Claims} {token : String} (encoded : a.encode c = .ok token) (host : Nat) (now : Instant) :
    ((host : Int) ≤ c.expiresAt.seconds ∧ now < c.expiresAt →
      b.decode host now token =
        .ok (if settingsB.rolesClaim.name = settingsA.rolesClaim.name then c
          else { c with roles := none })) ∧
    (¬ ((host : Int) ≤ c.expiresAt.seconds ∧ now < c.expiresAt) → 0 ≤ c.expiresAt.seconds →
      b.decode host now token = .error .expired) := by
  have decoded := decode_of_encode madeA madeB paired trusts encoded host now
  refine ⟨?_, ?_⟩
  · rintro ⟨hostTime, future⟩
    rw [decoded, if_neg (by omega), if_neg (by omega), if_neg (Instant.not_le.mpr future)]
  · intro past modern
    rw [decoded, if_neg (by omega)]
    by_cases hostTime : c.expiresAt.seconds < host
    · rw [if_pos hostTime]
    · have reached : c.expiresAt ≤ now := by
        rw [← Decidable.not_not (p := c.expiresAt ≤ now), Instant.not_le]
        exact fun future => past ⟨by omega, future⟩
      rw [if_neg hostTime, if_pos reached]

/-- Two services with one secret that call the roles by different names. -/
theorem decode_across_services_with_secret :
    let keys : KeyMaterial := ⟨List.replicate 32 7, none, none, none⟩
    let settingsA : CodecSettings := ⟨"login", .standard, .standard⟩
    let settingsB : CodecSettings := ⟨"admin", ⟨"groups", by decide⟩, .standard⟩
    let verifiers : List Verifier := [.secret (List.replicate 32 7)]
    let a : Codec := ⟨.secret (List.replicate 32 7), verifiers, settingsA⟩
    let b : Codec := ⟨.secret (List.replicate 32 7), verifiers, settingsB⟩
    let c : Claims := ⟨"alice", "login", [], ⟨0, 0, by decide, by decide, by decide⟩,
      ⟨900, 0, by decide, by decide, by decide⟩, .access, some [.admin, .user], none, none⟩
    make keys settingsA = .ok a ∧ make keys settingsB = .ok b ∧ ∃ token, a.encode c = .ok token ∧
      b.decode 900 ⟨899, 1, by decide, by decide, by decide⟩ token = .ok { c with roles := none } ∧
      b.decode 901 ⟨899, 1, by decide, by decide, by decide⟩ token = .error .expired := by
  intro keys settingsA settingsB verifiers a b c
  have madeA : make keys settingsA = .ok a := rfl
  have madeB : make keys settingsB = .ok b := rfl
  have paired : keys.IsPaired := fun _ _ _ signing => nomatch signing
  have trusts : keys.Trusts keys := Or.inl ⟨rfl, rfl⟩
  obtain ⟨token, encoded⟩ : ∃ token, a.encode c = .ok token := exists_encode rfl (by decide)
  refine ⟨madeA, madeB, token, encoded, ?_, ?_⟩
  · exact (decode_across_services madeA madeB paired trusts encoded 900 _).1 ⟨by decide, by decide⟩
  · exact (decode_across_services madeA madeB paired trusts encoded 901 _).2 (by decide) (by decide)

end Codec

end SessionTokens
