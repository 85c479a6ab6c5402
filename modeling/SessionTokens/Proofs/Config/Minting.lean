import SessionTokens.Proofs.Api.Coherence

set_option autoImplicit false

namespace SessionTokens

open Text

/-- The private key signs every message, and what it signs the public key verifies. -/
def KeyMaterial.IsMatched (keys : KeyMaterial) : Prop :=
  ∀ privateKey pem publicKey, Codec.signingKey keys = .ok (.rsa privateKey) →
    keys.publicPem = some pem → publicKey? pem = some publicKey →
    ∀ message, ∃ signature, privateKey.sign? message = some signature ∧
      publicKey.verify message signature = true

namespace KeyMaterial

variable {keys : KeyMaterial}

theorem IsMatched.isPaired (matched : keys.IsMatched) : keys.IsPaired := by
  intro privateKey pem publicKey signing published readable message signature signed
  obtain ⟨signature', signed', verifies⟩ :=
    matched privateKey pem publicKey signing published readable message
  rw [signed] at signed'
  rw [Option.some.inj signed']
  exact verifies

/-- A key that is what its numbers are meant to be matches its own public half. -/
theorem isMatched_of_isGenuine (genuine : ∀ privateKey pem publicKey,
    Codec.signingKey keys = .ok (.rsa privateKey) → keys.publicPem = some pem →
      publicKey? pem = some publicKey →
      privateKey.IsGenuine ∧ publicKey = privateKey.toPublic) : keys.IsMatched := by
  intro privateKey pem publicKey signing published readable message
  obtain ⟨sound, rfl⟩ := genuine privateKey pem publicKey signing published readable
  obtain ⟨_, _, _, pair, -, -⟩ := exists_publicKey signing
  obtain ⟨signature, signed⟩ :=
    Crypto.Rsa.PrivateKey.IsGenuine.exists_sign? sound (SigningKey.isWhole_of_readPair pair) message
  exact ⟨signature, signed, Crypto.Rsa.PrivateKey.verify_of_sign? signed⟩

end KeyMaterial

variable {now expiresAt : Instant} {ttl : Span}

namespace Codec

variable {c : Codec} {keys : KeyMaterial} {settings : CodecSettings}

/-- An answer is a token exactly if it is to live for a lifetime and the rest is in order, and a
complaint about the claims if not. The token is for the claims from the second of an instant until
exactly the lifetime later, and is read as them for as long. -/
structure MintsExactly (c : Codec) (now : Instant) (ttl : Span) (right : Prop)
    (claimsUntil : Instant → Claims) (answer : Checked TokenError (String × Claims)) : Prop where
  succeeds_iff : (∃ minted, answer = .ok minted) ↔ ttl.IsLifetime ∧ right
  refused : ¬ (ttl.IsLifetime ∧ right) → ∃ e, answer = .error (.refused (.encoding e))
  stated : ∀ token claims, answer = .ok (token, claims) → ∃ expiresAt : Instant,
    claims = claimsUntil expiresAt ∧ expiresAt.nanos = 0 ∧
      expiresAt.seconds * 1000 = now.seconds * 1000 + ttl.millis
  reads : ∀ token claims, answer = .ok (token, claims) → c.ReadsAs token claims

theorem exists_sign?_of_isMatched (made : make keys settings = .ok c) (matched : keys.IsMatched)
    (message : List UInt8) : ∃ signature, c.signer.sign? message = some signature := by
  cases signer : c.signer with
  | secret key => exact ⟨_, rfl⟩
  | rsa key =>
    have signing : signingKey keys = .ok (.rsa key) := signer ▸ (make_ok made).1
    obtain ⟨_, pem, publicKey, -, published, readable⟩ := KeyMaterial.exists_publicKey signing
    obtain ⟨signature, signed, -⟩ := matched key pem publicKey signing published readable message
    exact ⟨_, by rw [SigningKey.sign?, signed, Option.map_some]⟩

theorem mint_of_flaw {claims : Claims} (disorder : ¬ claims.IsInOrder) :
    ∃ e, c.mint (some claims) = .error (.refused (.encoding e)) := by
  rw [← Claims.flaw?_eq_none_iff, ← ne_eq, Option.ne_none_iff_exists'] at disorder
  obtain ⟨e, flaw⟩ := disorder
  exact ⟨e, by rw [mint, encode, Claims.validate, flaw]⟩

/-- Nothing but disorder in the claims stands in the way of a token. -/
theorem mintsExactly_mint (made : make keys settings = .ok c) (matched : keys.IsMatched)
    {right : Prop} {claimsUntil : Instant → Claims}
    (times : ∀ t, (claimsUntil t).issuedAt = now.wholeSeconds ∧ (claimsUntil t).expiresAt = t)
    (rules : ∀ t, (blank (claimsUntil t).subject = false ∧ blank (claimsUntil t).issuer = false ∧
      (claimsUntil t).SuitsKind) ↔ right)
    (within : (now.wholeSeconds.add? ttl).isSome) :
    c.MintsExactly now ttl right claimsUntil
      (c.mint ((now.wholeSeconds.add? ttl).map claimsUntil)) := by
  obtain ⟨expiresAt, added⟩ := Option.isSome_iff_exists.mp within
  rw [added, Option.map_some]
  have order : (claimsUntil expiresAt).IsInOrder ↔ ttl.IsLifetime ∧ right := by
    obtain ⟨issued, expires⟩ := times expiresAt
    rw [Claims.isInOrder_iff_of_added issued (expires.symm ▸ added), rules]
  have refused : ¬ (ttl.IsLifetime ∧ right) →
      ∃ e, c.mint (some (claimsUntil expiresAt)) = .error (.refused (.encoding e)) := by
    rw [← order]
    exact mint_of_flaw
  have succeeds_iff : (∃ minted, c.mint (some (claimsUntil expiresAt)) = .ok minted) ↔
      ttl.IsLifetime ∧ right := by
    constructor
    · rintro ⟨minted, answered⟩
      by_contra disorder
      obtain ⟨e, fails⟩ := refused disorder
      rw [fails] at answered
      cases answered
    · intro sound
      obtain ⟨token, minted⟩ := exists_mint_of_signs (exists_sign?_of_isMatched made matched)
        (order.mpr sound)
      exact ⟨_, minted⟩
  refine ⟨succeeds_iff, refused, ?_, ?_⟩
  · intro token claims minted
    obtain ⟨lifetime, -⟩ := succeeds_iff.mp ⟨_, minted⟩
    obtain ⟨-, whole⟩ := Instant.window_of_added lifetime added
    obtain ⟨same, -, -⟩ := readsAs_of_mint made matched.isPaired minted
    exact ⟨expiresAt, (Option.some.inj same).symm, whole, Instant.millis_of_added added whole⟩
  · intro token claims minted
    exact (readsAs_of_mint made matched.isPaired minted).2.1

/-- If all is in order whenever there are claims, nothing is complained of. -/
theorem mint_ne_refused {right : Prop} {claimsUntil : Instant → Claims}
    (minting : (now.wholeSeconds.add? ttl).isSome → c.MintsExactly now ttl right claimsUntil
      (c.mint ((now.wholeSeconds.add? ttl).map claimsUntil)))
    (sound : ttl.IsLifetime ∧ right) (e : TokenError) :
    c.mint ((now.wholeSeconds.add? ttl).map claimsUntil) ≠ .error (.refused e) := by
  intro fails
  cases within : now.wholeSeconds.add? ttl with
  | none =>
    rw [within] at fails
    cases fails
  | some expiresAt =>
    obtain ⟨minted, answered⟩ := (minting (by rw [within]; rfl)).succeeds_iff.mpr sound
    rw [fails] at answered
    cases answered

section

variable (made : make keys settings = .ok c) (matched : keys.IsMatched)

include made matched

theorem mintsExactly_mintAccess (subject : String) (roles : List Role) (audience : List String) :
    (now.wholeSeconds.add? settings.lifetimes.access).isSome →
    c.MintsExactly now settings.lifetimes.access
      (blank subject = false ∧ blank settings.issuer = false)
      (fun expiresAt => ⟨subject, settings.issuer, audience, now.wholeSeconds, expiresAt, .access,
        some roles, none, none⟩)
      (c.mintAccess now subject roles audience) := by
  obtain rfl := (make_ok made).2.2
  apply mintsExactly_mint made matched (fun _ => ⟨rfl, rfl⟩)
  simp [Claims.SuitsKind]

theorem mintsExactly_mintRefresh (subject : String) (id : TokenId) :
    (now.wholeSeconds.add? settings.lifetimes.refresh).isSome →
    c.MintsExactly now settings.lifetimes.refresh
      (blank subject = false ∧ blank settings.issuer = false)
      (fun expiresAt => ⟨subject, settings.issuer, [], now.wholeSeconds, expiresAt, .refresh, none,
        some id, none⟩)
      (c.mintRefresh now subject id) := by
  obtain rfl := (make_ok made).2.2
  apply mintsExactly_mint made matched (fun _ => ⟨rfl, rfl⟩)
  simp [Claims.SuitsKind]

theorem mintsExactly_mintS2s (audience : List String) :
    (now.wholeSeconds.add? settings.lifetimes.s2s).isSome →
    c.MintsExactly now settings.lifetimes.s2s (blank settings.issuer = false ∧ audience ≠ [])
      (fun expiresAt => ⟨settings.issuer, settings.issuer, audience, now.wholeSeconds, expiresAt,
        .s2s, none, none, some true⟩)
      (c.mintS2s now audience) := by
  obtain rfl := (make_ok made).2.2
  apply mintsExactly_mint made matched (fun _ => ⟨rfl, rfl⟩)
  simp [Claims.SuitsKind]

/-- With usable settings there is nothing to complain of in the claims of a user or of a service. -/
theorem mint_ne_refused_of_usable (usable : settings.IsUsable) (user : UserId) (e : TokenError) :
    (∀ roles audience, c.mintAccess now user.toText roles audience ≠ .error (.refused e)) ∧
    (∀ id, c.mintRefresh now user.toText id ≠ .error (.refused e)) ∧
    ∀ audience, audience ≠ [] → c.mintS2s now audience ≠ .error (.refused e) := by
  have named := user.blank_toText
  obtain rfl := (make_ok made).2.2
  refine ⟨fun roles audience => ?_, fun id => ?_, fun audience addressed => ?_⟩
  · exact mint_ne_refused (mintsExactly_mintAccess made matched user.toText roles audience)
      ⟨usable.access, named, usable.issuer⟩ e
  · exact mint_ne_refused (mintsExactly_mintRefresh made matched user.toText id)
      ⟨usable.refresh, named, usable.issuer⟩ e
  · exact mint_ne_refused (mintsExactly_mintS2s made matched audience)
      ⟨usable.s2s, usable.issuer, addressed⟩ e

end

/-- A codec makes a token for a subject, or for an audience, exactly if its settings have a lifetime
for tokens of the kind and an issuer, and the subject or the audience is there; it complains about
the claims if not. The token is for all that was asked from the second it is made in until exactly
the lifetime later, and the codec reads it as that until it expires. So a codec with the settings of
a loaded configuration has no complaint about a user or about any audience that is one. -/
theorem minting_is_exact (made : make keys settings = .ok c) (matched : keys.IsMatched) :
    (∀ now subject roles audience, (now.wholeSeconds.add? settings.lifetimes.access).isSome →
      c.MintsExactly now settings.lifetimes.access
        (blank subject = false ∧ blank settings.issuer = false)
        (fun expiresAt => ⟨subject, settings.issuer, audience, now.wholeSeconds, expiresAt, .access,
          some roles, none, none⟩)
        (c.mintAccess now subject roles audience)) ∧
    (∀ now subject id, (now.wholeSeconds.add? settings.lifetimes.refresh).isSome →
      c.MintsExactly now settings.lifetimes.refresh
        (blank subject = false ∧ blank settings.issuer = false)
        (fun expiresAt => ⟨subject, settings.issuer, [], now.wholeSeconds, expiresAt, .refresh, none,
          some id, none⟩)
        (c.mintRefresh now subject id)) ∧
    (∀ now audience, (now.wholeSeconds.add? settings.lifetimes.s2s).isSome →
      c.MintsExactly now settings.lifetimes.s2s (blank settings.issuer = false ∧ audience ≠ [])
        (fun expiresAt => ⟨settings.issuer, settings.issuer, audience, now.wholeSeconds, expiresAt,
          .s2s, none, none, some true⟩)
        (c.mintS2s now audience)) ∧
    ∀ defaults env config, blank defaults.serviceId = false →
      ServiceConfig.load defaults env = .ok config → config.keys = keys →
      config.settings = settings → ∀ now (user : UserId) e,
        (∀ roles audience, c.mintAccess now user.toText roles audience ≠ .error (.refused e)) ∧
        (∀ id, c.mintRefresh now user.toText id ≠ .error (.refused e)) ∧
        ∀ audience, audience ≠ [] → c.mintS2s now audience ≠ .error (.refused e) := by
  refine ⟨?_, ?_, ?_, ?_⟩
  · exact fun now subject roles audience =>
      mintsExactly_mintAccess made matched subject roles audience
  · exact fun now subject id => mintsExactly_mintRefresh made matched subject id
  · exact fun now audience => mintsExactly_mintS2s made matched audience
  · rintro defaults env config named loaded - rfl now user e
    exact mint_ne_refused_of_usable made matched (ServiceConfig.isUsable_of_load named loaded) user e

open UserService in
/-- A second and a half before 1970 the second has to be rounded down. -/
theorem minting_before_1970 :
    let config := Sample.config none none
    let c := Sample.codec
    let now : Instant := ⟨-2, 500000000, by decide, by decide, by decide⟩
    let claims : Claims := ⟨"ada", "user-service", [], ⟨-2, 0, by decide, by decide, by decide⟩,
      ⟨898, 0, by decide, by decide, by decide⟩, .access, some [.user], none, none⟩
    ServiceConfig.load .user (Sample.environment [] []) = .ok config ∧
      Codec.make config.keys config.settings = .ok c ∧
      (∃ token, c.mintAccess now "ada" [.user] [] = .ok (token, claims) ∧
        c.decode 898 ⟨897, 999999999, by decide, by decide, by decide⟩ token = .ok claims) ∧
      (∃ e, c.mintS2s now [] = .error (.refused (.encoding e))) ∧
      ∀ e, c.mintS2s now ["admin-service"] ≠ .error (.refused e) := by
  intro config c now claims
  have made : Codec.make config.keys config.settings = .ok c := rfl
  have matched : config.keys.IsMatched := fun _ _ _ signing => nomatch signing
  obtain ⟨access, -, s2s, unrefused⟩ := minting_is_exact made matched
  refine ⟨Sample.loaded, made, ?_, ?_, ?_⟩
  · have minting := access now "ada" [.user] [] (by decide)
    obtain ⟨⟨token, stated⟩, minted⟩ := minting.succeeds_iff.mpr ⟨⟨by decide, by decide⟩, by decide⟩
    obtain ⟨⟨seconds, nanos, _, _, _⟩, rfl, whole, expires⟩ := minting.stated token stated minted
    obtain rfl : nanos = 0 := whole
    obtain rfl : seconds = 898 := by
      have exactly : seconds * 1000 = -2 * 1000 + 900000 := expires
      omega
    let moment : Moment := ⟨⟨897, 999999999, by decide, by decide, by decide⟩, 898⟩
    exact ⟨token, minted,
      minting.reads token claims minted moment (by decide) (by decide : (898 : Int) ≤ 898) (by decide)⟩
  · exact (s2s now [] (by decide)).refused fun sound => sound.2.2 rfl
  · intro e
    exact (unrefused .user _ config (by decide) Sample.loaded rfl rfl now ⟨⟨0⟩⟩ e).2.2 _
      (List.cons_ne_nil _ _)

end Codec

end SessionTokens
