import SessionTokens.Id.Ids
import SessionTokens.Proofs.Claims.Validity
import SessionTokens.Proofs.Config.Settings
import SessionTokens.Proofs.Crypto.Rsa
import SessionTokens.Proofs.Token.Chain
import SessionTokens.Proofs.Token.RoundTrip

set_option autoImplicit false

namespace SessionTokens

open Text

/-- A key that signs every message: any secret, and an RSA key that is what its numbers are meant to
be. -/
def SigningKey.IsGenuine : SigningKey → Prop
  | .secret _ => True
  | .rsa key => key.IsGenuine

theorem SigningKey.isWhole_of_readPair {privatePem publicPem : List UInt8}
    {key : Crypto.Rsa.PrivateKey} (read : readPair privatePem publicPem = .ok (.rsa key)) :
    key.IsWhole := by
  obtain ⟨key', -, same, found, -⟩ := readPair_ok read
  obtain rfl := SigningKey.rsa.inj same
  obtain ⟨bytes, -, readable⟩ := Option.bind_eq_some_iff.mp found
  exact RsaKey.isWhole_of_readPrivate? readable

/-- Beside a private key there has to be the file of a public one. -/
theorem KeyMaterial.exists_publicKey {keys : KeyMaterial} {key : Crypto.Rsa.PrivateKey}
    (signing : Codec.signingKey keys = .ok (.rsa key)) : ∃ privatePem pem publicKey,
      SigningKey.readPair privatePem pem = .ok (.rsa key) ∧ keys.publicPem = some pem ∧
      publicKey? pem = some publicKey := by
  have pair := signing
  unfold Codec.signingKey at pair
  split at pair
  · cases pair
  · cases pair
  · rename_i privatePem pem held published
    obtain ⟨_, publicKey, same, -, readable⟩ := SigningKey.readPair_ok pair
    exact ⟨privatePem, pem, publicKey, pair, published, readable⟩

section

variable {now expiresAt : Instant} {ttl : Span}

/-- The point in time at which something of a lifetime ends that begins with a second. -/
theorem Instant.exists_expiry (lifetime : ttl.IsLifetime) (within : (now.add? ttl).isSome) :
    ∃ expiresAt, now.wholeSeconds.add? ttl = some expiresAt := by
  obtain ⟨positive, whole⟩ := lifetime
  obtain ⟨k, millis⟩ : ∃ k, ttl.millis = 1000 * k := ⟨ttl.millis / 1000, by omega⟩
  have bounded : now.seconds + k ≤ 8210266876799 := by
    rw [add?, make?] at within
    split at within
    · rename_i inside
      have latest := inside.1.2
      rw [millis] at latest
      omega
    · cases within
  have earliest := now.ge_earliest
  refine ⟨⟨now.seconds + k, 0, by omega, bounded, by decide⟩, ?_⟩
  have total : ((now.wholeSeconds.nanos : Nat) : Int) + ttl.millis * 1000000 = 1000000000 * k := by
    change (0 : Int) + ttl.millis * 1000000 = 1000000000 * k
    omega
  have seconds : now.wholeSeconds.seconds + 1000000000 * k / 1000000000 = now.seconds + k := by
    change now.seconds + 1000000000 * k / 1000000000 = now.seconds + k
    omega
  have nanos : (1000000000 * k % 1000000000).toNat = 0 := by omega
  rw [add?, total, seconds, nanos, make?, dif_pos ⟨⟨by omega, bounded⟩, by decide⟩]

/-- Where it ends that begins with the second of an instant. -/
theorem Instant.eq_of_added (added : now.wholeSeconds.add? ttl = some expiresAt) :
    expiresAt.seconds = now.seconds + ttl.millis * 1000000 / 1000000000 ∧
      expiresAt.nanos = (ttl.millis * 1000000 % 1000000000).toNat := by
  obtain ⟨seconds, nanos⟩ := make?_eq_some added
  have start : now.wholeSeconds.nanos = 0 := rfl
  have second : now.wholeSeconds.seconds = now.seconds := rfl
  rw [start] at seconds nanos
  omega

/-- From a second to a later one it is a lifetime. -/
theorem Instant.window_iff (added : now.wholeSeconds.add? ttl = some expiresAt) :
    now.wholeSeconds < expiresAt ∧ expiresAt.nanos = 0 ↔ ttl.IsLifetime := by
  obtain ⟨seconds, nanos⟩ := eq_of_added added
  have start : now.wholeSeconds.nanos = 0 := rfl
  have second : now.wholeSeconds.seconds = now.seconds := rfl
  rw [lt_def, start, second]
  constructor
  · rintro ⟨window, whole⟩
    constructor <;> omega
  · rintro ⟨positive, whole⟩
    omega

theorem Instant.window_of_added (lifetime : ttl.IsLifetime)
    (added : now.wholeSeconds.add? ttl = some expiresAt) :
    now.wholeSeconds < expiresAt ∧ expiresAt.nanos = 0 :=
  (window_iff added).mpr lifetime

theorem Instant.millis_of_added (added : now.wholeSeconds.add? ttl = some expiresAt)
    (whole : expiresAt.nanos = 0) :
    expiresAt.seconds * 1000 = now.seconds * 1000 + ttl.millis := by
  have ends := eq_of_added added
  omega

end

theorem Instant.lt_of_wholeSeconds_lt {now later : Instant} (window : now.wholeSeconds < later)
    (whole : later.nanos = 0) : now < later := by
  rw [lt_def] at window ⊢
  change now.seconds < _ ∨ now.seconds = _ ∧ 0 < later.nanos at window
  omega

theorem UserId.blank_toText (id : UserId) : blank id.toText = false := by
  have hyphen : '-' ∈ id.uuid.toList := by simp [Uuid.toList]
  rw [blank, toText, Uuid.toText, String.toList_ofList, Bool.eq_false_iff]
  intro blank
  exact absurd (List.all_eq_true.mp blank '-' hyphen) (by decide)

/-- Claims that begin with the second of an instant. -/
theorem Claims.isInOrder_iff_of_added {claims : Claims} {now : Instant} {ttl : Span}
    (issued : claims.issuedAt = now.wholeSeconds)
    (added : now.wholeSeconds.add? ttl = some claims.expiresAt) :
    claims.IsInOrder ↔ ttl.IsLifetime ∧ blank claims.subject = false ∧
      blank claims.issuer = false ∧ claims.SuitsKind := by
  have start : claims.issuedAt.nanos = 0 := by rw [issued]; rfl
  rw [isInOrder_iff, ← Instant.window_iff added, ← issued]
  constructor
  · rintro ⟨subject, issuer, window, ⟨-, whole⟩, suits⟩
    exact ⟨⟨window, whole⟩, subject, issuer, suits⟩
  · rintro ⟨⟨window, whole⟩, subject, issuer, suits⟩
    exact ⟨subject, issuer, window, ⟨start, whole⟩, suits⟩

namespace Codec

variable {c : Codec} {keys : KeyMaterial} {settings : CodecSettings}

theorem exists_sign? (made : make keys settings = .ok c) (genuine : c.signer.IsGenuine)
    (message : List UInt8) : ∃ signature, c.signer.sign? message = some signature := by
  cases signer : c.signer with
  | secret key => exact ⟨_, rfl⟩
  | rsa key =>
    rw [signer] at genuine
    have signing : signingKey keys = .ok (.rsa key) := signer ▸ (make_ok made).1
    obtain ⟨_, _, _, pair, -, -⟩ := KeyMaterial.exists_publicKey signing
    obtain ⟨signature, signed⟩ := Crypto.Rsa.PrivateKey.IsGenuine.exists_sign? genuine
      (SigningKey.isWhole_of_readPair pair) message
    exact ⟨_, by rw [SigningKey.sign?, signed, Option.map_some]⟩

/-- A pair of key files makes a codec. -/
theorem make_of_pair {signer : SigningKey} {privatePem publicPem bytes : List UInt8}
    (settings : CodecSettings) (long : minSecretLength ≤ keys.secret.length)
    (held : keys.privatePem = some privatePem) (published : keys.publicPem = some publicPem)
    (alone : keys.peerPem = none) (pair : SigningKey.readPair privatePem publicPem = .ok signer)
    (read : Pem.rsaKey? publicPem = some bytes) :
    make keys settings =
      .ok ⟨signer, [.ofKey "rs256" (.rsa bytes), .secret keys.secret], settings⟩ := by
  have checked : checkSecret keys.secret = .ok () := if_neg (Nat.not_lt.mpr long)
  have own : Verifier.ownKey publicPem = .ok (.ofKey "rs256" (.rsa bytes)) := by
    rw [Verifier.ownKey, Verifier.ofFile, read]
  have chain : standardVerifiers keys =
      .ok [.ofKey "rs256" (.rsa bytes), .secret keys.secret] := by
    rw [standardVerifiers, alone, published, Option.mapM_none, Option.mapM_some, own]
    rfl
  have signing : signingKey keys = .ok signer := by
    rw [signingKey, held, published]
    exact pair
  simp only [make, withVerifiers, checked, chain, signing]
  rfl

/-- A key that signs every message makes claims that are in order into a token. -/
theorem exists_mint_of_signs (signs : ∀ message, ∃ signature, c.signer.sign? message = some signature)
    {claims : Claims} (order : claims.IsInOrder) :
    ∃ token, c.mint (some claims) = .ok (token, claims) := by
  obtain ⟨token, encoded⟩ := exists_encode_of_signs signs (Claims.flaw?_eq_none_iff.mpr order)
  refine ⟨token, ?_⟩
  rw [mint, encoded]

theorem exists_mint (made : make keys settings = .ok c) (genuine : c.signer.IsGenuine)
    {claims : Claims} (order : claims.IsInOrder) :
    ∃ token, c.mint (some claims) = .ok (token, claims) :=
  exists_mint_of_signs (exists_sign? made genuine) order

variable (made : make keys settings = .ok c) (genuine : c.signer.IsGenuine)
  (usable : settings.IsUsable) {now : Instant} {user : UserId}

include made genuine usable

/-- The access token of a user can be made. -/
theorem exists_access (within : (now.add? settings.lifetimes.access).isSome) (roles : List Role) :
    ∃ token claims, c.mintAccess now user.toText roles [] = .ok (token, claims) := by
  obtain ⟨expiresAt, added⟩ := Instant.exists_expiry usable.access within
  have named := user.blank_toText
  obtain rfl := (make_ok made).2.2
  let claims : Claims := ⟨user.toText, c.settings.issuer, [], now.wholeSeconds, expiresAt, .access,
    some roles, none, none⟩
  have order : claims.IsInOrder := (Claims.isInOrder_iff_of_added rfl added).mpr
    ⟨usable.access, named, usable.issuer, rfl, rfl, rfl⟩
  obtain ⟨token, minted⟩ := exists_mint made genuine order
  refine ⟨token, claims, ?_⟩
  rw [mintAccess, Claims.access?, added, Option.map_some, minted]

/-- The refresh token of a user can be made, with any identifier. -/
theorem exists_refresh (within : (now.add? settings.lifetimes.refresh).isSome) (id : TokenId) :
    ∃ token claims, c.mintRefresh now user.toText id = .ok (token, claims) := by
  obtain ⟨expiresAt, added⟩ := Instant.exists_expiry usable.refresh within
  have named := user.blank_toText
  obtain rfl := (make_ok made).2.2
  let claims : Claims := ⟨user.toText, c.settings.issuer, [], now.wholeSeconds, expiresAt, .refresh,
    none, some id, none⟩
  have order : claims.IsInOrder := (Claims.isInOrder_iff_of_added rfl added).mpr
    ⟨usable.refresh, named, usable.issuer, rfl, rfl⟩
  obtain ⟨token, minted⟩ := exists_mint made genuine order
  refine ⟨token, claims, ?_⟩
  rw [mintRefresh, Claims.refresh?, added, Option.map_some, minted]

/-- The token of a service can be made, for any other. -/
theorem exists_s2s {expiresAt : Instant}
    (added : now.wholeSeconds.add? settings.lifetimes.s2s = some expiresAt) (audience : String) :
    ∃ token, c.mintS2s now [audience] = .ok (token,
      ⟨settings.issuer, settings.issuer, [audience], now.wholeSeconds, expiresAt, .s2s, none, none,
        some true⟩) := by
  obtain rfl := (make_ok made).2.2
  let claims : Claims := ⟨c.settings.issuer, c.settings.issuer, [audience], now.wholeSeconds,
    expiresAt, .s2s, none, none, some true⟩
  have order : claims.IsInOrder := (Claims.isInOrder_iff_of_added rfl added).mpr
    ⟨usable.s2s, usable.issuer, usable.issuer, rfl, List.cons_ne_nil audience [], rfl⟩
  obtain ⟨token, minted⟩ := exists_mint made genuine order
  refine ⟨token, ?_⟩
  rw [mintS2s, Claims.s2s?, added, Option.map_some, minted]

end Codec

end SessionTokens
