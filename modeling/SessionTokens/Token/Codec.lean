import SessionTokens.Fault
import SessionTokens.Token.Verifier

set_option autoImplicit false

namespace SessionTokens

open Text Json

/-- How long tokens of each kind live. -/
structure Lifetimes where
  access : Span
  refresh : Span
  s2s : Span
deriving DecidableEq

/-- A quarter of an hour, a week, and ten minutes. -/
def Lifetimes.standard : Lifetimes :=
  ⟨⟨900000, by decide, by decide⟩, ⟨604800000, by decide, by decide⟩,
    ⟨600000, by decide, by decide⟩⟩

structure CodecSettings where
  issuer : String
  rolesClaim : RolesClaim
  lifetimes : Lifetimes
deriving DecidableEq

inductive SigningKey
  | secret (bytes : List UInt8)
  | rsa (key : Crypto.Rsa.PrivateKey)
deriving DecidableEq

namespace SigningKey

def algorithm : SigningKey → Token.Algorithm
  | .secret _ => .hs256
  | .rsa _ => .rs256

/-- The signature part for the signed bytes. -/
def sign? (k : SigningKey) (message : List UInt8) : Option (List Char) :=
  match k with
  | .secret key => some (Token.secretSignature key message)
  | .rsa key => (key.sign? message).map (Base64.encode Base64.urlSafe)

/-- What a key pair signs to show that its halves belong together. -/
def pairCheck : List UInt8 :=
  Utf8.bytes "warden key pair check"

/-- The key in a PEM file, if its signatures verify with the given public half. -/
def readPair (privatePem publicPem : List UInt8) : Except KeyError SigningKey := do
  let some privateBytes := Pem.rsaKey? privatePem | .error (.invalidPem .privateKey)
  let some publicBytes := Pem.rsaKey? publicPem | .error (.invalidPem .publicKey)
  let some key := RsaKey.readPrivate? privateBytes | .error (.invalidPem .privateKey)
  let some signature := key.sign? pairCheck | .error (.invalidPem .privateKey)
  let some publicKey := RsaKey.readPublic? publicBytes | .error .keyPairMismatch
  if publicKey.verify pairCheck signature then .ok (.rsa key) else .error .keyPairMismatch

end SigningKey

structure Codec where
  signer : SigningKey
  verifiers : List Verifier
  settings : CodecSettings

namespace Codec

def checkSecret (secret : List UInt8) : Except KeyError Unit :=
  if secret.length < minSecretLength then .error (.secretTooShort secret.length) else .ok ()

/-- The signing key of some material: RSA where there is a private key, else the secret. -/
def signingKey (keys : KeyMaterial) : Except KeyError SigningKey :=
  match keys.privatePem, keys.publicPem with
  | none, _ => .ok (.secret keys.secret)
  | some _, none => .error .missingPublicKey
  | some privatePem, some publicPem => SigningKey.readPair privatePem publicPem

/-- A codec with a chain of one's own. -/
def withVerifiers (keys : KeyMaterial) (settings : CodecSettings) (verifiers : List Verifier) :
    Except KeyError Codec := do
  checkSecret keys.secret
  let signer ← signingKey keys
  .ok ⟨signer, verifiers, settings⟩

/-- The chain of some material. -/
def standardVerifiers (keys : KeyMaterial) : Except KeyError (List Verifier) := do
  let peer ← keys.peerPem.mapM Verifier.peerKey
  let own ← keys.publicPem.mapM Verifier.ownKey
  .ok (peer.toList ++ own.toList ++ [Verifier.secret keys.secret])

def make (keys : KeyMaterial) (settings : CodecSettings) : Except KeyError Codec := do
  checkSecret keys.secret
  let verifiers ← standardVerifiers keys
  withVerifiers keys settings verifiers

/-- A document as an encoded part. -/
def encodePart (v : Json) : List Char :=
  Base64.encode Base64.urlSafe (Utf8.encode v.write)

/-- Signs a claim set that is valid for its kind. -/
def encode (c : Codec) (claims : Claims) : Except TokenError String :=
  match claims.validate with
  | .error e => .error (.encoding e)
  | .ok () =>
    let header := encodePart (Token.header c.signer.algorithm)
    let payload := encodePart (WireClaims.ofClaims claims c.settings.rolesClaim).toJson
    let signed := header ++ '.' :: payload
    match c.signer.sign? (Utf8.encode signed) with
    | some signature => .ok (String.ofList (signed ++ '.' :: signature))
    | none => .error (.encoding (.serialization "signing failed"))

/-- What a verified payload means at an instant. -/
def accept (c : Codec) (now : Instant) (w : WireClaims) : Except TokenError Claims :=
  match w.toClaims? c.settings.rolesClaim with
  | none => .error .malformed
  | some claims =>
    if claims.expiresAt ≤ claims.issuedAt then .error .malformed
    else if claims.expiresAt ≤ now then .error .expired
    else .ok claims

/-- Whether a text has the form of a token with a readable header. -/
def hasHeader (token : String) : Bool :=
  ((Token.Parts.split? token).bind Token.Parts.algorithm?).isSome

/-- The claims of a token, and the names of the verifiers asked. -/
def decodeTraced (c : Codec) (host : Int) (now : Instant) (token : String) :
    List String × Except TokenError Claims :=
  if hasHeader token then
    let (names, answer) := Verifier.askInOrder host token c.verifiers
    (names, answer.bind (c.accept now))
  else ([], .error .malformed)

/-- The claims of a token whose signature a verifier accepts, at the host's time and an instant. -/
def decode (c : Codec) (host : Int) (now : Instant) (token : String) : Except TokenError Claims :=
  (c.decodeTraced host now token).2

/-- Encodes claims, if their times are within bounds. -/
def mint (c : Codec) : Option Claims → Checked TokenError (String × Claims)
  | none => .error .overflow
  | some claims =>
    match c.encode claims with
    | .ok token => .ok (token, claims)
    | .error e => .error (.refused e)

def mintAccess (c : Codec) (now : Instant) (subject : String) (roles : List Role)
    (audience : List String) : Checked TokenError (String × Claims) :=
  c.mint (Claims.access? subject c.settings.issuer audience roles now c.settings.lifetimes.access)

def mintRefresh (c : Codec) (now : Instant) (subject : String) (id : TokenId) :
    Checked TokenError (String × Claims) :=
  c.mint (Claims.refresh? subject c.settings.issuer id now c.settings.lifetimes.refresh)

/-- A token of this service, as issuer and subject, for other services. -/
def mintS2s (c : Codec) (now : Instant) (audience : List String) :
    Checked TokenError (String × Claims) :=
  c.mint (Claims.s2s? c.settings.issuer audience now c.settings.lifetimes.s2s)

end Codec

end SessionTokens
