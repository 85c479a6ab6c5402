import SessionTokens.Claims.Wire
import SessionTokens.Crypto.Hmac
import SessionTokens.Key.Material
import SessionTokens.Key.Pem
import SessionTokens.Key.RsaKey
import SessionTokens.Text.Split
import SessionTokens.Token.Header

set_option autoImplicit false

/- Reading signed tokens. A token is three base64url parts; its last two dots part them. A verifier
holds one key for one algorithm. `invalidSignature` means that the token is not the verifier's, so
another may be asked; every other failure is about a token that is its own, or about no token at
all. -/
namespace SessionTokens

open Text Json

/-- Why a token is not accepted, or cannot be made. -/
inductive TokenError
  | malformed
  | invalidSignature
  | expired
  | encoding (cause : ClaimError)
deriving DecidableEq, Repr

namespace TokenError

def message : TokenError → String
  | .malformed => "token is malformed"
  | .invalidSignature => "token signature is invalid"
  | .expired => "token has expired"
  | .encoding cause => s!"cannot encode claim set: {cause.message}"

def code : TokenError → String
  | .malformed => "malformed"
  | .invalidSignature => "invalid_signature"
  | .expired => "expired"
  | .encoding _ => "encoding_error"

end TokenError

namespace Token

/-- The three parts of a token, still encoded. Only the first may hold dots. -/
structure Parts where
  header : List Char
  payload : List Char
  signature : List Char

/-- The bytes that are signed. -/
def Parts.signed (p : Parts) : List UInt8 :=
  Utf8.encode (p.header ++ '.' :: p.payload)

def Parts.split? (token : String) : Option Parts :=
  match splitLast? '.' token.toList with
  | some (front, signature) =>
    (splitLast? '.' front).map fun (header, payload) => ⟨header, payload, signature⟩
  | none => none

/-- The document in an encoded part. -/
def document? (part : List Char) : Option Document :=
  (Base64.decode? Base64.urlSafe part).map fun bytes => Document.scan (Utf8.units bytes)

/-- The algorithm that the header part states. -/
def Parts.algorithm? (p : Parts) : Option Algorithm :=
  (document? p.header).bind fun d => (d.read readHeader).toOption

/-- The key of a verifier. The bytes of an RSA key need not be a usable key. -/
inductive Key
  | secret (bytes : List UInt8)
  | rsa (bytes : List UInt8)
deriving DecidableEq

def Key.algorithm : Key → Algorithm
  | .secret _ => .hs256
  | .rsa _ => .rs256

/-- The signature part made with a secret. -/
def secretSignature (key message : List UInt8) : List Char :=
  Base64.encode Base64.urlSafe (Crypto.Hmac.code key message)

/-- Checks the signature. A secret's is compared as text; an RSA signature has to be base64url. -/
def Key.check (k : Key) (p : Parts) : Except TokenError Unit :=
  match k with
  | .secret key =>
    if p.signature == secretSignature key p.signed then .ok () else .error .invalidSignature
  | .rsa bytes =>
    match Base64.decode? Base64.urlSafe p.signature with
    | none => .error .malformed
    | some signature =>
      match RsaKey.readPublic? bytes with
      | some key => if key.verify p.signed signature then .ok () else .error .invalidSignature
      | none => .error .invalidSignature

/-- The values of the members with a name. -/
def membersNamed (name : String) : Members → List Tree
  | .cons (some n) value rest =>
    if n == name then value :: membersNamed name rest else membersNamed name rest
  | .cons none _ rest => membersNamed name rest
  | _ => []

/-- A container that holds something. -/
def isFilled : Tree → Bool
  | .array (.cons _ _) => true
  | .object (.cons _ _ _) => true
  | _ => false

/-- A start of validity is not enforced, but it may stand only once and not as a filled
container. -/
def hasReadableStart : Tree → Bool
  | .object members =>
    match membersNamed "nbf" members with
    | [] => true
    | [start] => !isFilled start
    | _ => false
  | _ => true

/-- The payload of a token whose signature holds. Its expiry has to be a time from 1970 on and, by
the host's clock, not in the past. -/
def Parts.claims (p : Parts) (host : Int) : Except TokenError WireClaims :=
  match document? p.payload with
  | none => .error .malformed
  | some d =>
    match d.read WireClaims.read with
    | .error _ => .error .malformed
    | .ok w =>
      if !hasReadableStart d.root || w.expiresAt < 0 then .error .malformed
      else if w.expiresAt < host then .error .expired
      else .ok w

/-- Verifies a token with one key, `host` being the host's time in seconds. -/
def verify (k : Key) (host : Int) (token : String) : Except TokenError WireClaims :=
  match Parts.split? token with
  | none => .error .malformed
  | some p =>
    match p.algorithm? with
    | none => .error .malformed
    | some a =>
      if a ≠ k.algorithm then .error .invalidSignature
      else
        match k.check p with
        | .error e => .error e
        | .ok () => p.claims host

end Token

/-- One source of trust: it is given the host's time and a token. -/
structure Verifier where
  name : String
  verify : Int → String → Except TokenError WireClaims

namespace Verifier

def ofKey (name : String) (k : Token.Key) : Verifier :=
  ⟨name, Token.verify k⟩

def secret (bytes : List UInt8) : Verifier :=
  ofKey "hs256" (.secret bytes)

/-- The key in a PEM file, as a verifier of the given name. -/
def ofFile (name : String) (file : KeyFile) (pem : List UInt8) : Except KeyError Verifier :=
  match Pem.rsaKey? pem with
  | some bytes => .ok (ofKey name (.rsa bytes))
  | none => .error (.invalidPem file)

/-- The service's own public key. -/
def ownKey : List UInt8 → Except KeyError Verifier :=
  ofFile "rs256" .publicKey

/-- The public key of a peer. -/
def peerKey : List UInt8 → Except KeyError Verifier :=
  ofFile "rs256-peer" .peerKey

/-- Asks verifiers in order until one does not answer `invalidSignature`. Gives the names of those
asked, and the answer. -/
def askInOrder (host : Int) (token : String) :
    List Verifier → List String × Except TokenError WireClaims
  | [] => ([], .error .invalidSignature)
  | v :: rest =>
    match v.verify host token with
    | .error .invalidSignature =>
      let (names, answer) := askInOrder host token rest
      (v.name :: names, answer)
    | answer => ([v.name], answer)

end Verifier

end SessionTokens
