import SessionTokens.Crypto.Rsa
import SessionTokens.Key.Der

set_option autoImplicit false

namespace SessionTokens.RsaKey

open Crypto

/-- An odd modulus of `least` to `greatest` bits, where `least` counts the bytes in full, and an
odd exponent from `leastExponent` to 2³³ - 1. -/
def isAcceptable (least greatest leastExponent : Nat) (k : Rsa.PublicKey) : Bool :=
  k.modulus % 2 == 1 && least ≤ 8 * k.size && Rsa.bitLength k.modulus ≤ greatest &&
    k.exponent % 2 == 1 && leastExponent ≤ k.exponent && k.exponent < 2 ^ 33

/-- The public key that bytes write, if signatures can be verified with it. -/
def readPublic? (bytes : List UInt8) : Option Rsa.PublicKey := do
  let content ← Der.Strict.sequence? bytes
  let (modulus, rest) ← Der.Strict.positive? content
  let (exponent, rest) ← Der.Strict.positive? rest
  let key : Rsa.PublicKey := ⟨modulus, exponent⟩
  if rest.isEmpty && isAcceptable 2048 8192 3 key then some key else none

/-- Whether the parts of a private key belong together. -/
def isConsistent (k : Rsa.PrivateKey) (privateExponent : Nat) : Bool :=
  let n := k.toPublic.modulus
  let half := Rsa.bitLength n / 2
  Rsa.bitLength n % 512 == 0 && k.prime1 * k.prime2 == n &&
    Rsa.bitLength k.prime1 == half && Rsa.bitLength k.prime2 == half &&
    privateExponent % 2 == 1 && privateExponent < n && half < Rsa.bitLength privateExponent &&
    k.exponent1 % 2 == 1 && k.exponent1 < k.prime1 &&
    k.exponent2 % 2 == 1 && k.exponent2 < k.prime2 &&
    k.coefficient < k.prime1 && k.coefficient * k.prime2 % k.prime1 == 1

/-- The private key that bytes write, if it can sign. -/
def readPrivate? (bytes : List UInt8) : Option Rsa.PrivateKey := do
  let content ← Der.Strict.sequence? bytes
  let (version, rest) ← Der.Strict.natural? content
  let (modulus, rest) ← Der.Strict.positive? rest
  let (publicExponent, rest) ← Der.Strict.positive? rest
  let (privateExponent, rest) ← Der.Strict.positive? rest
  let (prime1, rest) ← Der.Strict.positive? rest
  let (prime2, rest) ← Der.Strict.positive? rest
  let (exponent1, rest) ← Der.Strict.positive? rest
  let (exponent2, rest) ← Der.Strict.positive? rest
  let (coefficient, rest) ← Der.Strict.positive? rest
  let key : Rsa.PrivateKey :=
    ⟨⟨modulus, publicExponent⟩, prime1, prime2, exponent1, exponent2, coefficient⟩
  if version == 0 && rest.isEmpty && isAcceptable 2048 4096 65537 key.toPublic &&
      isConsistent key privateExponent then
    some key
  else none

end SessionTokens.RsaKey
