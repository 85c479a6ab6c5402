import SessionTokens.Crypto.Sha256

set_option autoImplicit false

/- RSA signatures in the PKCS #1 version 1.5 form with SHA-256. Signing checks its own result with
the public half of the key, so a key whose parts do not belong together signs nothing. -/
namespace SessionTokens.Crypto.Rsa

/-- `base ^ exponent` modulo `m`, by squaring; `fuel` is at least the exponent's number of bits. -/
def powModFrom : Nat → Nat → Nat → Nat → Nat → Nat
  | 0, _, _, _, acc => acc
  | fuel + 1, base, exponent, m, acc =>
    if exponent == 0 then acc
    else powModFrom fuel (base * base % m) (exponent / 2) m
      (if exponent % 2 == 1 then acc * base % m else acc)

def powMod (base exponent m : Nat) : Nat :=
  powModFrom (Nat.log2 exponent + 1) (base % m) exponent m (1 % m)

def natOfBytes (bytes : List UInt8) : Nat :=
  bytes.foldl (fun n b => n * 256 + b.toNat) 0

def bitLength (n : Nat) : Nat :=
  if n == 0 then 0 else Nat.log2 n + 1

structure PublicKey where
  modulus : Nat
  exponent : Nat
deriving DecidableEq

/-- The number of bytes of the modulus and of every signature. -/
def PublicKey.size (k : PublicKey) : Nat :=
  (bitLength k.modulus + 7) / 8

structure PrivateKey where
  toPublic : PublicKey
  prime1 : Nat
  prime2 : Nat
  exponent1 : Nat
  exponent2 : Nat
  coefficient : Nat
deriving DecidableEq

/-- What stands before a SHA-256 digest in a signed block. -/
def digestInfo : List UInt8 :=
  [0x30, 0x31, 0x30, 0x0d, 0x06, 0x09, 0x60, 0x86, 0x48, 0x01, 0x65, 0x03, 0x04, 0x02, 0x01, 0x05,
    0x00, 0x04, 0x20]

/-- The block of `size` bytes that is signed for a message. -/
def paddedDigest (size : Nat) (message : List UInt8) : List UInt8 :=
  0 :: 1 :: List.replicate (size - 54) 0xff ++ 0 :: digestInfo ++ Sha256.digest message

/-- Whether a signature is the message's under a key. -/
def PublicKey.verify (k : PublicKey) (message signature : List UInt8) : Bool :=
  let s := natOfBytes signature
  signature.length == k.size && s < k.modulus &&
    powMod s k.exponent k.modulus == natOfBytes (paddedDigest k.size message)

/-- The signature of a message, if it verifies. -/
def PrivateKey.sign? (k : PrivateKey) (message : List UInt8) : Option (List UInt8) :=
  let m := natOfBytes (paddedDigest k.toPublic.size message)
  let s1 := powMod m k.exponent1 k.prime1
  let s2 := powMod m k.exponent2 k.prime2
  let h := (s1 + k.prime1 - s2 % k.prime1) * k.coefficient % k.prime1
  let signature := Sha256.bigEndian k.toPublic.size (s2 + h * k.prime2)
  if k.toPublic.verify message signature then some signature else none

theorem PrivateKey.verify_of_sign? {k : PrivateKey} {message signature : List UInt8}
    (h : k.sign? message = some signature) : k.toPublic.verify message signature = true := by
  unfold PrivateKey.sign? at h
  dsimp only at h
  split at h
  · rename_i hv
    cases h
    exact hv
  · cases h

end SessionTokens.Crypto.Rsa
