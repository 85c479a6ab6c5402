import SessionTokens.Proofs.Token.Minting
import SessionTokens.Proofs.Token.Unsigned

set_option autoImplicit false

namespace SessionTokens

open Text

namespace Codec

variable {c : Codec} {keys : KeyMaterial} {settings : CodecSettings} {token : String}
  {claims : Claims}

/-- What its public key does not verify, a codec does not read. -/
theorem decode_of_unpaired (made : make keys settings = .ok c) {key : Crypto.Rsa.PrivateKey}
    (signer : c.signer = .rsa key) {pem : List UInt8} {publicKey : Crypto.Rsa.PublicKey}
    (published : keys.publicPem = some pem) (alone : keys.peerPem = none)
    (readable : publicKey? pem = some publicKey) (encoded : c.encode claims = .ok token)
    (fails : ∀ signature, key.sign? (c.partsOf claims signature).signed = some signature →
      publicKey.verify (c.partsOf claims signature).signed signature = false)
    (host : Int) (now : Instant) : ∃ e, c.decode host now token = .error e := by
  obtain ⟨-, signature, rfl, signs⟩ := encode_ok encoded
  have written := isWritten_partsOf c claims signature
  refine ⟨_, decode_of_not_vouches made written.payload (fun vouched => ?_) host now⟩
  have algorithm := written.isSigned.algorithm
  rw [signer] at algorithm signs
  cases vouched with
  | secret other => cases algorithm.symm.trans other
  | @publicKey pem' signature' key' configured readable' _ written' verifies =>
    obtain rfl : pem' = pem := by
      rcases configured with own | peer
      · exact Option.some.inj (own.symm.trans published)
      · cases alone.symm.trans peer
    obtain rfl : key' = publicKey := Option.some.inj (readable'.symm.trans readable)
    have same : signature' = signature :=
      Base64.encode_injective Base64.urlSafe_isFaithful (written'.symm.trans written.signature)
    rw [same, fails signature signs] at verifies
    cases verifies

end Codec

namespace Der

def writeLength (n : Nat) : List UInt8 :=
  if n < 128 then [UInt8.ofNat n]
  else if n < 256 then [0x81, UInt8.ofNat n]
  else [0x82, UInt8.ofNat (n / 256), UInt8.ofNat n]

def writeNatural (n : Nat) : List UInt8 :=
  let bytes := Crypto.Sha256.bigEndian (Crypto.Rsa.bitLength n / 8 + 1) n
  0x02 :: writeLength bytes.length ++ bytes

def writeNaturals (numbers : List Nat) : List UInt8 :=
  let items := numbers.flatMap writeNatural
  0x30 :: writeLength items.length ++ items

end Der

def Pem.write (label : String) (content : List UInt8) : List UInt8 :=
  Utf8.bytes ("-----BEGIN " ++ label ++ "-----\n") ++
    Utf8.encode (Base64.encode Base64.standard content) ++
    Utf8.bytes ("\n-----END " ++ label ++ "-----\n")

/- A pair of key files that passes the check of pairs and is none. Its private key is in order: the
factors are products of small primes, and to all numbers without one of these, exponents that differ
by 2520 times `turn` are the same. To the message that is signed when keys are read, those are the
same that differ by `turn`, as the exponents of the two files do. -/
namespace Unpaired

def smallFactors1 : List Nat :=
  [30941, 56101, 57331, 63649, 65521, 70687, 72073, 72931, 74257, 77617, 78541, 79561, 87517, 92821,
    97021, 97241, 102103, 107713, 117811, 120121, 127297, 131041, 145861, 150151, 157081, 167077,
    180181, 185641, 192781, 193051, 209441, 218401, 235621, 238681, 257401, 291721, 300301, 332641,
    388961, 411841, 445537, 448801, 450451, 471241, 514081, 540541, 560561, 565489, 612613, 680681,
    816817, 1979209, 2187901, 2423521, 4084081, 15135121, 85765681]

def smallFactors2 : List Nat :=
  [17, 1873, 2003, 2143, 2311, 2341, 2381, 2521, 2731, 2857, 2861, 2971, 3061, 3137, 3433, 3571,
    4159, 4421, 4621, 4951, 5237, 5281, 5441, 6007, 6121, 6337, 6553, 6733, 7481, 8009, 8161, 8191,
    8581, 9181, 9241, 9283, 9521, 10099, 10193, 10711, 12241, 12377, 13729, 14281, 14561, 15289,
    15913, 16381, 16633, 16831, 17681, 19891, 20021, 20161, 22441, 23563, 23869, 25741, 25873,
    26209, 27847, 29173, 29921, 30577, 32341, 35281, 36037, 38611, 42841, 43759, 46411, 47737,
    48049, 50051, 51481, 52361, 55441]

def turn : Nat :=
  6126120

def key : Crypto.Rsa.PrivateKey where
  toPublic := ⟨smallFactors1.prod * smallFactors2.prod, 65537⟩
  prime1 := smallFactors1.prod
  prime2 := smallFactors2.prod
  exponent1 := 12230452673
  exponent2 := 12230452673
  coefficient := Crypto.Rsa.powMod smallFactors2.prod (2520 * turn - 1) smallFactors1.prod

/-- The public key in the other file. -/
def other : Crypto.Rsa.PublicKey :=
  ⟨key.toPublic.modulus, key.toPublic.exponent + turn⟩

def privatePem : List UInt8 :=
  Pem.write "RSA PRIVATE KEY" (Der.writeNaturals [0, key.toPublic.modulus, key.toPublic.exponent,
    key.exponent1 + 2520 * turn * 2 ^ 1108, key.prime1, key.prime2, key.exponent1, key.exponent2,
    key.coefficient])

def publicBytes : List UInt8 :=
  Der.writeNaturals [other.modulus, other.exponent]

def publicPem : List UInt8 :=
  Pem.write "RSA PUBLIC KEY" publicBytes

def keys (secret : List UInt8) : KeyMaterial :=
  ⟨secret, some privatePem, some publicPem, none⟩

def codec (secret : List UInt8) (settings : CodecSettings) : Codec :=
  ⟨.rsa key, [.ofKey "rs256" (.rsa publicBytes), .secret secret], settings⟩

theorem readPair : SigningKey.readPair privatePem publicPem = .ok (.rsa key) := by
  decide +kernel

theorem rsaKey?_publicPem : Pem.rsaKey? publicPem = some publicBytes := by
  decide +kernel

theorem publicKey?_publicPem : publicKey? publicPem = some other := by
  decide +kernel

variable {secret : List UInt8}

theorem made (long : minSecretLength ≤ secret.length) (settings : CodecSettings) :
    Codec.make (keys secret) settings = .ok (codec secret settings) :=
  Codec.make_of_pair settings long rfl rfl rfl readPair rsaKey?_publicPem

/-- No number from `d` on divides `p` up to the root of `p`, which is reached within the fuel. -/
def hasNoDivisorFrom : Nat → Nat → Nat → Bool
  | 0, _, _ => false
  | fuel + 1, d, p => p.blt (d * d) || !(p % d).beq 0 && hasNoDivisorFrom fuel (d + 1) p

theorem not_dvd_of_hasNoDivisorFrom {fuel d p : Nat} (none : hasNoDivisorFrom fuel d p = true)
    {m : Nat} (least : d ≤ m) (small : m * m ≤ p) : ¬ m ∣ p := by
  induction fuel generalizing d with
  | zero => cases none
  | succ fuel ih =>
    rw [hasNoDivisorFrom, Bool.or_eq_true, Nat.blt_eq, Bool.and_eq_true, Bool.not_eq_true'] at none
    rcases none with passed | ⟨apart, later⟩
    · have square := Nat.mul_le_mul least least
      omega
    · by_cases here : m = d
      · rw [here]
        exact fun divides => Nat.ne_of_beq_eq_false apart (Nat.mod_eq_zero_of_dvd divides)
      · apply ih later
        omega

theorem prime_of_hasNoDivisorFrom {fuel p : Nat} (least : 2 ≤ p)
    (none : hasNoDivisorFrom fuel 2 p = true) : p.Prime := by
  rw [Nat.prime_def_le_sqrt]
  exact ⟨least, fun m two root => not_dvd_of_hasNoDivisorFrom none two (Nat.le_sqrt.mp root)⟩

theorem prime_of_mem {p : Nat} (member : p ∈ smallFactors1 ++ smallFactors2) : p.Prime := by
  have checked : ∀ p ∈ smallFactors1 ++ smallFactors2,
      2 ≤ p ∧ hasNoDivisorFrom 9261 2 p = true := by
    decide +kernel
  exact prime_of_hasNoDivisorFrom (checked p member).1 (checked p member).2

/-- The private key is in order. -/
theorem undoes : key.Undoes := by
  have distinct : smallFactors1.Nodup ∧ smallFactors2.Nodup := by
    decide +kernel
  have inverse : ∀ p ∈ smallFactors1 ++ smallFactors2, 12230452673 * 65537 % (p - 1) = 1 := by
    decide +kernel
  constructor
  · apply Crypto.Rsa.pow_modEq_self_prod _ distinct.1
    · intro p member
      exact inverse p (List.mem_append_left _ member)
    · intro p member
      exact prime_of_mem (List.mem_append_left _ member)
  · apply Crypto.Rsa.pow_modEq_self_prod _ distinct.2
    · intro p member
      exact inverse p (List.mem_append_right _ member)
    · intro p member
      exact prime_of_mem (List.mem_append_right _ member)

theorem exists_sign? (secret : List UInt8) (settings : CodecSettings) (message : List UInt8) :
    ∃ signature, (codec secret settings).signer.sign? message = some signature := by
  obtain ⟨signature, signed⟩ :=
    undoes.exists_sign? (SigningKey.isWhole_of_readPair readPair) message
  exact ⟨_, by rw [codec, SigningKey.sign?, signed, Option.map_some]⟩

/-- The codec of the pair does not read what it makes, if the other key does not verify it. -/
theorem exists_error (long : minSecretLength ≤ secret.length) {settings : CodecSettings}
    {token : String} {claims : Claims} (encoded : (codec secret settings).encode claims = .ok token)
    (fails : let message := ((codec secret settings).partsOf claims []).signed
      (key.sign? message).map (other.verify message) = some false)
    (host : Int) (now : Instant) : ∃ e, (codec secret settings).decode host now token = .error e := by
  refine Codec.decode_of_unpaired (made long settings) rfl rfl rfl publicKey?_publicPem encoded
    (fun signature signed => ?_) host now
  have same : ((codec secret settings).partsOf claims []).signed =
    ((codec secret settings).partsOf claims signature).signed := rfl
  dsimp only at fails
  rw [same, signed] at fails
  exact Option.some.inj fails

end Unpaired

end SessionTokens
