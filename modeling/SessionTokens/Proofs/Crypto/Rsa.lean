import Mathlib.FieldTheory.Finite.Basic
import SessionTokens.Key.RsaKey

set_option autoImplicit false

namespace SessionTokens.Crypto

theorem Sha256.length_bigEndian (k n : Nat) : (bigEndian k n).length = k := by
  induction k with
  | zero => rfl
  | succ k ih => rw [bigEndian, List.length_cons, ih]

namespace Rsa

open Sha256

theorem foldl_bytes (bytes : List UInt8) (start : Nat) :
    bytes.foldl (fun n b => n * 256 + b.toNat) start =
      start * 256 ^ bytes.length + natOfBytes bytes := by
  unfold natOfBytes
  induction bytes generalizing start with
  | nil => simp
  | cons b rest ih =>
    simp only [List.foldl_cons, List.length_cons]
    rw [ih (start * 256 + b.toNat), ih (0 * 256 + b.toNat), Nat.pow_succ]
    ring

theorem natOfBytes_cons (b : UInt8) (rest : List UInt8) :
    natOfBytes (b :: rest) = b.toNat * 256 ^ rest.length + natOfBytes rest := by
  rw [natOfBytes, List.foldl_cons, foldl_bytes, Nat.zero_mul, Nat.zero_add]

theorem natOfBytes_lt (bytes : List UInt8) : natOfBytes bytes < 256 ^ bytes.length := by
  induction bytes with
  | nil => exact Nat.one_pos
  | cons b rest ih =>
    have digit : b.toNat ≤ 255 := Nat.le_of_lt_succ b.toNat_lt
    have scaled := Nat.mul_le_mul_right (256 ^ rest.length) digit
    rw [natOfBytes_cons, List.length_cons, Nat.pow_succ]
    omega

/-- A number is that of its bytes, if they are enough. -/
theorem natOfBytes_bigEndian {k n : Nat} (enough : n < 256 ^ k) :
    natOfBytes (bigEndian k n) = n := by
  suffices reduced : natOfBytes (bigEndian k n) = n % 256 ^ k by
    rw [reduced, Nat.mod_eq_of_lt enough]
  clear enough
  induction k with
  | zero => exact (Nat.mod_one n).symm
  | succ k ih =>
    have digit : (UInt8.ofNat (n / 256 ^ k)).toNat = n / 256 ^ k % 256 := rfl
    rw [bigEndian, natOfBytes_cons, length_bigEndian, ih, digit, Nat.pow_succ, Nat.mod_mul,
      Nat.mul_comm, Nat.add_comm]

/-- The block that is signed begins with a zero, so it is small beside a modulus of its size. -/
theorem natOfBytes_paddedDigest_lt {size : Nat} (roomy : 54 ≤ size) (message : List UInt8) :
    natOfBytes (paddedDigest size message) < 256 ^ (size - 1) := by
  let rest := 1 :: List.replicate (size - 54) 0xff ++ 0 :: digestInfo ++ digest message
  have whole : rest.length = size - 1 := by
    simp only [rest, digestInfo, List.length_cons, List.length_append, List.length_replicate,
      List.length_nil, length_digest]
    omega
  have value : natOfBytes (paddedDigest size message) = natOfBytes rest := by
    change natOfBytes (0 :: rest) = natOfBytes rest
    rw [natOfBytes_cons]
    simp
  rw [value, ← whole]
  exact natOfBytes_lt rest

theorem square_mod_pow (base exponent m : Nat) :
    (base * base % m) ^ exponent % m = base ^ (2 * exponent) % m := by
  rw [← Nat.pow_mod, Nat.pow_mul, Nat.pow_two]

theorem powModFrom_eq {fuel base exponent m acc : Nat} (enough : exponent < 2 ^ fuel)
    (reduced : acc % m = acc) :
    powModFrom fuel base exponent m acc = acc * base ^ exponent % m := by
  induction fuel generalizing base exponent acc with
  | zero =>
    obtain rfl : exponent = 0 := by
      rw [Nat.pow_zero] at enough
      omega
    rw [powModFrom, Nat.pow_zero, Nat.mul_one, reduced]
  | succ fuel ih =>
    rw [powModFrom]
    by_cases done : exponent = 0
    · rw [if_pos (beq_iff_eq.mpr done), done, Nat.pow_zero, Nat.mul_one, reduced]
    · have half : exponent / 2 < 2 ^ fuel := by
        rw [Nat.pow_succ] at enough
        omega
      rw [if_neg (mt beq_iff_eq.mp done)]
      by_cases odd : exponent % 2 = 1
      · have parts : exponent = (2 * (exponent / 2)).succ := by omega
        rw [if_pos (beq_iff_eq.mpr odd), ih half (Nat.mod_mod _ _), Nat.mul_mod, square_mod_pow,
          ← Nat.mul_mod, Nat.mod_mul_mod, Nat.mul_assoc, ← Nat.pow_succ', ← parts]
      · have parts : exponent = 2 * (exponent / 2) := by omega
        rw [if_neg (mt beq_iff_eq.mp odd), ih half reduced, Nat.mul_mod, square_mod_pow,
          ← Nat.mul_mod, ← parts]

theorem powMod_eq (base exponent m : Nat) : powMod base exponent m = base ^ exponent % m := by
  rw [powMod, powModFrom_eq Nat.lt_log2_self (Nat.mod_mod _ _), Nat.mod_mul_mod, Nat.one_mul,
    ← Nat.pow_mod]

/-- Exponents that undo each other modulo one less than a prime do so modulo the prime. -/
theorem pow_modEq_self {p a : Nat} (prime : p.Prime) (inverse : a % (p - 1) = 1) (m : Nat) :
    m ^ a ≡ m [MOD p] := by
  have positive : 0 < a := by
    rw [Nat.pos_iff_ne_zero]
    rintro rfl
    rw [Nat.zero_mod] at inverse
    cases inverse
  by_cases divides : p ∣ m
  · have base : m ≡ 0 [MOD p] := Nat.modEq_zero_iff_dvd.mpr divides
    have power : m ^ a ≡ 0 [MOD p] :=
      Nat.modEq_zero_iff_dvd.mpr (divides.trans (dvd_pow_self m positive.ne'))
    exact power.trans base.symm
  · have coprime : m.Coprime p := (prime.coprime_iff_not_dvd.mpr divides).symm
    have fermat : m ^ (p - 1) ≡ 1 [MOD p] := by
      rw [← Nat.totient_prime prime]
      exact Nat.ModEq.pow_totient coprime
    have parts := Nat.div_add_mod a (p - 1)
    rw [inverse] at parts
    calc m ^ a = (m ^ (p - 1)) ^ (a / (p - 1)) * m := by
          rw [← Nat.pow_mul, ← Nat.pow_succ, Nat.succ_eq_add_one, parts]
      _ ≡ 1 ^ (a / (p - 1)) * m [MOD p] := (fermat.pow _).mul_right m
      _ = m := by rw [Nat.one_pow, Nat.one_mul]

theorem pow_modEq_self_prod {ps : List Nat} {a : Nat} (primes : ∀ p ∈ ps, p.Prime)
    (distinct : ps.Nodup) (inverse : ∀ p ∈ ps, a % (p - 1) = 1) (m : Nat) :
    m ^ a ≡ m [MOD ps.prod] := by
  induction ps with
  | nil => exact Nat.modEq_one
  | cons p ps ih =>
    rw [List.forall_mem_cons] at primes inverse
    rw [List.nodup_cons] at distinct
    have apart : p.Coprime ps.prod := by
      apply Nat.coprime_list_prod_right_iff.mpr
      intro q member
      rw [Nat.coprime_primes primes.1 (primes.2 q member)]
      rintro rfl
      exact distinct.1 member
    have first := pow_modEq_self primes.1 inverse.1 m
    have rest := ih primes.2 distinct.2 inverse.2
    rw [List.prod_cons]
    exact (Nat.modEq_and_modEq_iff_modEq_mul apart).mp ⟨first, rest⟩

/-- The number that is `s1` modulo one prime and `s2` modulo the other. -/
def combine (k : PrivateKey) (s1 s2 : Nat) : Nat :=
  s2 + (s1 + k.prime1 - s2 % k.prime1) * k.coefficient % k.prime1 * k.prime2

namespace PrivateKey

/-- What is checked of a key before it is used: the modulus is the product of the two primes, as
they are called, and long enough, and the coefficient inverts the second modulo the first. -/
structure IsWhole (k : PrivateKey) : Prop where
  modulus : k.prime1 * k.prime2 = k.toPublic.modulus
  coefficient : k.coefficient * k.prime2 ≡ 1 [MOD k.prime1]
  roomy : 54 ≤ k.toPublic.size
  least : 256 ^ (k.toPublic.size - 1) ≤ k.toPublic.modulus
  greatest : k.toPublic.modulus < 256 ^ k.toPublic.size

/-- What is meant to hold of a key and is not checked: the primes are prime, and each exponent
undoes the public one. -/
structure IsGenuine (k : PrivateKey) : Prop where
  prime1 : k.prime1.Prime
  prime2 : k.prime2.Prime
  inverse1 : k.exponent1 * k.toPublic.exponent % (k.prime1 - 1) = 1
  inverse2 : k.exponent2 * k.toPublic.exponent % (k.prime2 - 1) = 1

variable {k : PrivateKey} {s1 s2 m : Nat}

theorem combine_modEq2 : combine k s1 s2 ≡ s2 [MOD k.prime2] :=
  Nat.add_mul_mod_self_right _ _ _

theorem combine_modEq1 (coefficient : k.coefficient * k.prime2 ≡ 1 [MOD k.prime1])
    (positive : 0 < k.prime1) : combine k s1 s2 ≡ s1 [MOD k.prime1] := by
  have below := Nat.mod_lt s2 positive
  let difference := s1 + k.prime1 - s2 % k.prime1
  have scaled : difference * k.coefficient % k.prime1 * k.prime2 ≡ difference [MOD k.prime1] :=
    calc difference * k.coefficient % k.prime1 * k.prime2
        ≡ difference * k.coefficient * k.prime2 [MOD k.prime1] := (Nat.mod_modEq _ _).mul_right _
      _ = difference * (k.coefficient * k.prime2) := Nat.mul_assoc _ _ _
      _ ≡ difference * 1 [MOD k.prime1] := coefficient.mul_left _
      _ = difference := Nat.mul_one _
  calc combine k s1 s2 ≡ s2 % k.prime1 + difference [MOD k.prime1] :=
        (Nat.mod_modEq _ _).symm.add scaled
    _ = s1 + k.prime1 := by omega
    _ ≡ s1 [MOD k.prime1] := Nat.add_mod_right _ _

theorem combine_lt (below : s2 < k.prime2) (positive : 0 < k.prime1) :
    combine k s1 s2 < k.prime1 * k.prime2 := by
  rw [combine]
  generalize (s1 + k.prime1 - s2 % k.prime1) * k.coefficient = product
  have bounded := Nat.mod_lt product positive
  have scaled := Nat.mul_le_mul_right k.prime2 (Nat.succ_le_of_lt bounded)
  rw [Nat.succ_mul] at scaled
  omega

/-- Each exponent undoes the public one, for all numbers. -/
structure Undoes (k : PrivateKey) : Prop where
  first : ∀ m, m ^ (k.exponent1 * k.toPublic.exponent) ≡ m [MOD k.prime1]
  second : ∀ m, m ^ (k.exponent2 * k.toPublic.exponent) ≡ m [MOD k.prime2]

theorem IsGenuine.undoes (genuine : k.IsGenuine) : k.Undoes :=
  ⟨pow_modEq_self genuine.prime1 genuine.inverse1, pow_modEq_self genuine.prime2 genuine.inverse2⟩

theorem IsWhole.pos (whole : k.IsWhole) : 0 < k.prime1 ∧ 0 < k.prime2 := by
  have positive : 0 < k.prime1 * k.prime2 := by
    rw [whole.modulus]
    exact (Nat.pow_pos (by decide)).trans_le whole.least
  exact ⟨Nat.pos_of_mul_pos_right positive, Nat.pos_of_mul_pos_left positive⟩

/-- Then the number for a message gives the message back under the public exponent. -/
theorem Undoes.pow_combine (undoes : k.Undoes) (whole : k.IsWhole)
    (small : m < k.toPublic.modulus) :
    combine k (m ^ k.exponent1 % k.prime1) (m ^ k.exponent2 % k.prime2) ^ k.toPublic.exponent %
      k.toPublic.modulus = m := by
  let s := combine k (m ^ k.exponent1 % k.prime1) (m ^ k.exponent2 % k.prime2)
  have power1 : s ^ k.toPublic.exponent ≡ m [MOD k.prime1] :=
    calc s ^ k.toPublic.exponent ≡ (m ^ k.exponent1) ^ k.toPublic.exponent [MOD k.prime1] :=
          ((combine_modEq1 whole.coefficient whole.pos.1).trans (Nat.mod_modEq _ _)).pow _
      _ = m ^ (k.exponent1 * k.toPublic.exponent) := (Nat.pow_mul _ _ _).symm
      _ ≡ m [MOD k.prime1] := undoes.first m
  have power2 : s ^ k.toPublic.exponent ≡ m [MOD k.prime2] :=
    calc s ^ k.toPublic.exponent ≡ (m ^ k.exponent2) ^ k.toPublic.exponent [MOD k.prime2] :=
          (combine_modEq2.trans (Nat.mod_modEq _ _)).pow _
      _ = m ^ (k.exponent2 * k.toPublic.exponent) := (Nat.pow_mul _ _ _).symm
      _ ≡ m [MOD k.prime2] := undoes.second m
  have apart : k.prime1.Coprime k.prime2 := by
    have inverts := whole.coefficient
    rw [Nat.mul_comm] at inverts
    exact (Nat.coprime_of_mul_modEq_one k.coefficient inverts).symm
  have both := (Nat.modEq_and_modEq_iff_modEq_mul apart).mp ⟨power1, power2⟩
  rw [whole.modulus] at both
  exact Eq.trans both (Nat.mod_eq_of_lt small)

/-- Such a key signs every message. -/
theorem Undoes.exists_sign? (undoes : k.Undoes) (whole : k.IsWhole) (message : List UInt8) :
    ∃ signature, k.sign? message = some signature := by
  let size := k.toPublic.size
  let m := natOfBytes (paddedDigest size message)
  let s := combine k (m ^ k.exponent1 % k.prime1) (m ^ k.exponent2 % k.prime2)
  have small : m < k.toPublic.modulus :=
    (natOfBytes_paddedDigest_lt whole.roomy message).trans_le whole.least
  have below : s < k.toPublic.modulus := by
    rw [← whole.modulus]
    exact combine_lt (Nat.mod_lt _ whole.pos.2) whole.pos.1
  have value : natOfBytes (bigEndian size s) = s :=
    natOfBytes_bigEndian (below.trans whole.greatest)
  have verifies : k.toPublic.verify message (bigEndian size s) = true := by
    have back : powMod s k.toPublic.exponent k.toPublic.modulus = m := by
      rw [powMod_eq]
      exact undoes.pow_combine whole small
    simp only [PublicKey.verify, length_bigEndian, value, back, size, m, beq_self_eq_true,
      decide_eq_true below, Bool.and_true]
  refine ⟨bigEndian size s, ?_⟩
  rw [sign?]
  simp only [powMod_eq]
  exact if_pos verifies

theorem IsGenuine.exists_sign? (genuine : k.IsGenuine) (whole : k.IsWhole) (message : List UInt8) :
    ∃ signature, k.sign? message = some signature :=
  genuine.undoes.exists_sign? whole message

end PrivateKey

theorem two_pow_le_of_bitLength {n : Nat} (positive : n ≠ 0) : 2 ^ (bitLength n - 1) ≤ n := by
  rw [bitLength, if_neg (mt beq_iff_eq.mp positive), Nat.add_sub_cancel]
  exact Nat.log2_self_le positive

theorem lt_two_pow_bitLength {n : Nat} (positive : n ≠ 0) : n < 2 ^ bitLength n := by
  rw [bitLength, if_neg (mt beq_iff_eq.mp positive)]
  exact Nat.lt_log2_self

end Rsa

end SessionTokens.Crypto

namespace SessionTokens.RsaKey

open Crypto Rsa

theorem isWhole_of_checks {k : PrivateKey} {privateExponent : Nat}
    (acceptable : isAcceptable 2048 4096 65537 k.toPublic = true)
    (consistent : isConsistent k privateExponent = true) : k.IsWhole := by
  simp only [isAcceptable, isConsistent, Bool.and_eq_true, beq_iff_eq, decide_eq_true_eq] at *
  obtain ⟨⟨⟨⟨⟨odd, long⟩, -⟩, -⟩, -⟩, -⟩ := acceptable
  obtain ⟨⟨⟨⟨⟨⟨⟨⟨⟨⟨⟨⟨whole, modulus⟩, -⟩, -⟩, -⟩, -⟩, -⟩, -⟩, -⟩, -⟩, -⟩, -⟩, inverts⟩ := consistent
  have positive : k.toPublic.modulus ≠ 0 := by omega
  have bits : bitLength k.toPublic.modulus = 8 * k.toPublic.size := by
    rw [PublicKey.size]
    omega
  have bytes (n : Nat) : 256 ^ n = 2 ^ (8 * n) := by rw [Nat.pow_mul]
  refine ⟨modulus, ?_, by omega, ?_, ?_⟩
  · exact (Nat.mod_mod _ _).symm.trans (congrArg (· % k.prime1) inverts)
  · have least := two_pow_le_of_bitLength positive
    rw [bits] at least
    rw [bytes]
    exact (Nat.pow_le_pow_right Nat.two_pos (by omega)).trans least
  · rw [bytes, ← bits]
    exact lt_two_pow_bitLength positive

/-- A key that is read from a file is whole. -/
theorem isWhole_of_readPrivate? {bytes : List UInt8} {k : PrivateKey}
    (read : readPrivate? bytes = some k) : k.IsWhole := by
  simp only [readPrivate?, Option.bind_eq_bind, Option.bind_eq_some_iff] at read
  obtain ⟨_, -, _, -, _, -, _, -, _, -, _, -, _, -, _, -, _, -, _, -, checks⟩ := read
  split at checks
  · rename_i passed
    cases checks
    simp only [Bool.and_eq_true] at passed
    exact isWhole_of_checks passed.1.2 passed.2
  · cases checks

end SessionTokens.RsaKey
