import SessionTokens.Text.Base64

set_option autoImplicit false

namespace SessionTokens.Text.Base64

/-- The characters of the alphabet have back the values they are of. -/
def Alphabet.IsFaithful (a : Alphabet) : Prop :=
  ∀ n < 64, a.value? (a.digit n) = some n

instance (a : Alphabet) : Decidable a.IsFaithful :=
  inferInstanceAs (Decidable (∀ n < 64, _))

theorem urlSafe_isFaithful : urlSafe.IsFaithful := by
  decide

theorem standard_isFaithful : standard.IsFaithful := by
  decide

/-- Bytes in groups of three, as values below 64. -/
def pack : List UInt8 → List Nat
  | [] => []
  | [x] => [x.toNat / 4, x.toNat % 4 * 16]
  | [x, y] =>
    let n := x.toNat * 256 + y.toNat
    [n / 1024, n / 16 % 64, n % 16 * 4]
  | x :: y :: z :: rest =>
    let n := (x.toNat * 256 + y.toNat) * 256 + z.toNat
    n / 262144 :: n / 4096 % 64 :: n / 64 % 64 :: n % 64 :: pack rest

theorem encode_eq_map_pack (a : Alphabet) (bytes : List UInt8) :
    encode a bytes = (pack bytes).map a.digit := by
  induction bytes using pack.induct with
  | case1 => rfl
  | case2 x => rfl
  | case3 x y => rfl
  | case4 x y z rest ih => simp only [encode, pack, List.map_cons, ih]

theorem lt_of_mem_pack (bytes : List UInt8) : ∀ n ∈ pack bytes, n < 64 := by
  induction bytes using pack.induct with
  | case1 => simp [pack]
  | case2 x =>
    have bound := x.toNat_lt
    simp only [pack, List.forall_mem_cons]
    exact ⟨by omega, by omega, by simp⟩
  | case3 x y =>
    have bound := x.toNat_lt
    have bound' := y.toNat_lt
    simp only [pack, List.forall_mem_cons]
    exact ⟨by omega, by omega, by omega, by simp⟩
  | case4 x y z rest ih =>
    have bound := x.toNat_lt
    have bound' := y.toNat_lt
    have bound'' := z.toNat_lt
    simp only [pack, List.forall_mem_cons]
    exact ⟨by omega, by omega, by omega, by omega, ih⟩

theorem unpack_pack (bytes : List UInt8) : unpack (pack bytes) = some bytes := by
  induction bytes using pack.induct with
  | case1 => rfl
  | case2 x =>
    have whole : x.toNat / 4 * 4 + x.toNat % 4 * 16 / 16 = x.toNat := by omega
    have spare : (x.toNat % 4 * 16 % 16 == 0) = true := by simp
    simp only [pack, unpack, spare, if_true, whole, UInt8.ofNat_toNat]
  | case3 x y =>
    have bound := y.toNat_lt
    simp only [pack, unpack]
    obtain ⟨n, value⟩ : ∃ n, n = x.toNat * 256 + y.toNat := ⟨_, rfl⟩
    have first : n / 1024 * 4 + n / 16 % 64 / 16 = x.toNat := by omega
    have second : n / 16 % 64 % 16 * 16 + n % 16 * 4 / 4 = y.toNat := by omega
    have spare : (n % 16 * 4 % 4 == 0) = true := by simp
    rw [← value, spare, if_pos rfl, first, second, UInt8.ofNat_toNat, UInt8.ofNat_toNat]
  | case4 x y z rest ih =>
    have bound := y.toNat_lt
    have bound' := z.toNat_lt
    simp only [pack, unpack, ih, Option.map_some]
    obtain ⟨n, value⟩ : ∃ n, n = (x.toNat * 256 + y.toNat) * 256 + z.toNat := ⟨_, rfl⟩
    have first : n / 262144 * 4 + n / 4096 % 64 / 16 = x.toNat := by omega
    have second : n / 4096 % 64 % 16 * 16 + n / 64 % 64 / 4 = y.toNat := by omega
    have third : n / 64 % 64 % 4 * 64 + n % 64 = z.toNat := by omega
    rw [← value, first, second, third, UInt8.ofNat_toNat, UInt8.ofNat_toNat, UInt8.ofNat_toNat]

theorem mapM_digits {a : Alphabet} (faithful : a.IsFaithful) (ns : List Nat)
    (small : ∀ n ∈ ns, n < 64) : (ns.map a.digit).mapM a.value? = some ns := by
  induction ns with
  | nil => rfl
  | cons n ns ih =>
    rw [List.forall_mem_cons] at small
    simp only [List.map_cons, List.mapM_cons, faithful n small.1, ih small.2]
    rfl

theorem decode?_encode {a : Alphabet} (faithful : a.IsFaithful) (bytes : List UInt8) :
    decode? a (encode a bytes) = some bytes := by
  rw [decode?, encode_eq_map_pack, mapM_digits faithful _ (lt_of_mem_pack bytes), Option.bind_some,
    unpack_pack]

theorem encode_injective {a : Alphabet} (faithful : a.IsFaithful) {bytes bytes' : List UInt8}
    (same : encode a bytes = encode a bytes') : bytes = bytes' := by
  have decoded := congrArg (decode? a) same
  rw [decode?_encode faithful, decode?_encode faithful] at decoded
  exact Option.some.inj decoded

/-- A text with a character of no value is nothing that encoding writes. -/
theorem not_mem_encode {a : Alphabet} (faithful : a.IsFaithful) {c : Char}
    (none : a.value? c = none) (bytes : List UInt8) : c ∉ encode a bytes := by
  rw [encode_eq_map_pack]
  intro member
  obtain ⟨n, inside, rfl⟩ := List.mem_map.mp member
  rw [faithful n (lt_of_mem_pack bytes n inside)] at none
  cases none

theorem dot_not_mem_encode (bytes : List UInt8) : '.' ∉ encode urlSafe bytes :=
  not_mem_encode urlSafe_isFaithful (by decide) bytes

theorem digit_value? {a : Alphabet} {c : Char} {n : Nat} (valued : a.value? c = some n) :
    a.digit n = c ∧ n < 64 := by
  have code : Char.ofNat c.toNat = c := Char.ofNat_toNat c
  unfold Alphabet.value? at valued
  simp only [Bool.and_eq_true, decide_eq_true_eq, beq_iff_eq] at valued
  unfold Alphabet.digit
  split at valued
  · obtain rfl := Option.some.inj valued
    have low : c.toNat - 65 < 26 := by omega
    have back : 65 + (c.toNat - 65) = c.toNat := by omega
    rw [if_pos low, back]
    exact ⟨code, by omega⟩
  split at valued
  · obtain rfl := Option.some.inj valued
    have high : ¬ c.toNat - 71 < 26 := by omega
    have low : c.toNat - 71 < 52 := by omega
    have back : 71 + (c.toNat - 71) = c.toNat := by omega
    rw [if_neg high, if_pos low, back]
    exact ⟨code, by omega⟩
  split at valued
  · obtain rfl := Option.some.inj valued
    have first : ¬ c.toNat + 4 < 26 := by omega
    have second : ¬ c.toNat + 4 < 52 := by omega
    have third : c.toNat + 4 < 62 := by omega
    rw [if_neg first, if_neg second, if_pos third, Nat.add_sub_cancel]
    exact ⟨code, by omega⟩
  split at valued
  · rename_i same
    obtain rfl := Option.some.inj valued
    exact ⟨same.symm, by omega⟩
  split at valued
  · rename_i same
    obtain rfl := Option.some.inj valued
    exact ⟨same.symm, by omega⟩
  · cases valued

theorem digits_of_mapM {a : Alphabet} {s : List Char} {ns : List Nat}
    (valued : s.mapM a.value? = some ns) : ns.map a.digit = s ∧ ∀ n ∈ ns, n < 64 := by
  induction s generalizing ns with
  | nil =>
    obtain rfl := Option.some.inj valued
    exact ⟨rfl, by simp⟩
  | cons c s ih =>
    rw [List.mapM_cons] at valued
    obtain ⟨n, first, more⟩ := Option.bind_eq_some_iff.mp valued
    obtain ⟨rest, others, same⟩ := Option.bind_eq_some_iff.mp more
    obtain rfl := Option.some.inj same
    obtain ⟨digit, small⟩ := digit_value? first
    obtain ⟨digits, smalls⟩ := ih others
    rw [List.map_cons, digit, digits, List.forall_mem_cons]
    exact ⟨rfl, small, smalls⟩

theorem pack_unpack {ns : List Nat} {bytes : List UInt8} (small : ∀ n ∈ ns, n < 64)
    (unpacked : unpack ns = some bytes) : pack bytes = ns := by
  induction ns using unpack.induct generalizing bytes with
  | case1 =>
    obtain rfl := Option.some.inj unpacked
    rfl
  | case2 => cases unpacked
  | case3 p q spare =>
    obtain rfl := Option.some.inj ((if_pos spare).symm.trans unpacked)
    simp only [List.forall_mem_cons] at small
    have whole : p * 4 + q / 16 < 256 := by omega
    have left : q % 16 = 0 := eq_of_beq spare
    have high : (p * 4 + q / 16) / 4 = p := by omega
    have low : (p * 4 + q / 16) % 4 * 16 = q := by omega
    simp only [pack, UInt8.toNat_ofNat_of_lt' whole, high, low]
  | case4 p q spare =>
    rw [unpack, if_neg spare] at unpacked
    cases unpacked
  | case5 p q r spare =>
    obtain rfl := Option.some.inj ((if_pos spare).symm.trans unpacked)
    simp only [List.forall_mem_cons] at small
    have first : p * 4 + q / 16 < 256 := by omega
    have second : q % 16 * 16 + r / 4 < 256 := by omega
    have left : r % 4 = 0 := eq_of_beq spare
    simp only [pack, UInt8.toNat_ofNat_of_lt' first, UInt8.toNat_ofNat_of_lt' second]
    obtain ⟨n, value⟩ : ∃ n, n = (p * 4 + q / 16) * 256 + (q % 16 * 16 + r / 4) := ⟨_, rfl⟩
    have high : n / 1024 = p := by omega
    have middle : n / 16 % 64 = q := by omega
    have low : n % 16 * 4 = r := by omega
    rw [← value, high, middle, low]
  | case6 p q r spare =>
    rw [unpack, if_neg spare] at unpacked
    cases unpacked
  | case7 p q r s rest ih =>
    obtain ⟨more, others, same⟩ := Option.map_eq_some_iff.mp unpacked
    subst same
    simp only [List.forall_mem_cons] at small
    obtain ⟨smallP, smallQ, smallR, smallS, smallRest⟩ := small
    have first : p * 4 + q / 16 < 256 := by omega
    have second : q % 16 * 16 + r / 4 < 256 := by omega
    have third : r % 4 * 64 + s < 256 := by omega
    simp only [pack, UInt8.toNat_ofNat_of_lt' first, UInt8.toNat_ofNat_of_lt' second,
      UInt8.toNat_ofNat_of_lt' third, ih smallRest others]
    obtain ⟨n, value⟩ : ∃ n, n = ((p * 4 + q / 16) * 256 + (q % 16 * 16 + r / 4)) * 256 +
      (r % 4 * 64 + s) := ⟨_, rfl⟩
    have high : n / 262144 = p := by omega
    have upper : n / 4096 % 64 = q := by omega
    have lower : n / 64 % 64 = r := by omega
    have low : n % 64 = s := by omega
    rw [← value, high, upper, lower, low]

/-- Decoding is strict: a text that decodes is the one that encoding writes. -/
theorem encode_decode? {a : Alphabet} {s : List Char} {bytes : List UInt8}
    (decoded : decode? a s = some bytes) : encode a bytes = s := by
  obtain ⟨ns, valued, unpacked⟩ := Option.bind_eq_some_iff.mp decoded
  obtain ⟨digits, small⟩ := digits_of_mapM valued
  rw [encode_eq_map_pack, pack_unpack small unpacked, digits]

end SessionTokens.Text.Base64
