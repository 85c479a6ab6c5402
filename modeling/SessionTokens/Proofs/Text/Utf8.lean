import SessionTokens.Text.Utf8

set_option autoImplicit false

namespace SessionTokens.Text.Utf8

theorem toNat_ofNat_of_lt {n : Nat} (bound : n < 256) : (UInt8.ofNat n).toNat = n := by
  rw [UInt8.toNat_ofNat', Nat.mod_eq_of_lt bound]

theorem unitsFrom_cons (p : Option Pending) (b : UInt8) (rest : List UInt8) :
    unitsFrom p (b :: rest) = (advance p b).1 ++ unitsFrom (advance p b).2 rest := by
  cases p <;> rfl

/-- A byte within the bounds that is not the last one. -/
theorem unitsFrom_more {bits low high k n : Nat} (rest : List UInt8) (bound : n < 256)
    (least : low ≤ n) (most : n ≤ high) :
    unitsFrom (some ⟨bits, low, high, k + 1⟩) (UInt8.ofNat n :: rest) =
      unitsFrom (some ⟨bits * 64 + (n - 0x80), 0x80, 0xBF, k⟩) rest := by
  rw [unitsFrom_cons]
  simp only [advance, toNat_ofNat_of_lt bound, least, most, decide_true, Bool.and_self, if_true,
    List.nil_append]

/-- The last byte of a sequence. -/
theorem unitsFrom_last {bits low high n : Nat} (rest : List UInt8) (bound : n < 256)
    (least : low ≤ n) (most : n ≤ high) :
    unitsFrom (some ⟨bits, low, high, 0⟩) (UInt8.ofNat n :: rest) =
      some (Char.ofNat (bits * 64 + (n - 0x80))) :: unitsFrom none rest := by
  rw [unitsFrom_cons]
  simp only [advance, toNat_ofNat_of_lt bound, least, most, decide_true, Bool.and_self, if_true,
    List.singleton_append]

theorem unitsFrom_lead {bits low high k n : Nat} (rest : List UInt8) (bound : n < 256)
    (wide : 0x80 ≤ n) (lead : lead? n = some ⟨bits, low, high, k⟩) :
    unitsFrom none (UInt8.ofNat n :: rest) = unitsFrom (some ⟨bits, low, high, k⟩) rest := by
  rw [unitsFrom_cons]
  have long : ¬ n < 0x80 := by omega
  simp only [advance, start, toNat_ofNat_of_lt bound, long, if_false, lead, List.nil_append]

deriving instance DecidableEq for Lead

theorem lead?_two : ∀ n < 32, 2 ≤ n → lead? (0xC0 + n) = some ⟨n, 0x80, 0xBF, 0⟩ := by
  decide

theorem lead?_three : ∀ n < 16, lead? (0xE0 + n) =
    some ⟨n, if n = 0 then 0xA0 else 0x80, if n = 13 then 0x9F else 0xBF, 1⟩ := by
  decide

theorem lead?_four : ∀ n < 5, lead? (0xF0 + n) =
    some ⟨n, if n = 0 then 0x90 else 0x80, if n = 4 then 0x8F else 0xBF, 2⟩ := by
  decide

/-- Overlong forms, surrogates and numbers that are too large are the ones left out by the bounds of
the second byte. -/
theorem unitsFrom_encodeChar (c : Char) (rest : List UInt8) :
    unitsFrom none (encodeChar c ++ rest) = some c :: unitsFrom none rest := by
  have valid : c.toNat < 0xD800 ∨ (0xDFFF < c.toNat ∧ c.toNat < 0x110000) := c.valid
  have same : Char.ofNat c.toNat = c := Char.ofNat_toNat c
  unfold encodeChar
  dsimp only
  generalize c.toNat = n at valid same
  by_cases one : n < 0x80
  · rw [if_pos one, List.singleton_append, unitsFrom_cons]
    have bound : n < 256 := by omega
    simp only [advance, start, toNat_ofNat_of_lt bound, one, if_true, List.singleton_append, same]
  rw [if_neg one]
  by_cases two : n < 0x800
  · have whole : n / 64 * 64 + (0x80 + n % 64 - 0x80) = n := by omega
    rw [if_pos two, List.cons_append, List.singleton_append,
      unitsFrom_lead _ (by omega) (by omega) (lead?_two (n / 64) (by omega) (by omega)),
      unitsFrom_last _ (by omega) (by omega) (by omega), whole, same]
  rw [if_neg two]
  by_cases three : n < 0x10000
  · have whole :
        (n / 4096 * 64 + (0x80 + n / 64 % 64 - 0x80)) * 64 + (0x80 + n % 64 - 0x80) = n := by
      omega
    rw [if_pos three, List.cons_append, List.cons_append, List.singleton_append,
      unitsFrom_lead _ (by omega) (by omega) (lead?_three (n / 4096) (by omega)),
      unitsFrom_more _ (by omega) (by split <;> omega) (by split <;> omega),
      unitsFrom_last _ (by omega) (by omega) (by omega), whole, same]
  · have whole : ((n / 262144 * 64 + (0x80 + n / 4096 % 64 - 0x80)) * 64 +
        (0x80 + n / 64 % 64 - 0x80)) * 64 + (0x80 + n % 64 - 0x80) = n := by omega
    rw [if_neg three, List.cons_append, List.cons_append, List.cons_append, List.singleton_append,
      unitsFrom_lead _ (by omega) (by omega) (lead?_four (n / 262144) (by omega)),
      unitsFrom_more _ (by omega) (by split <;> omega) (by split <;> omega),
      unitsFrom_more _ (by omega) (by omega) (by omega),
      unitsFrom_last _ (by omega) (by omega) (by omega), whole, same]

theorem units_encode (s : List Char) : units (encode s) = s.map some := by
  induction s with
  | nil => rfl
  | cons c rest ih =>
    rw [encode, List.flatMap_cons, units, unitsFrom_encodeChar, List.map_cons, ← ih]
    rfl

end SessionTokens.Text.Utf8
