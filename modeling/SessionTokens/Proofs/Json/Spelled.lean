import SessionTokens.Json.Tree
import SessionTokens.Json.Value

set_option autoImplicit false

namespace SessionTokens.Json

open Text

/-- Nothing that would continue a number. -/
def Separate (rest : List Unit?) : Prop :=
  ∀ c, rest.head? = some (some c) → c.isDigit = false ∧ c ≠ '.' ∧ c ≠ 'e' ∧ c ≠ 'E'

theorem separate_nil : Separate [] := by
  intro c here
  cases here

theorem separate_cons {c : Char} (rest : List Unit?)
    (apart : c.isDigit = false ∧ c ≠ '.' ∧ c ≠ 'e' ∧ c ≠ 'E') : Separate (some c :: rest) := by
  intro d here
  obtain rfl := Option.some.inj (Option.some.inj here)
  exact apart

/-- The digits of a number as values. -/
def digitValues (n : Nat) : List Nat :=
  (Nat.toDigits 10 n).map fun c => c.toNat - 48

/-- How a whole number is spelled. -/
def spelling (n : Int) : Spelling :=
  ⟨decide (n < 0), digitValues n.natAbs, none, none⟩

theorem scanDigits_append (cs : List Char) {rest : List Unit?} (digits : ∀ c ∈ cs, c.isDigit = true)
    (separate : Separate rest) :
    scanDigits (cs.map some ++ rest) = (cs.map (fun c => c.toNat - 48), rest) := by
  induction cs with
  | nil =>
    cases rest with
    | nil => rfl
    | cons u rest =>
      cases u with
      | none => rfl
      | some c =>
        have apart := (separate c rfl).1
        simp only [List.map_nil, List.nil_append, scanDigits, apart, Bool.false_eq_true, if_false]
  | cons c cs ih =>
    rw [List.forall_mem_cons] at digits
    simp only [List.map_cons, List.cons_append, scanDigits, digits.1, if_true, ih digits.2]

theorem exists_head_toDigits {n : Nat} (positive : 0 < n) :
    ∃ d rest, digitValues n = d :: rest ∧ d ≠ 0 := by
  induction n using Nat.strongRecOn with
  | ind n ih =>
    unfold digitValues
    by_cases small : n < 10
    · refine ⟨n, [], ?_, by omega⟩
      rw [Nat.toDigits_of_lt_base small, List.map_singleton,
        Nat.toNat_digitChar_sub_48_of_lt_ten small]
    · obtain ⟨d, rest, digits, nonzero⟩ := ih (n / 10) (by omega) (by omega)
      refine ⟨d, rest ++ [((n % 10).digitChar.toNat - 48)], ?_, nonzero⟩
      rw [Nat.toDigits_of_base_le (by omega) (by omega), List.map_append]
      unfold digitValues at digits
      rw [digits]
      rfl

/-- The whole part of a number has no leading zero when it is written. -/
theorem scanWhole_toDigits (n : Nat) {rest : List Unit?} (separate : Separate rest) :
    scanWhole ((Nat.toDigits 10 n).map some ++ rest) = some (digitValues n, rest) := by
  have digits : ∀ c ∈ Nat.toDigits 10 n, c.isDigit = true :=
    fun c member => Nat.isDigit_of_mem_toDigits (by omega) (by omega) member
  unfold scanWhole
  rw [scanDigits_append _ digits separate, ← digitValues]
  by_cases zero : n = 0
  · subst zero
    rfl
  · obtain ⟨d, more, whole, nonzero⟩ := exists_head_toDigits (Nat.pos_of_ne_zero zero)
    rw [whole]
    split
    · rename_i empty
      cases empty
    · rename_i leading
      cases leading
      exact absurd rfl nonzero
    · rename_i same
      cases same
      rfl

theorem scanNumber_toDigits (negative : Bool) (n : Nat) {rest : List Unit?}
    (separate : Separate rest) :
    scanNumber negative ((Nat.toDigits 10 n).map some ++ rest) =
      some (⟨negative, digitValues n, none, none⟩, rest) := by
  unfold scanNumber
  rw [scanWhole_toDigits n separate]
  simp only [Option.bind_eq_bind, Option.bind_some]
  cases rest with
  | nil => rfl
  | cons u rest =>
    cases u with
    | none => rfl
    | some c =>
      obtain ⟨-, point, small, capital⟩ := separate c rfl
      have fraction : scanFraction (some c :: rest) = some (none, some c :: rest) := by
        unfold scanFraction
        split
        · rename_i same
          cases same
          exact absurd rfl point
        · rfl
      rw [fraction, Option.bind_some]
      have mark : (c == 'e' || c == 'E') = false := by
        rw [beq_eq_false_iff_ne.mpr small, beq_eq_false_iff_ne.mpr capital, Bool.or_false]
      simp only [scanExponent, mark, Bool.false_eq_true, if_false, Option.bind_some]

theorem le_foldl_digits (digits : List Nat) (acc : Nat) :
    acc ≤ digits.foldl (fun n d => n * 10 + d) acc := by
  induction digits generalizing acc with
  | nil => exact Nat.le_refl acc
  | cons d digits ih => exact Nat.le_trans (by omega) (ih (acc * 10 + d))

/-- All digits are taken when the whole number fits 64 bits. -/
theorem absorb_eq (digits : List Nat) (acc : Nat)
    (fits : digits.foldl (fun n d => n * 10 + d) acc < 2 ^ 64) :
    absorb acc digits = (digits.foldl (fun n d => n * 10 + d) acc, digits.length) := by
  induction digits generalizing acc with
  | nil => rfl
  | cons d digits ih =>
    rw [List.foldl_cons] at fits
    have bound : acc * 10 + d < 2 ^ 64 := Nat.lt_of_le_of_lt (le_foldl_digits digits _) fits
    rw [absorb, if_pos bound, ih _ fits]
    rfl

theorem foldl_digitValues (n : Nat) : (digitValues n).foldl (fun n d => n * 10 + d) 0 = n := by
  have whole := Nat.ofDigitChars_ten_toDigits (n := n)
  rw [Nat.ofDigitChars_eq_foldl] at whole
  rw [digitValues, List.foldl_map]
  simpa only [Nat.mul_comm, show '0'.toNat = 48 from rfl] using whole

/-- A whole number of 64 bits, with a sign or without, keeps its value. -/
theorem value?_spelling {n : Int} (least : -9223372036854775808 ≤ n)
    (greatest : n < 18446744073709551616) : (spelling n).value? = some (.integer n) := by
  have fits : (digitValues n.natAbs).foldl (fun n d => n * 10 + d) 0 < 2 ^ 64 := by
    rw [foldl_digitValues]
    omega
  have taken := absorb_eq _ _ fits
  rw [foldl_digitValues] at taken
  unfold Spelling.value? spelling
  simp only [taken, Nat.sub_self, beq_self_eq_true, Option.isNone_none, Bool.and_self, if_true]
  by_cases negative : n < 0
  · have nonzero : (n.natAbs != 0) = true := by
      rw [bne_iff_ne]
      omega
    have bound : decide (n.natAbs ≤ 2 ^ 63) = true := by
      rw [decide_eq_true_eq]
      omega
    simp only [negative, decide_true, Bool.not_true, Bool.false_eq_true, if_false, nonzero, bound,
      Bool.and_self, if_true]
    rw [show (-(n.natAbs : Int)) = n by omega]
  · simp only [negative, decide_false, Bool.not_false, if_true]
    rw [show ((n.natAbs : Nat) : Int) = n by omega]

/-- What the reader makes of a written character: a control without a short escape is a number. -/
def pieceOf (c : Char) : Piece :=
  if c.toNat < 32 ∧ c ∉ ['\x08', '\x0c', '\n', '\r', '\t'] then .code c.toNat else .char c

theorem number?_digits : ∀ n < 32, Hex.number? (Hex.digits 4 n) = some n := by
  decide

theorem pieces_plain {c : Char} (rest : List Unit?) (quote : c ≠ '"') (backslash : c ≠ '\\')
    (printed : 32 ≤ c.toNat) :
    pieces (some c :: rest) = (pieces rest).map fun (ps, r) => (.char c :: ps, r) := by
  have printed' : ¬ c.toNat < 32 := by omega
  rw [pieces]
  · simp only [beq_eq_false_iff_ne.mpr backslash, printed', decide_false, Bool.or_self,
      Bool.false_eq_true, if_false]
  · exact quote
  · intro _ _ _ _ _ _ same
    exact backslash same
  · intro _ _ _ same
    exact backslash same

theorem pieces_escape (c : Char) (rest : List Unit?) :
    pieces ((escape c).map some ++ rest) =
      (pieces rest).map fun (ps, r) => (pieceOf c :: ps, r) := by
  unfold escape
  simp only [beq_iff_eq]
  split
  · subst c
    rfl
  split
  · subst c
    rfl
  split
  · subst c
    rfl
  split
  · subst c
    rfl
  split
  · subst c
    rfl
  split
  · subst c
    rfl
  split
  · subst c
    rfl
  rename_i quote backslash back feed line return_ tab
  split
  · rename_i control
    have code := number?_digits _ control
    simp only [Hex.digits] at code
    simp only [Hex.digits, List.map_cons, List.map_nil, List.cons_append, List.nil_append, pieces,
      code]
    rw [pieceOf, if_pos ⟨control, by simp [back, feed, line, return_, tab]⟩]
  · rename_i printed
    rw [List.map_singleton, List.singleton_append,
      pieces_plain rest quote backslash (Nat.le_of_not_lt printed), pieceOf,
      if_neg fun control => printed control.1]

/-- A number below the surrogates stands for itself, whatever comes next. -/
theorem textOf_code {n : Nat} (bound : n < 0xD800) (ps : List Piece) :
    textOf (.code n :: ps) = (textOf ps).map (Char.ofNat n :: ·) := by
  have high : isHigh n = false := by
    rw [isHigh, decide_eq_false (by omega), Bool.false_and]
  have low : isLow n = false := by
    rw [isLow, decide_eq_false (by omega), Bool.false_and]
  cases ps with
  | nil => simp only [textOf, high, low, Bool.or_self, Bool.false_eq_true, if_false]
  | cons p ps =>
    cases p <;>
      simp only [textOf, high, low, Bool.or_self, Bool.false_and, Bool.false_eq_true, if_false]

theorem textOf_pieceOf (s : List Char) : textOf (s.map pieceOf) = some s := by
  induction s with
  | nil => rfl
  | cons c s ih =>
    rw [List.map_cons]
    by_cases coded : c.toNat < 32 ∧ c ∉ ['\x08', '\x0c', '\n', '\r', '\t']
    · have bound : c.toNat < 0xD800 := by omega
      rw [pieceOf, if_pos coded, textOf_code bound, ih, Option.map_some, Char.ofNat_toNat]
    · rw [pieceOf, if_neg coded, textOf, ih]
      rfl

theorem scanString_write (s : String) (rest : List Unit?) :
    scanString ((s.toList.flatMap escape ++ ['"']).map some ++ rest) = some (some s, rest) := by
  have taken : ∀ cs : List Char, pieces ((cs.flatMap escape ++ ['"']).map some ++ rest) =
      some (cs.map pieceOf, rest) := by
    intro cs
    induction cs with
    | nil => rfl
    | cons c cs ih =>
      rw [List.flatMap_cons, List.append_assoc, List.map_append, List.append_assoc, pieces_escape,
        ih]
      rfl
  rw [scanString, taken, Option.map_some]
  dsimp only
  rw [textOf_pieceOf, Option.map_some, String.ofList_toList]

end SessionTokens.Json
