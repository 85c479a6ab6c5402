import SessionTokens.Password.Phc
import SessionTokens.Proofs.Json.Spelled
import SessionTokens.Proofs.Text.Base64
import SessionTokens.Proofs.Text.Split

set_option autoImplicit false

namespace SessionTokens

open Text

namespace Phc

/-- A character of one byte that parts nothing. -/
structure IsInner (c : Char) : Prop where
  dollar : c ≠ '$'
  equals : c ≠ '='
  comma : c ≠ ','
  small : c.toNat < 128

theorem isInner_of_isValueChar {c : Char} (valued : isValueChar c = true) : IsInner c := by
  have small : c.toNat < 128 := by
    have ranges : c.isAlphanum = (decide (c.val ≥ 65 ∧ c.val ≤ 90) ||
      c.val ≥ 97 && c.val ≤ 122 || c.val ≥ 48 && c.val ≤ 57) := rfl
    simp only [isValueChar, ranges, Bool.or_eq_true, Bool.and_eq_true, decide_eq_true_eq,
      beq_iff_eq, UInt32.le_iff_toNat_le, ge_iff_le] at valued
    change c.val.toNat < 128
    rcases valued with ((((((⟨-, bound⟩ | ⟨-, bound⟩) | ⟨-, bound⟩) | rfl) | rfl) | rfl) | rfl)
    all_goals first | decide | exact Nat.lt_of_le_of_lt bound (by decide)
  refine ⟨?_, ?_, ?_, small⟩ <;> rintro rfl <;> cases valued

theorem isValueChar_of_isNameChar {c : Char} (named : isNameChar c = true) :
    isValueChar c = true := by
  have kinds : c.isAlphanum = (c.isUpper || c.isLower || c.isDigit) := rfl
  simp only [isNameChar, Bool.or_eq_true] at named
  simp only [isValueChar, kinds, Bool.or_eq_true]
  rcases named with (lower | digit) | hyphen
  · exact Or.inl (Or.inl (Or.inl (Or.inl (Or.inl (Or.inr lower)))))
  · exact Or.inl (Or.inl (Or.inl (Or.inl (Or.inr digit))))
  · exact Or.inr hyphen

theorem isValueChar_of_isDigit {c : Char} (digit : c.isDigit = true) : isValueChar c = true := by
  simp only [isValueChar, Char.isAlphanum, digit, Bool.or_true, Bool.true_or]

theorem isInner_of_isName {s : List Char} (named : isName s = true) : ∀ c ∈ s, IsInner c := by
  intro c inside
  simp only [isName, Bool.and_eq_true] at named
  exact isInner_of_isValueChar (isValueChar_of_isNameChar (List.all_eq_true.mp named.2 c inside))

theorem isInner_of_isValue {s : List Char} (valued : isValue s = true) : ∀ c ∈ s, IsInner c := by
  intro c inside
  simp only [isValue, Bool.and_eq_true] at valued
  exact isInner_of_isValueChar (List.all_eq_true.mp valued.2 c inside)

theorem isDigit_of_mem_toDigits {n : Nat} : ∀ c ∈ Nat.toDigits 10 n, c.isDigit = true :=
  fun _ inside => Nat.isDigit_of_mem_toDigits (by decide) (by decide) inside

theorem length_toDigits_le {n : Nat} (small : n < 2 ^ 32) : (Nat.toDigits 10 n).length ≤ 10 :=
  (Nat.length_toDigits_le_iff (by decide) (by decide)).mpr (by omega)

theorem isValue_toDigits {n : Nat} (small : n < 2 ^ 32) : isValue (Nat.toDigits 10 n) = true := by
  have short := length_toDigits_le small
  rw [isValue, Bool.and_eq_true, decide_eq_true_eq, List.all_eq_true]
  exact ⟨by omega, fun c inside => isValueChar_of_isDigit (isDigit_of_mem_toDigits c inside)⟩

/-- A number of 32 bits is written without a leading zero. -/
theorem decimal?_toDigits {n : Nat} (small : n < 2 ^ 32) :
    decimal? (Nat.toDigits 10 n) = some n := by
  have filled : (Nat.toDigits 10 n).isEmpty = false :=
    List.isEmpty_eq_false_iff.mpr (List.ne_nil_of_length_pos Nat.length_toDigits_pos)
  have digits : (Nat.toDigits 10 n).all Char.isDigit = true :=
    List.all_eq_true.mpr isDigit_of_mem_toDigits
  have leading : ((Nat.toDigits 10 n).head? == some '0' && 1 < (Nat.toDigits 10 n).length) =
      false := by
    rcases Nat.eq_zero_or_pos n with rfl | positive
    · decide
    · obtain ⟨d, rest, written, nonzero⟩ := Json.exists_head_toDigits positive
      obtain ⟨c, more, whole, rfl, -⟩ := List.map_eq_cons_iff.mp written
      have other : c ≠ '0' := by
        rintro rfl
        exact nonzero rfl
      rw [whole, List.head?_cons, Option.some_beq_some, beq_eq_false_iff_ne.mpr other,
        Bool.false_and]
  have value := Json.foldl_digitValues n
  rw [Json.digitValues, List.foldl_map] at value
  rw [decimal?, filled, digits, leading, if_neg (by decide)]
  dsimp only
  rw [value, if_pos small]

/-- The parameters are written within bounds, by names and values of their form. -/
structure AreWritable (ps : List (List Char × List Char)) : Prop where
  formed : ∀ p ∈ ps, isName p.1 = true ∧ isValue p.2 = true
  filled : ps ≠ []
  short : (writeParameters ps).length ≤ 127

theorem parameter?_write {name value : List Char} (named : isName name = true)
    (valued : isValue value = true) : parameter? (name ++ '=' :: value) = some (name, value) := by
  have before : '=' ∉ name := fun inside => (isInner_of_isName named _ inside).equals rfl
  have after : '=' ∉ value := fun inside => (isInner_of_isValue valued _ inside).equals rfl
  rw [parameter?, split_append before, split_of_not_mem after]
  dsimp only
  rw [named, valued]
  rfl

theorem not_mem_parameter {name value : List Char} {c : Char} (named : isName name = true)
    (valued : isValue value = true) (other : ∀ d, IsInner d → d ≠ c) (sign : '=' ≠ c) :
    c ∉ name ++ '=' :: value := by
  rw [List.mem_append, List.mem_cons, not_or, not_or]
  exact ⟨fun inside => other c (isInner_of_isName named c inside) rfl, Ne.symm sign,
    fun inside => other c (isInner_of_isValue valued c inside) rfl⟩

theorem mapM_split_writeParameters {ps : List (List Char × List Char)}
    (formed : ∀ p ∈ ps, isName p.1 = true ∧ isValue p.2 = true) (filled : ps ≠ []) :
    (split ',' (writeParameters ps)).mapM parameter? = some ps := by
  induction ps with
  | nil => exact absurd rfl filled
  | cons p rest ih =>
    rw [List.forall_mem_cons] at formed
    obtain ⟨⟨named, valued⟩, later⟩ := formed
    have unparted : ',' ∉ p.1 ++ '=' :: p.2 :=
      not_mem_parameter named valued (fun d inner => inner.comma) (by decide)
    cases rest with
    | nil =>
      rw [writeParameters, split_of_not_mem unparted, List.mapM_cons, List.mapM_nil,
        parameter?_write named valued]
      rfl
    | cons q rest =>
      have shape : writeParameters (p :: q :: rest) =
          (p.1 ++ '=' :: p.2) ++ ',' :: writeParameters (q :: rest) := by
        rw [writeParameters]
        exact List.cons_ne_nil q rest
      rw [shape, split_append unparted, List.mapM_cons, parameter?_write named valued,
        ih later (List.cons_ne_nil q rest)]
      rfl

theorem isInner_or_sign {ps : List (List Char × List Char)}
    (formed : ∀ p ∈ ps, isName p.1 = true ∧ isValue p.2 = true) :
    ∀ c ∈ writeParameters ps, IsInner c ∨ c = '=' ∨ c = ',' := by
  induction ps with
  | nil => exact fun _ inside => absurd inside List.not_mem_nil
  | cons p rest ih =>
    rw [List.forall_mem_cons] at formed
    obtain ⟨⟨named, valued⟩, later⟩ := formed
    have first : ∀ c ∈ p.1 ++ '=' :: p.2, IsInner c ∨ c = '=' ∨ c = ',' := by
      intro c inside
      rcases List.mem_append.mp inside with name | value
      · exact Or.inl (isInner_of_isName named c name)
      · rcases List.mem_cons.mp value with rfl | value
        · exact Or.inr (Or.inl rfl)
        · exact Or.inl (isInner_of_isValue valued c value)
    cases rest with
    | nil => exact first
    | cons q rest =>
      intro c inside
      rw [writeParameters] at inside
      · rcases List.mem_append.mp inside with here | there
        · exact first c here
        · rcases List.mem_cons.mp there with rfl | there
          · exact Or.inr (Or.inr rfl)
          · exact ih later c there
      · exact List.cons_ne_nil q rest

theorem parameters?_write {ps : List (List Char × List Char)} (writable : AreWritable ps) :
    parameters? (writeParameters ps) = some ps := by
  have single : ∀ c ∈ writeParameters ps, c.utf8Size = 1 := by
    intro c inside
    rw [Char.utf8Size_eq_one_iff, UInt32.le_iff_toNat_le]
    rcases isInner_or_sign writable.formed c inside with inner | rfl | rfl
    · exact Nat.le_of_lt_succ inner.small
    · decide
    · decide
  have bytes : ((writeParameters ps).map Char.utf8Size).sum = (writeParameters ps).length := by
    rw [List.map_congr_left single, List.map_const', List.sum_replicate_nat, Nat.mul_one]
  rw [parameters?, bytes, if_pos writable.short]
  exact mapM_split_writeParameters writable.formed writable.filled

theorem takeVersion_write {n : Nat} (small : n < 2 ^ 32) (rest : List (List Char)) :
    takeVersion (('v' :: '=' :: Nat.toDigits 10 n) :: rest) = some (some n, rest) := by
  have plain : (Nat.toDigits 10 n).contains ',' = false := by
    rw [← Bool.not_eq_true, List.contains_iff_mem]
    exact fun inside => absurd (isDigit_of_mem_toDigits _ inside) (by decide)
  rw [takeVersion, isVersionField, plain, Bool.not_false, if_pos rfl, List.drop_succ_cons,
    List.drop_succ_cons, List.drop_zero, version?, if_pos (isValue_toDigits small),
    decimal?_toDigits small, Option.map_some]

theorem takeParameters_write {ps : List (List Char × List Char)} (writable : AreWritable ps)
    (rest : List (List Char)) :
    takeParameters (writeParameters ps :: rest) = some (ps, rest) := by
  have parametric : (writeParameters ps).contains '=' = true := by
    rw [List.contains_iff_mem]
    cases ps with
    | nil => exact absurd rfl writable.filled
    | cons p more =>
      have sign : '=' ∈ p.1 ++ '=' :: p.2 := List.mem_append_right _ List.mem_cons_self
      cases more with
      | nil => exact sign
      | cons q more =>
        rw [writeParameters]
        · exact List.mem_append_left _ sign
        · exact List.cons_ne_nil q more
  rw [takeParameters, if_pos parametric, parameters?_write writable, Option.map_some]

theorem hash?_encode {bytes : List UInt8} (least : 10 ≤ bytes.length)
    (greatest : bytes.length ≤ 64) :
    hash? (Base64.encode Base64.standard bytes) = some bytes := by
  rw [hash?, Base64.decode?_encode Base64.standard_isFaithful]
  exact if_pos (by rw [Bool.and_eq_true, decide_eq_true_eq, decide_eq_true_eq]; omega)

/-- All fields are there, and each is of its form. -/
structure IsWritable (p : Phc) : Prop where
  algorithm : isName p.algorithm = true
  version : ∃ n, p.version = some n ∧ n < 2 ^ 32
  parameters : AreWritable p.parameters
  salt : ∃ s, p.salt = some s ∧ 4 ≤ s.length ∧ isValue s = true
  hash : ∃ bytes, p.hash = some bytes ∧ 10 ≤ bytes.length ∧ bytes.length ≤ 64

/-- What is written with all fields is read as it was. -/
theorem read?_write {p : Phc} (writable : p.IsWritable) : read? p.write = some p := by
  obtain ⟨algorithm, version, parameters, salt, hash⟩ := p
  obtain ⟨named, ⟨n, same, small⟩, parametric, ⟨s, same', long, valued⟩,
    ⟨bytes, same'', least, greatest⟩⟩ := writable
  dsimp only at named same parametric same' same''
  subst same same' same''
  have filled : parameters.isEmpty = false := List.isEmpty_eq_false_iff.mpr parametric.filled
  have first : '$' ∉ algorithm := fun inside => (isInner_of_isName named _ inside).dollar rfl
  have second : '$' ∉ 'v' :: '=' :: Nat.toDigits 10 n := by
    rw [List.mem_cons, List.mem_cons, not_or, not_or]
    exact ⟨by decide, by decide, fun inside =>
      (isInner_of_isValue (isValue_toDigits small) _ inside).dollar rfl⟩
  have third : '$' ∉ writeParameters parameters := by
    intro inside
    rcases isInner_or_sign parametric.formed _ inside with inner | sign | sign
    · exact inner.dollar rfl
    · exact absurd sign (by decide)
    · exact absurd sign (by decide)
  have fourth : '$' ∉ s := fun inside => (isInner_of_isValue valued _ inside).dollar rfl
  have fifth : '$' ∉ Base64.encode Base64.standard bytes :=
    Base64.not_mem_encode Base64.standard_isFaithful (by decide) bytes
  have fields : split '$' (write ⟨algorithm, some n, parameters, some s, some bytes⟩) =
      [[], algorithm, 'v' :: '=' :: Nat.toDigits 10 n, writeParameters parameters, s,
        Base64.encode Base64.standard bytes] := by
    have shape : write ⟨algorithm, some n, parameters, some s, some bytes⟩ =
        '$' :: (algorithm ++ '$' :: (('v' :: '=' :: Nat.toDigits 10 n) ++
          '$' :: (writeParameters parameters ++
            '$' :: (s ++ '$' :: Base64.encode Base64.standard bytes)))) := by
      simp only [write, Option.map_some, writeField, filled, Bool.false_eq_true, if_false,
        List.cons_append, List.append_assoc]
    rw [shape, split_separator, split_append first, split_append second, split_append third,
      split_append fourth, split_of_not_mem fifth]
  have salted : salt? s = some s := by
    rw [salt?, valued, Bool.and_true, if_pos (decide_eq_true long)]
  rw [read?, fields]
  dsimp only
  rw [if_pos named, readFields?, takeVersion_write small]
  dsimp only [bind, Option.bind]
  rw [takeParameters_write parametric]
  dsimp only
  rw [takeField, salted]
  dsimp only [Option.map]
  rw [takeField, hash?_encode least greatest]
  rfl

end Phc
end SessionTokens
