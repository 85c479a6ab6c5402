import SessionTokens.Proofs.Time.Calendar
import SessionTokens.Time.Rfc3339

set_option autoImplicit false

/- Instants read back from their text. Each part of the text is read up to the sign after it, and
what the reader takes besides (blanks, short numbers, offsets) is never written. A leap second is
read back at the end of a minute only, so it is left out here. -/
namespace SessionTokens.Rfc3339

open Text Calendar

/-- Nothing that would continue a number. -/
def Stops (rest : List Char) : Prop :=
  ∀ c, rest.head? = some c → c.isDigit = false

theorem stops_cons {c : Char} (sign : c.isDigit = false) (rest : List Char) : Stops (c :: rest) := by
  intro d first
  rw [← Option.some.inj first]
  exact sign

theorem Stops.takeWhile_eq_nil {rest : List Char} (stops : Stops rest) (n : Nat) :
    (rest.take n).takeWhile Char.isDigit = [] := by
  cases n with
  | zero => rfl
  | succ n =>
    cases rest with
    | nil => rfl
    | cons c rest =>
      rw [List.take_succ_cons, List.takeWhile_cons_of_neg]
      rw [stops c rfl]
      exact Bool.false_ne_true

theorem Stops.dropWhile_eq {rest : List Char} (stops : Stops rest) :
    rest.dropWhile Char.isDigit = rest := by
  cases rest with
  | nil => rfl
  | cons c rest =>
    rw [List.dropWhile_cons_of_neg]
    rw [stops c rfl]
    exact Bool.false_ne_true

theorem isDigit_of_mem_padded {width n : Nat} : ∀ c ∈ padded width n, c.isDigit = true := by
  intro c inside
  rcases List.mem_append.mp inside with zero | digit
  · rw [List.eq_of_mem_replicate zero]
    rfl
  · exact Nat.isDigit_of_mem_toDigits (by decide) (by decide) digit

theorem padded_ne_nil (width n : Nat) : padded width n ≠ [] :=
  List.append_ne_nil_of_right_ne_nil _ Nat.toDigits_ne_nil

theorem length_padded {width n : Nat} (positive : 0 < width) (short : n < 10 ^ width) :
    (padded width n).length = width := by
  have digits := (Nat.length_toDigits_le_iff (by decide) positive).mpr short
  rw [padded, List.length_append, List.length_replicate]
  omega

theorem ofDigitChars_padded (width n : Nat) : Nat.ofDigitChars 10 (padded width n) 0 = n := by
  rw [padded, Nat.ofDigitChars_append, Nat.ofDigitChars_replicate_zero, Nat.mul_zero,
    Nat.ofDigitChars_ten_toDigits]

/-- A number is read whole where the limit ends it or a sign does. -/
theorem number?_padded {limit width n : Nat} {rest : List Char}
    (fits : (padded width n).length ≤ limit)
    (ends : (padded width n).length = limit ∨ Stops rest) :
    number? limit (padded width n ++ rest) = some (n, rest) := by
  have behind : ((rest.take (limit - (padded width n).length)).takeWhile Char.isDigit) = [] := by
    rcases ends with full | stops
    · rw [full, Nat.sub_self]
      rfl
    · exact stops.takeWhile_eq_nil _
  have digits : ((padded width n ++ rest).take limit).takeWhile Char.isDigit = padded width n := by
    rw [List.take_append, List.take_of_length_le fits,
      List.takeWhile_append_of_pos isDigit_of_mem_padded, behind, List.append_nil]
  have filled : (padded width n).isEmpty = false :=
    List.isEmpty_eq_false_iff.mpr (padded_ne_nil width n)
  rw [number?, digits, filled, if_neg Bool.false_ne_true, ofDigitChars_padded, List.drop_left]

theorem isBlank_of_isDigit {c : Char} (digit : c.isDigit = true) : isBlank c = false := by
  have bounds : 48 ≤ c.toNat ∧ c.toNat ≤ 57 := by
    rw [Char.isDigit, Bool.and_eq_true, decide_eq_true_eq, decide_eq_true_eq] at digit
    exact digit
  simp only [isBlank, Bool.or_eq_false_iff, Bool.and_eq_false_iff, decide_eq_false_iff_not,
    beq_eq_false_iff_ne]
  omega

theorem trimStart_cons {c : Char} (visible : isBlank c = false) (rest : List Char) :
    trimStart (c :: rest) = c :: rest := by
  rw [trimStart, List.dropWhile_cons_of_neg]
  rw [visible]
  exact Bool.false_ne_true

theorem exists_padded_eq_cons (width n : Nat) :
    ∃ c cs, padded width n = c :: cs ∧ c.isDigit = true := by
  cases written : padded width n with
  | nil => exact absurd written (padded_ne_nil width n)
  | cons c cs => exact ⟨c, cs, rfl, isDigit_of_mem_padded c (written ▸ List.mem_cons_self)⟩

theorem trimStart_padded (width n : Nat) (rest : List Char) :
    trimStart (padded width n ++ rest) = padded width n ++ rest := by
  obtain ⟨c, cs, written, digit⟩ := exists_padded_eq_cons width n
  rw [written, List.cons_append, trimStart_cons (isBlank_of_isDigit digit)]

theorem field?_padded {n : Nat} (short : n < 100) (rest : List Char) :
    field? (padded 2 n ++ rest) = some (n, rest) := by
  have length := length_padded (by decide) (show n < 10 ^ 2 from short)
  rw [field?, trimStart_padded, number?_padded (Nat.le_of_eq length) (Or.inl length)]

theorem separator?_cons {c : Char} (visible : isBlank c = false) (rest : List Char) :
    separator? c (c :: rest) = some rest := by
  rw [separator?, trimStart_cons visible]
  exact if_pos (beq_self_eq_true c)

theorem year?_signed {year : Int} {c : Char} (sign : c = '-' ∧ year < 0 ∨ c = '+' ∧ 0 ≤ year)
    {rest : List Char} (stops : Stops rest) :
    year? (c :: padded 4 year.natAbs ++ rest) = some (year, rest) := by
  have read : number? (padded 4 year.natAbs ++ rest).length (padded 4 year.natAbs ++ rest) =
      some (year.natAbs, rest) :=
    number?_padded (by rw [List.length_append]; omega) (Or.inr stops)
  rcases sign with ⟨rfl, negative⟩ | ⟨rfl, positive⟩
  · rw [List.cons_append, year?, trimStart_cons (by decide)]
    change (number? (padded 4 year.natAbs ++ rest).length (padded 4 year.natAbs ++ rest)).map _ = _
    rw [read, Option.map_some]
    exact congrArg (fun n => some (n, rest)) (by omega)
  · rw [List.cons_append, year?, trimStart_cons (by decide)]
    change (number? (padded 4 year.natAbs ++ rest).length (padded 4 year.natAbs ++ rest)).map _ = _
    rw [read, Option.map_some]
    exact congrArg (fun n => some (n, rest)) (by omega)

theorem year?_unsigned {n : Nat} (short : n < 10000) (rest : List Char) :
    year? (padded 4 n ++ rest) = some ((n : Int), rest) := by
  have length := length_padded (by decide) (show n < 10 ^ 4 from short)
  have read : number? 4 (padded 4 n ++ rest) = some (n, rest) :=
    number?_padded (Nat.le_of_eq length) (Or.inl length)
  obtain ⟨c, cs, written, digit⟩ := exists_padded_eq_cons 4 n
  have unsigned : ∀ d : Char, d.isDigit = false → c ≠ d := by
    rintro d sign rfl
    rw [digit] at sign
    cases sign
  rw [year?, trimStart_padded]
  rw [written, List.cons_append] at read ⊢
  split
  · rename_i same
    exact absurd (List.cons.inj same).1 (unsigned '-' (by decide))
  · rename_i same
    exact absurd (List.cons.inj same).1 (unsigned '+' (by decide))
  · rw [read, Option.map_some]

theorem year?_writeYear (year : Int) {rest : List Char} (stops : Stops rest) :
    year? (writeYear year ++ rest) = some (year, rest) := by
  unfold writeYear
  split
  · rw [year?_unsigned (by omega), show (year.toNat : Int) = year by omega]
  · split
    · rename_i negative
      exact year?_signed (Or.inl ⟨rfl, negative⟩) stops
    · rename_i positive
      exact year?_signed (Or.inr ⟨rfl, by omega⟩) stops

/-- A fraction of so many digits. -/
theorem fraction?_padded {width n nanos : Nat} (positive : 0 < width) (most : width ≤ 9)
    (short : n < 10 ^ width) (total : n * 10 ^ (9 - width) = nanos) {rest : List Char}
    (stops : Stops rest) : fraction? ('.' :: padded width n ++ rest) = some (nanos, rest) := by
  have length := length_padded positive short
  rw [List.cons_append, fraction?, number?_padded (by omega) (Or.inr stops), Option.map_some]
  dsimp only
  rw [stops.dropWhile_eq, List.length_append, length, Nat.add_sub_cancel, total]

/-- As many digits are written as leave nothing out: none, three, six or nine. -/
theorem fraction?_writeFraction {nanos : Nat} (bound : nanos < 1000000000) (rest : List Char) :
    fraction? (writeFraction nanos ++ 'Z' :: rest) = some (nanos, 'Z' :: rest) := by
  have stops : Stops ('Z' :: rest) := stops_cons (by decide) rest
  unfold writeFraction
  simp only [beq_iff_eq]
  split
  · rename_i none
    rw [none]
    rfl
  split
  · exact fraction?_padded (by decide) (by decide) (by omega) (by omega) stops
  split
  · exact fraction?_padded (by decide) (by decide) (by omega) (by omega) stops
  · exact fraction?_padded (by decide) (by decide) (by omega) (by omega) stops

theorem year_within (t : Instant) :
    -262143 ≤ (Date.ofDays (t.seconds / 86400)).year ∧
      (Date.ofDays (t.seconds / 86400)).year ≤ 262142 := by
  have earliest := t.ge_earliest
  have latest := t.le_latest
  have first : daysBefore (-262143) = -95746130 := by decide
  have last : daysBefore (262142 + 1) = 95745399 := by decide
  apply Date.year_ofDays
  · rw [first, epochDays]
    omega
  · rw [last, epochDays]
    omega

/-- The parts of an instant make it up again. -/
theorem assemble?_parts (t : Instant) :
    assemble? (Date.ofDays (t.seconds / 86400)) ((t.seconds % 86400).toNat / 3600)
      ((t.seconds % 86400).toNat / 60 % 60) ((t.seconds % 86400).toNat % 60) t.nanos 0 = some t := by
  have valid := Date.isValid_ofDays (t.seconds / 86400)
  have days := Date.toDays_ofDays (t.seconds / 86400)
  have year := year_within t
  have earliest := t.ge_earliest
  have latest := t.le_latest
  rw [assemble?, if_pos ⟨valid, year.1, year.2, by omega, by omega, by omega, by decide, by decide⟩]
  dsimp only
  have seconds : (Date.ofDays (t.seconds / 86400)).toDays * 86400 +
      ((t.seconds % 86400).toNat / 3600 : Nat) * 3600 +
      ((t.seconds % 86400).toNat / 60 % 60 : Nat) * 60 +
      ((t.seconds % 86400).toNat % 60 - (t.seconds % 86400).toNat % 60 / 60 : Nat) - 0 =
      t.seconds := by
    rw [days]
    omega
  have nanos : t.nanos + (t.seconds % 86400).toNat % 60 / 60 * 1000000000 = t.nanos := by
    omega
  rw [seconds, nanos, Instant.make?, dif_pos ⟨⟨earliest, latest⟩, t.nanos_lt⟩]

/-- An instant that is no leap second reads back from its text. -/
theorem read?_write {t : Instant} (ordinary : t.nanos < 1000000000) :
    read? (write t) = some t := by
  have valid := Date.isValid_ofDays (t.seconds / 86400)
  obtain ⟨-, month, -, day⟩ := valid
  have longest : ∀ leap, ∀ k < 12, (monthLengths leap).getD k 0 < 100 := by decide
  have days := longest (isLeap (Date.ofDays (t.seconds / 86400)).year)
    ((Date.ofDays (t.seconds / 86400)).month - 1) (by omega)
  have written : write t = writeYear (Date.ofDays (t.seconds / 86400)).year ++
      '-' :: (padded 2 (Date.ofDays (t.seconds / 86400)).month ++
      '-' :: (padded 2 (Date.ofDays (t.seconds / 86400)).day ++
      'T' :: (padded 2 ((t.seconds % 86400).toNat / 3600) ++
      ':' :: (padded 2 ((t.seconds % 86400).toNat / 60 % 60) ++
      ':' :: (padded 2 ((t.seconds % 86400).toNat % 60) ++
      (writeFraction t.nanos ++ ['Z'])))))) := by
    rw [write, if_pos ordinary, Nat.zero_mul, Nat.sub_zero, Nat.add_zero]
    simp only [List.cons_append, List.append_assoc]
  have zone : offset? (trimStart ['Z']) = some (0, []) := rfl
  rw [written, read?, year?_writeYear _ (stops_cons (by decide) _)]
  simp only [Option.bind_eq_bind, Option.bind_some]
  rw [separator?_cons (by decide), Option.bind_some, field?_padded (by omega), Option.bind_some]
  dsimp only
  rw [separator?_cons (by decide), Option.bind_some, field?_padded (by omega), Option.bind_some]
  dsimp only
  rw [timeMark?, if_pos (by decide), Option.bind_some, field?_padded (by omega), Option.bind_some]
  dsimp only
  rw [separator?_cons (by decide), Option.bind_some, field?_padded (by omega), Option.bind_some]
  dsimp only
  rw [separator?_cons (by decide), Option.bind_some, field?_padded (by omega), Option.bind_some]
  dsimp only
  rw [fraction?_writeFraction ordinary, Option.bind_some]
  dsimp only
  rw [zone, Option.bind_some]
  exact assemble?_parts t

end SessionTokens.Rfc3339
