import SessionTokens.Time.Calendar

set_option autoImplicit false

namespace SessionTokens.Calendar

theorem daysBefore_succ (year : Int) :
    daysBefore (year + 1) = daysBefore year + (monthLengths (isLeap year)).sum := by
  have length : ((monthLengths (isLeap year)).sum : Int) = if isLeap year then 366 else 365 := by
    cases isLeap year <;> rfl
  rw [length]
  simp only [daysBefore, isLeap, Bool.and_eq_true, Bool.or_eq_true, beq_iff_eq, bne_iff_ne]
  split <;> omega

theorem daysBefore_mono {year later : Int} (order : year ≤ later) :
    daysBefore year ≤ daysBefore later := by
  unfold daysBefore
  dsimp only
  omega

/-- A year begins less than two days from its share of four centuries. -/
theorem daysBefore_bounds (year : Int) :
    146097 * (year - 1) - 699 ≤ 400 * daysBefore year ∧
      400 * daysBefore year ≤ 146097 * (year - 1) + 396 := by
  unfold daysBefore
  dsimp only
  omega

/-- The year of a day begins no later than the day and ends after it. -/
theorem daysBefore_yearOf (day : Int) :
    daysBefore (yearOf day) ≤ day ∧ day < daysBefore (yearOf day + 1) := by
  have estimate := daysBefore_bounds (day * 400 / 146097 + 1 - 1)
  have after := daysBefore_bounds (day * 400 / 146097 + 1 + 1 + 1)
  unfold yearOf
  dsimp only
  split
  · rename_i early
    rw [Int.sub_add_cancel]
    omega
  split
  · omega
  · omega

/-- The month is the one in which the days run out. -/
theorem monthAndDay_spec (lengths : List Nat) (day first : Nat) (within : day < lengths.sum) :
    ∃ k d, k < lengths.length ∧ d < lengths.getD k 0 ∧ (lengths.take k).sum + d = day ∧
      monthAndDay lengths day first = (first + k, d + 1) := by
  induction lengths generalizing day first with
  | nil => cases within
  | cons length rest ih =>
    rw [List.sum_cons] at within
    by_cases here : day < length
    · exact ⟨0, day, Nat.succ_pos _, here, Nat.zero_add _, by rw [monthAndDay, if_pos here]; rfl⟩
    · obtain ⟨k, d, inside, bound, total, found⟩ := ih (day - length) (first + 1) (by omega)
      refine ⟨k + 1, d, Nat.succ_lt_succ inside, bound, ?_, ?_⟩
      · rw [List.take_succ_cons, List.sum_cons]
        omega
      · rw [monthAndDay, if_neg here, found, Nat.add_assoc, Nat.add_comm 1]

namespace Date

theorem ofDays_spec (n : Int) : (ofDays n).IsValid ∧ (ofDays n).toDays = n := by
  have year := daysBefore_yearOf (n + epochDays)
  have length := daysBefore_succ (yearOf (n + epochDays))
  obtain ⟨k, d, inside, bound, total, found⟩ :=
    monthAndDay_spec (monthLengths (isLeap (yearOf (n + epochDays))))
      (n + epochDays - daysBefore (yearOf (n + epochDays))).toNat 1 (by omega)
  have date : ofDays n = ⟨yearOf (n + epochDays), 1 + k, d + 1⟩ := by
    rw [ofDays]
    dsimp only
    rw [found]
  have twelve : (monthLengths (isLeap (yearOf (n + epochDays)))).length = 12 := rfl
  rw [date, IsValid, toDays, dayOfYear, Nat.add_sub_cancel_left, Nat.add_sub_cancel]
  dsimp only
  refine ⟨⟨by omega, by omega, by omega, bound⟩, ?_⟩
  omega

theorem isValid_ofDays (n : Int) : (ofDays n).IsValid :=
  (ofDays_spec n).1

theorem toDays_ofDays (n : Int) : (ofDays n).toDays = n :=
  (ofDays_spec n).2

/-- A day from the first of one year to the last of another is of a year between them. -/
theorem year_ofDays {n least greatest : Int} (notBefore : daysBefore least ≤ n + epochDays)
    (notAfter : n + epochDays < daysBefore (greatest + 1)) :
    least ≤ (ofDays n).year ∧ (ofDays n).year ≤ greatest := by
  change least ≤ yearOf (n + epochDays) ∧ yearOf (n + epochDays) ≤ greatest
  have year := daysBefore_yearOf (n + epochDays)
  constructor
  · refine Int.not_lt.mp fun earlier => ?_
    have order := daysBefore_mono (show yearOf (n + epochDays) + 1 ≤ least by omega)
    omega
  · refine Int.not_lt.mp fun later => ?_
    have order := daysBefore_mono (show greatest + 1 ≤ yearOf (n + epochDays) by omega)
    omega

end Date

end SessionTokens.Calendar
