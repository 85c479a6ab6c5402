import SessionTokens.Arithmetic

set_option autoImplicit false

namespace SessionTokens.Calendar

structure Date where
  year : Int
  month : Nat
  day : Nat
deriving DecidableEq

def isLeap (year : Int) : Bool :=
  year % 4 == 0 && (year % 100 != 0 || year % 400 == 0)

/-- Days from 0001-01-01 to the first of January. -/
def daysBefore (year : Int) : Int :=
  let y := year - 1
  365 * y + y / 4 - y / 100 + y / 400

def monthLengths (leap : Bool) : List Nat :=
  [31, if leap then 29 else 28, 31, 30, 31, 30, 31, 31, 30, 31, 30, 31]

/-- Days from 0001-01-01 to 1970-01-01. -/
def epochDays : Int := 719162

namespace Date

def IsValid (d : Date) : Prop :=
  1 ≤ d.month ∧ d.month ≤ 12 ∧ 1 ≤ d.day ∧ d.day ≤ (monthLengths (isLeap d.year)).getD (d.month - 1) 0

instance (d : Date) : Decidable d.IsValid :=
  inferInstanceAs (Decidable (_ ∧ _ ∧ _ ∧ _))

/-- Days since the first of January. -/
def dayOfYear (d : Date) : Nat :=
  ((monthLengths (isLeap d.year)).take (d.month - 1)).sum + (d.day - 1)

def toDays (d : Date) : Int :=
  daysBefore d.year + d.dayOfYear - epochDays

end Date

/-- The month and day of the month `day` days after the first of the given month. -/
def monthAndDay : List Nat → Nat → Nat → Nat × Nat
  | [], day, month => (month, day + 1)
  | length :: rest, day, month =>
    if day < length then (month, day + 1) else monthAndDay rest (day - length) (month + 1)

/-- The year of a day counted from 0001-01-01. -/
def yearOf (day : Int) : Int :=
  let y := day * 400 / 146097 + 1
  if day < daysBefore y then y - 1
  else if daysBefore (y + 1) ≤ day then y + 1
  else y

def Date.ofDays (n : Int) : Date :=
  let day := n + epochDays
  let year := yearOf day
  let (month, dayOfMonth) := monthAndDay (monthLengths (isLeap year)) (day - daysBefore year).toNat 1
  ⟨year, month, dayOfMonth⟩

example : Date.ofDays 0 = ⟨1970, 1, 1⟩ := by decide
example : Date.toDays ⟨2000, 2, 29⟩ = 11016 := by decide

end SessionTokens.Calendar
