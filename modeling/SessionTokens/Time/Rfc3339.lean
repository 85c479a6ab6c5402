import SessionTokens.Text.Blank
import SessionTokens.Time.Calendar
import SessionTokens.Time.Instant

set_option autoImplicit false

/- Instants as text in the manner of RFC 3339. They are written in UTC with the fewest of 0, 3, 6 or
9 digits of the second's fraction that lose nothing. They are read from a wider form: blanks before
each number, short numbers, any offset below a day, fractions of any length. -/
namespace SessionTokens.Rfc3339

open Text Calendar

/-- A number with at least the given count of digits. -/
def padded (width n : Nat) : List Char :=
  let digits := Nat.toDigits 10 n
  List.replicate (width - digits.length) '0' ++ digits

/-- Years outside four digits carry a sign. -/
def writeYear (year : Int) : List Char :=
  if 0 ≤ year ∧ year ≤ 9999 then padded 4 year.toNat
  else (if year < 0 then '-' else '+') :: padded 4 year.natAbs

def writeFraction (nanos : Nat) : List Char :=
  if nanos == 0 then []
  else if nanos % 1000000 == 0 then '.' :: padded 3 (nanos / 1000000)
  else if nanos % 1000 == 0 then '.' :: padded 6 (nanos / 1000)
  else '.' :: padded 9 nanos

def write (t : Instant) : List Char :=
  let date := Date.ofDays (t.seconds / 86400)
  let second := (t.seconds % 86400).toNat
  let leap := if t.nanos < 1000000000 then 0 else 1
  writeYear date.year ++ '-' :: padded 2 date.month ++ '-' :: padded 2 date.day ++
    'T' :: padded 2 (second / 3600) ++ ':' :: padded 2 (second / 60 % 60) ++
    ':' :: padded 2 (second % 60 + leap) ++ writeFraction (t.nanos - leap * 1000000000) ++ ['Z']

/-- One to `limit` digits. -/
def number? (limit : Nat) (s : List Char) : Option (Nat × List Char) :=
  let digits := (s.take limit).takeWhile Char.isDigit
  if digits.isEmpty then none
  else some (Nat.ofDigitChars 10 digits 0, s.drop digits.length)

/-- Blanks and a number of one or two digits. -/
def field? (s : List Char) : Option (Nat × List Char) :=
  number? 2 (trimStart s)

/-- Blanks and a year: up to four digits, or a sign and any number of digits. -/
def year? (s : List Char) : Option (Int × List Char) :=
  match trimStart s with
  | '-' :: rest => (number? rest.length rest).map fun (n, r) => (-(n : Int), r)
  | '+' :: rest => (number? rest.length rest).map fun (n, r) => ((n : Int), r)
  | rest => (number? 4 rest).map fun (n, r) => ((n : Int), r)

/-- Blanks and a separator. -/
def separator? (c : Char) (s : List Char) : Option (List Char) :=
  match trimStart s with
  | x :: rest => if x == c then some rest else none
  | [] => none

/-- The separator between the date and the time. -/
def timeMark? : List Char → Option (List Char)
  | c :: rest => if c == 't' || c == 'T' || c == ' ' then some rest else none
  | [] => none

/-- Nanoseconds of an optional fraction; digits past the ninth are dropped. -/
def fraction? : List Char → Option (Nat × List Char)
  | '.' :: rest =>
    (number? 9 rest).map fun (n, r) =>
      (n * 10 ^ (9 - (rest.length - r.length)), r.dropWhile Char.isDigit)
  | s => some (0, s)

/-- Two digits exactly. -/
def pair? : List Char → Option (Nat × List Char)
  | x :: y :: rest =>
    if x.isDigit && y.isDigit then some (Nat.ofDigitChars 10 [x, y] 0, rest) else none
  | _ => none

/-- Hours and minutes of an offset in seconds. -/
def offsetSize? (s : List Char) : Option (Nat × List Char) := do
  let (hours, s) ← pair? s
  let (minutes, s) ← pair? (s.dropWhile fun c => c == ':' || isBlank c)
  if minutes < 60 then some (hours * 3600 + minutes * 60, s) else none

/-- The offset from UTC in seconds, less than a day either way. -/
def offset? : List Char → Option (Int × List Char)
  | c :: rest =>
    if c == 'Z' || c == 'z' then some (0, rest)
    else if c == '+' then (offsetSize? rest).map fun (n, r) => ((n : Int), r)
    else if c == '-' || c == '−' then (offsetSize? rest).map fun (n, r) => (-(n : Int), r)
    else
      match rest with
      | d :: e :: rest =>
        if c.toLower == 'u' && d.toLower == 't' && e.toLower == 'c' then some (0, rest) else none
      | _ => none
  | [] => none

/-- The instant of a date and time of day at an offset, in a year that instants cover. -/
def assemble? (date : Date) (hour minute second nanos : Nat) (offset : Int) : Option Instant :=
  if date.IsValid ∧ -262143 ≤ date.year ∧ date.year ≤ 262142 ∧ hour < 24 ∧ minute < 60 ∧
      second ≤ 60 ∧ -86400 < offset ∧ offset < 86400 then
    let leap := second / 60
    Instant.make?
      (date.toDays * 86400 + hour * 3600 + minute * 60 + (second - leap : Nat) - offset)
      (nanos + leap * 1000000000)
  else none

def read? (s : List Char) : Option Instant := do
  let (year, s) ← year? s
  let s ← separator? '-' s
  let (month, s) ← field? s
  let s ← separator? '-' s
  let (day, s) ← field? s
  let s ← timeMark? s
  let (hour, s) ← field? s
  let s ← separator? ':' s
  let (minute, s) ← field? s
  let s ← separator? ':' s
  let (second, s) ← field? s
  let (nanos, s) ← fraction? s
  let (offset, s) ← offset? (trimStart s)
  if s.all isBlank then assemble? ⟨year, month, day⟩ hour minute second nanos offset else none

end SessionTokens.Rfc3339
