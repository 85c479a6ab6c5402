import SessionTokens.Arithmetic

set_option autoImplicit false

/- Finite doubles in exact arithmetic. A double is a sign and a significand below 2⁵³ times a power
of two; `nearest?` rounds a quotient to the nearest double, a half to the even neighbour, and
`shortest` finds the fewest decimal digits that round back. -/
namespace SessionTokens.Json

structure Binary64 where
  negative : Bool
  significand : Nat
  exponent : Int
deriving DecidableEq

namespace Binary64

def zero : Binary64 := ⟨false, 0, -1074⟩

/-- A quotient scaled by a power of two, as numerator and denominator. -/
def scaled (num den : Nat) (exponent : Int) : Nat × Nat :=
  if 0 ≤ exponent then (num * 2 ^ exponent.toNat, den) else (num, den * 2 ^ (-exponent).toNat)

/-- A quotient rounded to the nearest integer, a half to the even one. -/
def roundHalfEven (num den : Nat) : Nat :=
  let q := num / den
  let r := num % den
  if den < 2 * r || (2 * r == den && q % 2 == 1) then q + 1 else q

/-- The exponent at which a positive quotient has a significand of 53 bits, or the least one. -/
def exponentOf (num den : Nat) : Int :=
  let e : Int := (Nat.log2 num : Int) - Nat.log2 den - 53
  let (n, d) := scaled num den (-e)
  max (-1074) (if n / d < 2 ^ 53 then e else e + 1)

/-- The double nearest to a quotient, unless it is too large for one. -/
def nearest? (num den : Nat) : Option Binary64 :=
  if num == 0 then some zero
  else
    let e := exponentOf num den
    let (n, d) := scaled num den (-e)
    let m := roundHalfEven n d
    let (m, e) := if m == 2 ^ 53 then (2 ^ 52, e + 1) else (m, e)
    if 971 < e then none else some ⟨false, m, e⟩

/-- The magnitude as a quotient. -/
def quotient (x : Binary64) : Nat × Nat :=
  scaled x.significand 1 x.exponent

/-- The product of two magnitudes. -/
def mul? (x y : Binary64) : Option Binary64 :=
  nearest? (x.quotient.1 * y.quotient.1) (x.quotient.2 * y.quotient.2)

/-- The quotient of two magnitudes, the second not zero. -/
def div? (x y : Binary64) : Option Binary64 :=
  nearest? (x.quotient.1 * y.quotient.2) (x.quotient.2 * y.quotient.1)

/-- `10 ^ n` as a double, for `n` up to 308. -/
def powerOfTen (n : Nat) : Binary64 :=
  (nearest? (10 ^ n) 1).getD zero

/-- A magnitude times a power of ten. Each factor is rounded; a magnitude that becomes too large
for a double has no result. Below `10 ^ (-308)` the division is made in steps of `10 ^ 308`. -/
def scaleTen? : Nat → Binary64 → Int → Option Binary64
  | 0, x, _ => some x
  | fuel + 1, x, n =>
    if 308 < n then if x.significand == 0 then some x else none
    else if 0 ≤ n then mul? x (powerOfTen n.toNat)
    else if -308 ≤ n then div? x (powerOfTen (-n).toNat)
    else (div? x (powerOfTen 308)).bind fun y => scaleTen? fuel y (n + 308)

/-- A decimal `significand * 10 ^ exponent`. -/
def ofDecimal? (negative : Bool) (significand : Nat) (exponent : Int) : Option Binary64 :=
  ((nearest? significand 1).bind fun x => scaleTen? 4 x exponent).map fun x => { x with negative }

/-- Decimal digits as a whole number and the power of ten that scales it. -/
structure Digits where
  whole : Nat
  exponent : Int

/-- The ends of the interval that rounds to a positive double, in quarters of its unit. -/
def quarterBounds (x : Binary64) : Nat × Nat :=
  let m := 4 * x.significand
  (if x.significand == 2 ^ 52 && x.exponent != -1074 then m - 1 else m - 2, m + 2)

/-- Whether `w * 10 ^ k` rounds to a positive double; a bound counts when the significand is even. -/
def roundsTo (x : Binary64) (k : Int) (w : Nat) : Bool :=
  let (c, u) := scaled (4 * w) 1 (-x.exponent)
  let (c, u) := if 0 ≤ k then (c * 10 ^ k.toNat, u) else (c, u * 10 ^ (-k).toNat)
  let (low, high) := x.quarterBounds
  if x.significand % 2 == 0 then low * u ≤ c && c ≤ high * u else low * u < c && c < high * u

/-- Of the two multiples of `10 ^ k` around a positive double, the nearer one that rounds back. -/
def onGrid? (x : Binary64) (k : Int) : Option Digits :=
  let (n, d) := x.quotient
  let (n, d) := if 0 ≤ k then (n, d * 10 ^ k.toNat) else (n * 10 ^ (-k).toNat, d)
  let near := roundHalfEven n d
  let far := if near == n / d then near + 1 else n / d
  ([near, far].find? (roundsTo x k)).map fun w => ⟨w, k⟩

/-- The exponent of the leading decimal digit of a positive quotient. -/
def leading (num den : Nat) : Int :=
  if den ≤ num then ((Nat.toDigits 10 (num / den)).length : Int) - 1
  else
    let n := (Nat.toDigits 10 (den / num)).length
    if 10 ^ (n - 1) * num == den then -((n : Int) - 1) else -(n : Int)

/-- The first grid, from coarse to fine, on which the double has a point that rounds back. -/
def searchGrid (x : Binary64) : Nat → Int → Digits
  | 0, k => ⟨x.significand, k⟩
  | n + 1, k =>
    match onGrid? x k with
    | some digits => digits
    | none => searchGrid x n (k - 1)

/-- The fewest digits of a positive double. -/
def shortest (x : Binary64) : Digits :=
  let (n, d) := x.quotient
  searchGrid x 18 (leading n d)

/-- The digits without trailing zeros, and the exponent of the last one. -/
def trimZeros : Nat → Nat → Int → Nat × Int
  | 0, w, k => (w, k)
  | n + 1, w, k => if w % 10 == 0 && w != 0 then trimZeros n (w / 10) (k + 1) else (w, k)

end Binary64

end SessionTokens.Json
