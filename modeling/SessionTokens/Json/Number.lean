import SessionTokens.Json.Binary64

set_option autoImplicit false

namespace SessionTokens.Json

/-- A number as spelled. Digits are values from 0 to 9. -/
structure Spelling where
  negative : Bool
  whole : List Nat
  fraction : Option (List Nat)
  exponent : Option (Bool × List Nat)

inductive Number
  | integer (n : Int)
  | float (x : Binary64)
deriving DecidableEq

/-- Takes digits while the number they make fits 64 bits; gives the number and how many were
taken. -/
def absorb (n : Nat) : List Nat → Nat × Nat
  | [] => (n, 0)
  | d :: rest =>
    if n * 10 + d < 2 ^ 64 then
      let (m, k) := absorb (n * 10 + d) rest
      (m, k + 1)
    else (n, 0)

def ofDigits (digits : List Nat) : Nat :=
  digits.foldl (fun n d => n * 10 + d) 0

namespace Spelling

/-- The signed exponent part. -/
def scale (s : Spelling) : Int :=
  match s.exponent with
  | none => 0
  | some (negative, digits) => if negative then -(ofDigits digits : Int) else ofDigits digits

/-- The value of a spelling. Digits past 64 bits count for their places only. -/
def value? (s : Spelling) : Option Number :=
  let (n, taken) := absorb 0 s.whole
  let dropped := s.whole.length - taken
  if dropped == 0 && s.fraction.isNone && s.exponent.isNone then
    if !s.negative then some (.integer n)
    else if n != 0 && n ≤ 2 ^ 63 then some (.integer (-n))
    else (Binary64.ofDecimal? true n 0).map .float
  else
    let (m, places) := absorb n (s.fraction.getD [])
    (Binary64.ofDecimal? s.negative m ((dropped : Int) - places + s.scale)).map .float

end Spelling

/-- How doubles are written: positionally from `10 ^ (-5)` to below `10 ^ 16`, otherwise with an
exponent. -/
structure FloatFormat where
  least : Int
  beyond : Int

def floatFormat : FloatFormat := ⟨-5, 16⟩

/-- A decimal point after the given count of digits, with zeros where digits are missing. -/
def positional (digits : List Char) (point : Int) : List Char :=
  if point ≤ 0 then '0' :: '.' :: List.replicate (-point).toNat '0' ++ digits
  else if digits.length ≤ point.toNat then
    digits ++ List.replicate (point.toNat - digits.length) '0' ++ ['.', '0']
  else digits.take point.toNat ++ '.' :: digits.drop point.toNat

/-- One digit, a point and the others if there are others, and the exponent with its sign. -/
def scientific (digits : List Char) (exponent : Int) : List Char :=
  digits.take 1 ++ (if digits.length == 1 then [] else '.' :: digits.drop 1) ++
    'e' :: (if exponent < 0 then '-' else '+') :: Nat.toDigits 10 exponent.natAbs

def writeMagnitude (x : Binary64) : List Char :=
  if x.significand == 0 then ['0', '.', '0']
  else
    let s := x.shortest
    let (w, k) := Binary64.trimZeros 400 s.whole s.exponent
    let digits := Nat.toDigits 10 w
    let exponent := k + digits.length - 1
    if floatFormat.least ≤ exponent && exponent < floatFormat.beyond then
      positional digits (exponent + 1)
    else scientific digits exponent

def writeInteger (n : Int) : List Char :=
  if n < 0 then '-' :: Nat.toDigits 10 n.natAbs else Nat.toDigits 10 n.toNat

def Number.write : Number → List Char
  | .integer n => writeInteger n
  | .float x => if x.negative then '-' :: writeMagnitude x else writeMagnitude x

end SessionTokens.Json
