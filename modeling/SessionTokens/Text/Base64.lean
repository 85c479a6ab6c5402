set_option autoImplicit false

namespace SessionTokens.Text.Base64

/-- The characters of the two highest values, which tell the alphabets apart. -/
structure Alphabet where
  sixtyTwo : Char
  sixtyThree : Char
deriving DecidableEq

def standard : Alphabet := ⟨'+', '/'⟩

def urlSafe : Alphabet := ⟨'-', '_'⟩

/-- The character of a value below 64. -/
def Alphabet.digit (a : Alphabet) (n : Nat) : Char :=
  if n < 26 then Char.ofNat (65 + n)
  else if n < 52 then Char.ofNat (71 + n)
  else if n < 62 then Char.ofNat (n - 4)
  else if n == 62 then a.sixtyTwo
  else a.sixtyThree

/-- The value of a character of the alphabet. -/
def Alphabet.value? (a : Alphabet) (c : Char) : Option Nat :=
  let n := c.toNat
  if 65 ≤ n && n ≤ 90 then some (n - 65)
  else if 97 ≤ n && n ≤ 122 then some (n - 71)
  else if 48 ≤ n && n ≤ 57 then some (n + 4)
  else if c == a.sixtyTwo then some 62
  else if c == a.sixtyThree then some 63
  else none

def encode (a : Alphabet) : List UInt8 → List Char
  | [] => []
  | [x] =>
    let n := x.toNat
    [a.digit (n / 4), a.digit (n % 4 * 16)]
  | [x, y] =>
    let n := x.toNat * 256 + y.toNat
    [a.digit (n / 1024), a.digit (n / 16 % 64), a.digit (n % 16 * 4)]
  | x :: y :: z :: rest =>
    let n := (x.toNat * 256 + y.toNat) * 256 + z.toNat
    a.digit (n / 262144) :: a.digit (n / 4096 % 64) :: a.digit (n / 64 % 64) ::
      a.digit (n % 64) :: encode a rest

/-- Values in groups of four; a last group of two or three must leave no bit over. -/
def unpack : List Nat → Option (List UInt8)
  | [] => some []
  | [_] => none
  | [p, q] => if q % 16 == 0 then some [UInt8.ofNat (p * 4 + q / 16)] else none
  | [p, q, r] =>
    if r % 4 == 0 then
      some [UInt8.ofNat (p * 4 + q / 16), UInt8.ofNat (q % 16 * 16 + r / 4)]
    else none
  | p :: q :: r :: s :: rest =>
    (unpack rest).map fun more =>
      UInt8.ofNat (p * 4 + q / 16) :: UInt8.ofNat (q % 16 * 16 + r / 4) ::
        UInt8.ofNat (r % 4 * 64 + s) :: more

/-- Strict decoding without padding. -/
def decode? (a : Alphabet) (s : List Char) : Option (List UInt8) :=
  (s.mapM a.value?).bind unpack

/-- Strict decoding with the padding that makes the length a multiple of four. -/
def decodePadded? (a : Alphabet) (s : List Char) : Option (List UInt8) :=
  if s.length % 4 != 0 then none
  else
    match s.reverse with
    | '=' :: '=' :: rest => decode? a rest.reverse
    | '=' :: rest => decode? a rest.reverse
    | _ => decode? a s

end SessionTokens.Text.Base64
