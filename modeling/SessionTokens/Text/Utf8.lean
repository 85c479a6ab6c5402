set_option autoImplicit false

/- UTF-8. `encode` writes characters as bytes. `units` reads bytes: a well-formed sequence becomes
its character, and each maximal ill-formed part becomes one `none`, so that every reading of bytes
as text (strict, or with a replacement character) is a view of the same units. -/
namespace SessionTokens.Text.Utf8

/-- The bytes of one character. -/
def encodeChar (c : Char) : List UInt8 :=
  let n := c.toNat
  if n < 0x80 then [UInt8.ofNat n]
  else if n < 0x800 then [UInt8.ofNat (0xC0 + n / 64), UInt8.ofNat (0x80 + n % 64)]
  else if n < 0x10000 then
    [UInt8.ofNat (0xE0 + n / 4096), UInt8.ofNat (0x80 + n / 64 % 64), UInt8.ofNat (0x80 + n % 64)]
  else
    [UInt8.ofNat (0xF0 + n / 262144), UInt8.ofNat (0x80 + n / 4096 % 64),
      UInt8.ofNat (0x80 + n / 64 % 64), UInt8.ofNat (0x80 + n % 64)]

def encode (s : List Char) : List UInt8 :=
  s.flatMap encodeChar

/-- What a lead byte announces: its payload bits, the bounds of the second byte, and how many
bytes follow the second. -/
structure Lead where
  bits : Nat
  low : Nat
  high : Nat
  more : Nat

/-- The well-formed lead bytes of sequences longer than one byte. The bounds of the second byte
exclude overlong forms, surrogates and numbers past 10FFFF. -/
def lead? (b : Nat) : Option Lead :=
  if 0xC2 ≤ b && b ≤ 0xDF then some ⟨b - 0xC0, 0x80, 0xBF, 0⟩
  else if b == 0xE0 then some ⟨0, 0xA0, 0xBF, 1⟩
  else if b == 0xED then some ⟨0xD, 0x80, 0x9F, 1⟩
  else if 0xE1 ≤ b && b ≤ 0xEF then some ⟨b - 0xE0, 0x80, 0xBF, 1⟩
  else if b == 0xF0 then some ⟨0, 0x90, 0xBF, 2⟩
  else if 0xF1 ≤ b && b ≤ 0xF3 then some ⟨b - 0xF0, 0x80, 0xBF, 2⟩
  else if b == 0xF4 then some ⟨4, 0x80, 0x8F, 2⟩
  else none

/-- Where a reader stands inside a sequence: the bits so far, the bounds of the next byte and how
many bytes follow it. -/
structure Pending where
  bits : Nat
  low : Nat
  high : Nat
  more : Nat

/-- One byte at a sequence boundary. -/
def start (b : UInt8) : List (Option Char) × Option Pending :=
  let n := b.toNat
  if n < 0x80 then ([some (Char.ofNat n)], none)
  else
    match lead? n with
    | some l => ([], some ⟨l.bits, l.low, l.high, l.more⟩)
    | none => ([none], none)

/-- One byte in any position. A byte that cannot continue ends the ill-formed part before it and
is read again as a start. -/
def advance (p : Option Pending) (b : UInt8) : List (Option Char) × Option Pending :=
  match p with
  | none => start b
  | some p =>
    let n := b.toNat
    if p.low ≤ n && n ≤ p.high then
      let bits := p.bits * 64 + (n - 0x80)
      match p.more with
      | 0 => ([some (Char.ofNat bits)], none)
      | k + 1 => ([], some ⟨bits, 0x80, 0xBF, k⟩)
    else
      let (out, next) := start b
      (none :: out, next)

def unitsFrom : Option Pending → List UInt8 → List (Option Char)
  | none, [] => []
  | some _, [] => [none]
  | p, b :: rest =>
    let (out, next) := advance p b
    out ++ unitsFrom next rest

/-- Characters, with `none` for each maximal ill-formed part. -/
def units (bytes : List UInt8) : List (Option Char) :=
  unitsFrom none bytes

/-- The text of well-formed bytes. -/
def decode? (bytes : List UInt8) : Option (List Char) :=
  (units bytes).mapM id

/-- The text with U+FFFD for each ill-formed part. -/
def decodeLossy (bytes : List UInt8) : List Char :=
  (units bytes).map (·.getD (Char.ofNat 0xFFFD))

/-- The bytes of a text. -/
def bytes (s : String) : List UInt8 :=
  encode s.toList

end SessionTokens.Text.Utf8
