import SessionTokens.Text.Hex

set_option autoImplicit false

namespace SessionTokens

open Text

/-- A host of 32 bits as four octets. -/
structure Host32 where
  a : Nat
  b : Nat
  c : Nat
  d : Nat
deriving DecidableEq

inductive SocketAddress
  | v4 (host : Host32) (channel : Nat)
  | v6 (groups : List Nat) (scope : Nat) (channel : Nat)
deriving DecidableEq

namespace SocketAddress

/-- The rest of a text after a character. -/
def skip? (c : Char) : List Char → Option (List Char)
  | d :: rest => if d == c then some rest else none
  | [] => none

/-- The decimal number in front, below a bound. Leading zeros count for nothing. -/
def decimal? (bound : Nat) (s : List Char) : Option (Nat × List Char) :=
  let digits := s.takeWhile Char.isDigit
  let n := digits.foldl (fun n c => n * 10 + (c.toNat - 48)) 0
  if digits.isEmpty || bound ≤ n then none else some (n, s.dropWhile Char.isDigit)

/-- An octet: up to three digits without a leading zero. -/
def octet? (s : List Char) : Option (Nat × List Char) :=
  let digits := s.takeWhile Char.isDigit
  if 3 < digits.length || (s.head? == some '0' && 1 < digits.length) then none else decimal? 256 s

def dottedOctet? (s : List Char) : Option (Nat × List Char) :=
  (skip? '.' s).bind octet?

def host32? (s : List Char) : Option (Host32 × List Char) := do
  let (a, s) ← octet? s
  let (b, s) ← dottedOctet? s
  let (c, s) ← dottedOctet? s
  let (d, s) ← dottedOctet? s
  some (⟨a, b, c, d⟩, s)

def isHexDigit (c : Char) : Bool :=
  (Hex.value? c).isSome

/-- A group: up to four hexadecimal digits. -/
def group? (s : List Char) : Option (Nat × List Char) :=
  let digits := s.takeWhile isHexDigit
  if digits.isEmpty || 4 < digits.length then none
  else (Hex.number? digits).map fun n => (n, s.dropWhile isHexDigit)

/-- A part of a series whose parts but the first follow a colon. -/
def afterColon {α : Type} (first : Bool) (read? : List Char → Option (α × List Char))
    (s : List Char) : Option (α × List Char) :=
  if first then read? s else (skip? ':' s).bind read?

/-- Groups as far as they go. -/
structure Groups where
  values : List Nat
  /-- Whether a 32-bit host ended them. -/
  dotted : Bool
  rest : List Char

/-- Reads at most `limit` groups; a 32-bit host stands for two. -/
def groupsFrom : Nat → Bool → List Char → Groups
  | 0, _, s => ⟨[], false, s⟩
  | limit + 1, first, s =>
    match if limit = 0 then none else afterColon first host32? s with
    | some (h, rest) => ⟨[h.a * 256 + h.b, h.c * 256 + h.d], true, rest⟩
    | none =>
      match afterColon first group? s with
      | some (n, rest) =>
        let more := groupsFrom limit false rest
        { more with values := n :: more.values }
      | none => ⟨[], false, s⟩

/-- Eight groups, or fewer around two colons that stand for zeros. -/
def host128? (s : List Char) : Option (List Nat × List Char) :=
  let front := groupsFrom 8 true s
  if front.values.length = 8 then some (front.values, front.rest)
  else if front.dotted then none
  else do
    let s ← skip? ':' front.rest
    let s ← skip? ':' s
    let back := groupsFrom (7 - front.values.length) true s
    let zeros := List.replicate (8 - front.values.length - back.values.length) 0
    some (front.values ++ zeros ++ back.values, back.rest)

/-- The scope after a percent sign, if there is one. -/
def scope (s : List Char) : Nat × List Char :=
  ((skip? '%' s).bind (decimal? (2 ^ 32))).getD (0, s)

def channel? (s : List Char) : Option (Nat × List Char) :=
  (skip? ':' s).bind (decimal? 65536)

def readV4? (s : List Char) : Option (SocketAddress × List Char) := do
  let (host, s) ← host32? s
  let (channel, s) ← channel? s
  some (.v4 host channel, s)

def readV6? (s : List Char) : Option (SocketAddress × List Char) := do
  let s ← skip? '[' s
  let (groups, s) ← host128? s
  let (scope, s) := scope s
  let s ← skip? ']' s
  let (channel, s) ← channel? s
  some (.v6 groups scope channel, s)

/-- The address that a whole text writes. -/
def read? (s : List Char) : Option SocketAddress :=
  match readV4? s <|> readV6? s with
  | some (a, []) => some a
  | _ => none

def writeHost32 (h : Host32) : String :=
  s!"{h.a}.{h.b}.{h.c}.{h.d}"

def writeGroups (groups : List Nat) : String :=
  ":".intercalate (groups.map fun n => String.ofList (Nat.toDigits 16 n))

/-- The length of the run of zeros in front. -/
def zeroRun (groups : List Nat) : Nat :=
  (groups.takeWhile (· == 0)).length

/-- Where the longest run of zeros starts, the first of several, and its length. -/
def longestZeroRun (groups : List Nat) : Nat × Nat :=
  (List.range groups.length).foldl
    (fun best i =>
      let run := zeroRun (groups.drop i)
      if best.2 < run then (i, run) else best)
    (0, 0)

/-- A host of 128 bits in its shortest form; one that embeds a 32-bit host shows it. -/
def writeHost128 (groups : List Nat) : String :=
  match groups with
  | [0, 0, 0, 0, 0, 65535, x, y] =>
    "::ffff:" ++ writeHost32 ⟨x / 256, x % 256, y / 256, y % 256⟩
  | _ =>
    let (start, run) := longestZeroRun groups
    if 1 < run then
      writeGroups (groups.take start) ++ "::" ++ writeGroups (groups.drop (start + run))
    else writeGroups groups

/-- The canonical text. -/
def toText : SocketAddress → String
  | .v4 host channel => s!"{writeHost32 host}:{channel}"
  | .v6 groups scope channel =>
    let suffix := if scope = 0 then "" else s!"%{scope}"
    s!"[{writeHost128 groups}{suffix}]:{channel}"

end SocketAddress

end SessionTokens
