import SessionTokens.Json.Number
import SessionTokens.Text.Hex

set_option autoImplicit false

/- JSON text as a tree, as far as it is well-formed. A fault of form ends the tree where it stands:
the value there is `broken`, and every container around it is `cut`. A reader that walks the tree in
order therefore meets a fault of form and a fault of its own in the order of the text. Strings and
member names are `none` when their form is right but they are no text: half of a surrogate pair, or
bytes that are not UTF-8. Numbers are kept as spelled. -/
namespace SessionTokens.Json

open Text

/-- A unit of text: a character, or a part that is not UTF-8. -/
abbrev Unit? : Type := Option Char

mutual

inductive Tree
  | null
  | bool (b : Bool)
  | number (n : Spelling)
  | string (s : Option String)
  | array (items : Items)
  | object (members : Members)
  | broken

inductive Items
  | closed
  | cut
  | cons (item : Tree) (rest : Items)

inductive Members
  | closed
  | cut
  | cons (name : Option String) (value : Tree) (rest : Members)

end

def skipBlank : List Unit? → List Unit?
  | some c :: rest =>
    if c == ' ' || c == '\t' || c == '\n' || c == '\r' then skipBlank rest else some c :: rest
  | s => s

/-- The rest after the given characters. -/
def expect : List Char → List Unit? → Option (List Unit?)
  | [], s => some s
  | c :: cs, some d :: s => if c == d then expect cs s else none
  | _ :: _, _ => none

/-- What stands in a string: a character, a number written in hexadecimal, or bad bytes. -/
inductive Piece
  | char (c : Char)
  | code (n : Nat)
  | bad

/-- The character of a short escape. -/
def shortEscape? (c : Char) : Option Char :=
  if c == '"' || c == '\\' || c == '/' then some c
  else if c == 'b' then some '\x08'
  else if c == 'f' then some '\x0c'
  else if c == 'n' then some '\n'
  else if c == 'r' then some '\r'
  else if c == 't' then some '\t'
  else none

/-- The pieces up to the closing quote, and the rest. -/
def pieces : List Unit? → Option (List Piece × List Unit?)
  | [] => none
  | some '"' :: rest => some ([], rest)
  | some '\\' :: some 'u' :: some a :: some b :: some c :: some d :: rest =>
    match Hex.number? [a, b, c, d] with
    | some n => (pieces rest).map fun (ps, r) => (.code n :: ps, r)
    | none => none
  | some '\\' :: some e :: rest =>
    match shortEscape? e with
    | some c => (pieces rest).map fun (ps, r) => (.char c :: ps, r)
    | none => none
  | some c :: rest =>
    if c == '\\' || c.toNat < 32 then none
    else (pieces rest).map fun (ps, r) => (.char c :: ps, r)
  | none :: rest => (pieces rest).map fun (ps, r) => (.bad :: ps, r)

def isHigh (n : Nat) : Bool :=
  0xD800 ≤ n && n < 0xDC00

def isLow (n : Nat) : Bool :=
  0xDC00 ≤ n && n < 0xE000

/-- The characters of the pieces; a surrogate counts only as half of a pair. -/
def textOf : List Piece → Option (List Char)
  | [] => some []
  | .char c :: rest => (textOf rest).map (c :: ·)
  | .code n :: .code m :: rest =>
    if isHigh n && isLow m then
      (textOf rest).map (Char.ofNat (0x10000 + (n - 0xD800) * 1024 + (m - 0xDC00)) :: ·)
    else if isHigh n || isLow n then none
    else (textOf (.code m :: rest)).map (Char.ofNat n :: ·)
  | .code n :: rest =>
    if isHigh n || isLow n then none else (textOf rest).map (Char.ofNat n :: ·)
  | .bad :: _ => none

/-- A string after its opening quote. -/
def scanString (s : List Unit?) : Option (Option String × List Unit?) :=
  (pieces s).map fun (ps, rest) => ((textOf ps).map String.ofList, rest)

/-- The digits in front, and the rest. -/
def scanDigits : List Unit? → List Nat × List Unit?
  | some c :: rest =>
    if c.isDigit then
      let (ds, r) := scanDigits rest
      ((c.toNat - 48) :: ds, r)
    else ([], some c :: rest)
  | s => ([], s)

/-- A whole part has no leading zero. -/
def scanWhole (s : List Unit?) : Option (List Nat × List Unit?) :=
  match scanDigits s with
  | ([], _) => none
  | (0 :: _ :: _, _) => none
  | (ds, rest) => some (ds, rest)

/-- A fraction, if a point is next; it has a digit. -/
def scanFraction : List Unit? → Option (Option (List Nat) × List Unit?)
  | some '.' :: rest =>
    match scanDigits rest with
    | ([], _) => none
    | (ds, r) => some (some ds, r)
  | s => some (none, s)

/-- The digits of an exponent after its sign. -/
def scanExponentDigits (negative : Bool) (s : List Unit?) :
    Option (Option (Bool × List Nat) × List Unit?) :=
  match scanDigits s with
  | ([], _) => none
  | (ds, r) => some (some (negative, ds), r)

/-- An exponent, if its mark is next. -/
def scanExponent : List Unit? → Option (Option (Bool × List Nat) × List Unit?)
  | some c :: rest =>
    if c == 'e' || c == 'E' then
      match rest with
      | some '+' :: r => scanExponentDigits false r
      | some '-' :: r => scanExponentDigits true r
      | r => scanExponentDigits false r
    else some (none, some c :: rest)
  | s => some (none, s)

/-- A number after its sign. -/
def scanNumber (negative : Bool) (s : List Unit?) : Option (Spelling × List Unit?) := do
  let (whole, s) ← scanWhole s
  let (fraction, s) ← scanFraction s
  let (exponent, s) ← scanExponent s
  some (⟨negative, whole, fraction, exponent⟩, s)

/-- A scanned part as a tree, or a broken one. -/
def treeOr {α : Type} (f : α → Tree) : Option (α × List Unit?) → Tree × Option (List Unit?)
  | some (a, rest) => (f a, some rest)
  | none => (.broken, none)

mutual

/-- The value in front. There is no rest after a fault of form. -/
def scanValue : Nat → List Unit? → Tree × Option (List Unit?)
  | 0, _ => (.broken, none)
  | fuel + 1, s =>
    match skipBlank s with
    | some c :: rest =>
      if c == '"' then treeOr .string (scanString rest)
      else if c == '[' then
        match skipBlank rest with
        | some ']' :: r => (.array .closed, some r)
        | r =>
          let (items, r) := scanItems fuel r
          (.array items, r)
      else if c == '\x7b' then
        match skipBlank rest with
        | some '\x7d' :: r => (.object .closed, some r)
        | r =>
          let (members, r) := scanMembers fuel r
          (.object members, r)
      else if c == '-' then treeOr .number (scanNumber true rest)
      else if c.isDigit then treeOr .number (scanNumber false (some c :: rest))
      else if c == 'n' then treeOr (fun _ => .null) ((expect ['u', 'l', 'l'] rest).map ((), ·))
      else if c == 't' then
        treeOr (fun _ => .bool true) ((expect ['r', 'u', 'e'] rest).map ((), ·))
      else if c == 'f' then
        treeOr (fun _ => .bool false) ((expect ['a', 'l', 's', 'e'] rest).map ((), ·))
      else (.broken, none)
    | _ => (.broken, none)

/-- Items from a place where one must stand. -/
def scanItems : Nat → List Unit? → Items × Option (List Unit?)
  | 0, _ => (.cut, none)
  | fuel + 1, s =>
    match scanValue fuel s with
    | (item, none) => (.cons item .cut, none)
    | (item, some r) =>
      match skipBlank r with
      | some ',' :: r =>
        let (items, r) := scanItems fuel r
        (.cons item items, r)
      | some ']' :: r => (.cons item .closed, some r)
      | _ => (.cons item .cut, none)

/-- Members from a place where one must stand. -/
def scanMembers : Nat → List Unit? → Members × Option (List Unit?)
  | 0, _ => (.cut, none)
  | fuel + 1, s =>
    match skipBlank s with
    | some '"' :: r =>
      match scanString r with
      | none => (.cut, none)
      | some (name, r) =>
        match skipBlank r with
        | some ':' :: r =>
          match scanValue fuel r with
          | (value, none) => (.cons name value .cut, none)
          | (value, some r) =>
            match skipBlank r with
            | some ',' :: r =>
              let (members, r) := scanMembers fuel r
              (.cons name value members, r)
            | some '\x7d' :: r => (.cons name value .closed, some r)
            | _ => (.cons name value .cut, none)
        | _ => (.cons name .broken .cut, none)
    | _ => (.cut, none)

end

/-- A text read as one value: its tree, and whether only blanks follow it. -/
structure Document where
  root : Tree
  ended : Bool

def Document.scan (s : List Unit?) : Document :=
  let (root, rest) := scanValue (2 * s.length + 2) s
  ⟨root, match rest with
    | some r => (skipBlank r).isEmpty
    | none => false⟩

end SessionTokens.Json
