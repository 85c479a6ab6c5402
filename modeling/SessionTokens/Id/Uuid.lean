import SessionTokens.Text.Hex

set_option autoImplicit false

namespace SessionTokens

open Text

structure Uuid where
  bits : BitVec 128
deriving DecidableEq

namespace Uuid

/-- The bits with the version number and the variant in their places. -/
def stamped (version : Nat) (bits : BitVec 128) : Uuid :=
  let version := BitVec.ofNat 128 version <<< 76
  let variant := (2 : BitVec 128) <<< 62
  let kept := bits &&& ~~~((15 : BitVec 128) <<< 76) &&& ~~~((3 : BitVec 128) <<< 62)
  ⟨kept ||| version ||| variant⟩

/-- A random identifier, version 4. -/
def random (bits : BitVec 128) : Uuid :=
  stamped 4 bits

/-- A time-ordered identifier, version 7: milliseconds since 1970 before random bits. -/
def timed (millis : Nat) (bits : BitVec 128) : Uuid :=
  stamped 7 ((BitVec.ofNat 128 millis <<< 80) ||| (bits &&& ((1 : BitVec 128) <<< 80) - 1))

def toList (u : Uuid) : List Char :=
  let d := Hex.digits 32 u.bits.toNat
  d.take 8 ++ '-' :: (d.drop 8).take 4 ++ '-' :: (d.drop 12).take 4 ++ '-' :: (d.drop 16).take 4 ++
    '-' :: d.drop 20

/-- The canonical text: lower case, 36 characters. -/
def toText (u : Uuid) : String :=
  String.ofList u.toList

/-- Why a text is no identifier. -/
inductive Flaw
  | length (found : Nat)
  | character (found : Char) (offset : Nat)
  | groupCount (found : Nat)
  | groupLength (group expected found : Nat)
deriving DecidableEq

def Flaw.message : Flaw → String
  | .length found => s!"invalid length: found {found}"
  | .character c offset => s!"invalid character: found `{c}` at {offset}"
  | .groupCount found => s!"invalid group count: expected 5, found {found}"
  | .groupLength group expected found =>
    s!"invalid group length in group {group}: expected {expected}, found {found}"

/-- The identifier that 32 digits write. -/
def ofDigits? (s : List Char) : Option Uuid :=
  if s.length == 32 then (Hex.number? s).map fun n => ⟨BitVec.ofNat 128 n⟩ else none

/-- The identifier that five groups write. -/
def ofGroups? (s : List Char) : Option Uuid :=
  if s.length == 36 && [8, 13, 18, 23].all (fun i => s.getD i ' ' == '-') then
    ofDigits? (s.take 8 ++ (s.drop 9).take 4 ++ (s.drop 14).take 4 ++ (s.drop 19).take 4 ++
      s.drop 24)
  else none

def utf8Length (s : List Char) : Nat :=
  (s.map Char.utf8Size).sum

/-- The text between braces. -/
def braced? (s : List Char) : Option (List Char) :=
  match s with
  | '\x7b' :: rest => if rest.getLast? == some '\x7d' then some rest.dropLast else none
  | _ => none

/-- The text after `urn:uuid:` in any case. -/
def urn? (s : List Char) : Option (List Char) :=
  if (s.take 9).map Char.toLower == "urn:uuid:".toList then some (s.drop 9) else none

/-- The first character that is neither a digit nor a hyphen, and its offset in bytes. -/
def stray? : List Char → Nat → Option (Char × Nat)
  | [], _ => none
  | c :: rest, offset =>
    if c == '-' || (Hex.value? c).isSome then stray? rest (offset + c.utf8Size)
    else some (c, offset)

/-- Offsets of the hyphens. -/
def hyphens (s : List Char) : List Nat :=
  (List.range s.length).filter fun i => s.getD i ' ' == '-'

/-- The first of the leading four groups that does not end in its place, else the last group. -/
def groupFlaw (length : Nat) (ends : List Nat) : Flaw :=
  let wrong := (List.range 4).filter fun g => ends.getD g 0 != [8, 13, 18, 23].getD g 0
  match wrong with
  | g :: _ => .groupLength g (if g == 0 then 8 else 4) (ends.getD g 0 - [0, 9, 14, 19].getD g 0)
  | [] => .groupLength 4 12 (length - 24)

/-- What is wrong with a text whose digits stand at an offset; `grouped` when it must have groups. -/
def contentFlaw (length offset : Nat) (grouped : Bool) (content : List Char) : Flaw :=
  match stray? content offset with
  | some (c, at_) => .character c at_
  | none =>
    let ends := hyphens content
    if ends.isEmpty && !grouped then .length length
    else if ends.length != 4 then .groupCount (ends.length + 1)
    else groupFlaw length ends

/-- What is wrong with a text; `grouped` when its form alone calls for groups. -/
def flawOf (grouped : Bool) (s : List Char) : Flaw :=
  let length := utf8Length s
  if length == 0 || 45 < length then .length length
  else
    match braced? s, urn? s with
    | some content, _ => contentFlaw length 1 true content
    | none, some content => contentFlaw length 9 true content
    | none, none => contentFlaw length 0 grouped s

/-- The part of a text that must be five groups, by its length and marks. -/
def groups? (s : List Char) : Option (List Char) :=
  match utf8Length s with
  | 36 => some s
  | 38 => braced? s
  | 45 => urn? s
  | _ => none

def read (s : List Char) : Except Flaw Uuid :=
  match groups? s with
  | some inner =>
    match ofGroups? inner with
    | some u => .ok u
    | none => .error (flawOf true inner)
  | none =>
    match ofDigits? s with
    | some u => .ok u
    | none => .error (flawOf false s)

end Uuid

end SessionTokens
