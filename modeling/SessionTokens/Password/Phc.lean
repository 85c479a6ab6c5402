import SessionTokens.Text.Base64
import SessionTokens.Text.Split

set_option autoImplicit false

/- Password hashes as text: fields, each after a dollar sign, for the algorithm, its version, its
parameters, the salt and the hash. All but the first may be missing; a field that is not of the form
of a version or of parameters is taken as the next one. -/
namespace SessionTokens

open Text

structure Phc where
  algorithm : List Char
  version : Option Nat
  parameters : List (List Char × List Char)
  salt : Option (List Char)
  hash : Option (List UInt8)
deriving DecidableEq

namespace Phc

def isNameChar (c : Char) : Bool :=
  c.isLower || c.isDigit || c == '-'

def isValueChar (c : Char) : Bool :=
  c.isAlphanum || c == '/' || c == '+' || c == '.' || c == '-'

/-- A name: one to 32 small letters, digits and hyphens. -/
def isName (s : List Char) : Bool :=
  !s.isEmpty && s.length ≤ 32 && s.all isNameChar

/-- A value: up to 64 characters. -/
def isValue (s : List Char) : Bool :=
  s.length ≤ 64 && s.all isValueChar

/-- A decimal number of 32 bits without leading zeros. -/
def decimal? (s : List Char) : Option Nat :=
  if s.isEmpty || !s.all Char.isDigit || (s.head? == some '0' && 1 < s.length) then none
  else
    let n := s.foldl (fun n c => n * 10 + (c.toNat - 48)) 0
    if n < 2 ^ 32 then some n else none

/-- The number in a version field; nothing if it is malformed. -/
def version? (s : List Char) : Option Nat :=
  if isValue s then decimal? s else none

def parameter? (s : List Char) : Option (List Char × List Char) :=
  match split '=' s with
  | [name, value] => if isName name && isValue value then some (name, value) else none
  | _ => none

/-- The parameters in a field of at most 127 bytes. -/
def parameters? (s : List Char) : Option (List (List Char × List Char)) :=
  if (s.map Char.utf8Size).sum ≤ 127 then (split ',' s).mapM parameter? else none

def salt? (s : List Char) : Option (List Char) :=
  if 4 ≤ s.length && isValue s then some s else none

def hash? (s : List Char) : Option (List UInt8) :=
  match Base64.decode? Base64.standard s with
  | some bytes => if 10 ≤ bytes.length && bytes.length ≤ 64 then some bytes else none
  | none => none

/-- Whether a field has the form of a version. -/
def isVersionField : List Char → Bool
  | 'v' :: '=' :: rest => !rest.contains ','
  | _ => false

/-- Takes a version from the fields, if one is next. -/
def takeVersion : List (List Char) → Option (Option Nat × List (List Char))
  | field :: rest =>
    if isVersionField field then (version? (field.drop 2)).map fun n => (some n, rest)
    else some (none, field :: rest)
  | [] => some (none, [])

/-- Takes parameters from the fields, if they are next. -/
def takeParameters :
    List (List Char) → Option (List (List Char × List Char) × List (List Char))
  | field :: rest =>
    if field.contains '=' then (parameters? field).map fun ps => (ps, rest)
    else some ([], field :: rest)
  | [] => some ([], [])

/-- Takes a field, if there is one. -/
def takeField {α : Type} (read? : List Char → Option α) :
    List (List Char) → Option (Option α × List (List Char))
  | field :: rest => (read? field).map fun a => (some a, rest)
  | [] => some (none, [])

/-- The fields after the algorithm. -/
def readFields? (algorithm : List Char) (fields : List (List Char)) : Option Phc := do
  let (version, fields) ← takeVersion fields
  let (parameters, fields) ← takeParameters fields
  let (salt, fields) ← takeField salt? fields
  let (hash, fields) ← takeField hash? fields
  if fields.isEmpty then some ⟨algorithm, version, parameters, salt, hash⟩ else none

def read? (s : List Char) : Option Phc :=
  match split '$' s with
  | [] :: algorithm :: fields => if isName algorithm then readFields? algorithm fields else none
  | _ => none

def writeParameters : List (List Char × List Char) → List Char
  | [] => []
  | [(name, value)] => name ++ '=' :: value
  | (name, value) :: rest => name ++ '=' :: value ++ ',' :: writeParameters rest

/-- A field with its sign. -/
def writeField : Option (List Char) → List Char
  | some s => '$' :: s
  | none => []

def write (p : Phc) : List Char :=
  '$' :: p.algorithm ++ writeField (p.version.map fun n => 'v' :: '=' :: Nat.toDigits 10 n) ++
    (if p.parameters.isEmpty then [] else '$' :: writeParameters p.parameters) ++
    writeField p.salt ++ writeField (p.hash.map (Base64.encode Base64.standard))

end Phc

end SessionTokens
