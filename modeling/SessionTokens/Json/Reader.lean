import SessionTokens.Json.Tree
import SessionTokens.Json.Value

set_option autoImplicit false

/- Readers of JSON trees. A reader fails with the first fault in the order of the text: `malformed`
for a fault of form, `mistyped` for a value of another shape than wanted. A record is described by
its fields. It is read from an object, in any order of members and with unknown members skipped, or
from an array of its values in the order of its fields. -/
namespace SessionTokens.Json

inductive ReadError
  | malformed
  | mistyped
deriving DecidableEq

abbrev Read (α : Type) : Type := Except ReadError α

namespace Tree

/-- The fault of a value that is not of the shape wanted. A scalar has to be readable at all. -/
def mismatch : Tree → ReadError
  | .broken => .malformed
  | .string none => .malformed
  | .number n => if n.value?.isNone then .malformed else .mistyped
  | _ => .mistyped

def readText : Tree → Read String
  | .string (some s) => .ok s
  | t => .error t.mismatch

def readFlag : Tree → Read Bool
  | .bool b => .ok b
  | t => .error t.mismatch

/-- A whole number within bounds; a double is never one. -/
def readInteger (least greatest : Int) : Tree → Read Int
  | .number n =>
    match n.value? with
    | none => .error .malformed
    | some (.integer i) => if least ≤ i ∧ i ≤ greatest then .ok i else .error .mistyped
    | some (.float _) => .error .mistyped
  | t => .error t.mismatch

/-- `null` is nothing. -/
def readOptional {α : Type} (read : Tree → Read α) : Tree → Read (Option α)
  | .null => .ok none
  | t => (read t).map some

end Tree

def Items.read {α : Type} (read : Tree → Read α) : Items → Read (List α)
  | .closed => .ok []
  | .cut => .error .malformed
  | .cons item rest => do
    let a ← read item
    let more ← rest.read read
    .ok (a :: more)

def Tree.readList {α : Type} (read : Tree → Read α) : Tree → Read (List α)
  | .array items => items.read read
  | t => .error t.mismatch

mutual

/-- Checks the form alone. -/
def Tree.skip : Tree → Read Unit
  | .broken => .error .malformed
  | .array items => items.skip
  | .object members => members.skip
  | _ => .ok ()

def Items.skip : Items → Read Unit
  | .closed => .ok ()
  | .cut => .error .malformed
  | .cons item rest => do
    item.skip
    rest.skip

def Members.skip : Members → Read Unit
  | .closed => .ok ()
  | .cut => .error .malformed
  | .cons _ value rest => do
    value.skip
    rest.skip

end

mutual

/-- The value as a whole, with containers nested at most `depth` deep. Members are put in the order
of their names, and of two with one name the later counts. -/
def Tree.keep : Nat → Tree → Read Json
  | _, .null => .ok .null
  | _, .bool b => .ok (.bool b)
  | _, .number n =>
    match n.value? with
    | some v => .ok (.number v)
    | none => .error .malformed
  | _, .string (some s) => .ok (.string s)
  | _, .string none => .error .malformed
  | 0, .array _ => .error .malformed
  | depth + 1, .array items => (items.keep depth).map .array
  | 0, .object _ => .error .malformed
  | depth + 1, .object members => (members.keep depth []).map .object
  | _, .broken => .error .malformed

def Items.keep : Nat → Items → Read (List Json)
  | _, .closed => .ok []
  | _, .cut => .error .malformed
  | depth, .cons item rest => do
    let v ← item.keep depth
    let more ← rest.keep depth
    .ok (v :: more)

def Members.keep : Nat → Members → List (String × Json) → Read (List (String × Json))
  | _, .closed, kept => .ok kept
  | _, .cut, _ => .error .malformed
  | _, .cons none _ _, _ => .error .malformed
  | depth, .cons (some name) value rest, kept => do
    let v ← value.keep depth
    rest.keep depth (insertMember name v kept)

end

/-- How deep the containers of a kept document may be nested. -/
def depthLimit : Nat := 127

/-- A member of a record. `absent` is its value when the object has no such member, and `short` its
value when an array ends before it; without them that is an error. A value that is written as
`none` is left out. -/
structure Field where
  Value : Type
  name : String
  read : Tree → Read Value
  absent : Option Value
  short : Option Value
  write : Value → Option Json

/-- One value for each field. -/
def Values : List Field → Type
  | [] => Unit
  | f :: fs => f.Value × Values fs

/-- The values found so far. -/
def Slots : List Field → Type
  | [] => Unit
  | f :: fs => Option f.Value × Slots fs

def Slots.empty : (fs : List Field) → Slots fs
  | [] => ()
  | _ :: fs => (none, Slots.empty fs)

/-- Reads a member into its slot; nothing if no field has its name. A second one is an error. -/
def Slots.assign : (fs : List Field) → String → Tree → Slots fs → Option (Read (Slots fs))
  | [], _, _, _ => none
  | f :: fs, name, value, (slot, slots) =>
    if f.name == name then
      some (if slot.isSome then .error .mistyped else (f.read value).map fun a => (some a, slots))
    else (Slots.assign fs name value slots).map fun r => r.map fun s => (slot, s)

/-- The values of the fields, each found or absent by right. -/
def Slots.finish : (fs : List Field) → Slots fs → Read (Values fs)
  | [], _ => .ok ()
  | f :: fs, (slot, slots) =>
    match slot.or f.absent with
    | none => .error .mistyped
    | some a => (Slots.finish fs slots).map fun more => (a, more)

/-- Reads the members of a record; `other` takes those that no field has the name of. -/
def Members.readInto {σ : Type} (fs : List Field) (other : σ → String → Tree → Read σ) :
    Members → Slots fs → σ → Read (Slots fs × σ)
  | .closed, slots, rest => .ok (slots, rest)
  | .cut, _, _ => .error .malformed
  | .cons none _ _, _, _ => .error .malformed
  | .cons (some name) value more, slots, rest =>
    match Slots.assign fs name value slots with
    | some assigned => do
      let slots ← assigned
      more.readInto fs other slots rest
    | none => do
      let rest ← other rest name value
      more.readInto fs other slots rest

/-- Reads the values of a record in the order of its fields, and nothing after them. -/
def Items.readValues : (fs : List Field) → Items → Read (Values fs)
  | [], .closed => .ok ()
  | [], _ => .error .malformed
  | f :: fs, .cons item rest => do
    let a ← f.read item
    let more ← rest.readValues fs
    .ok (a, more)
  | f :: fs, .closed =>
    match f.short with
    | none => .error .mistyped
    | some a => (Items.readValues fs .closed).map fun more => (a, more)
  | _ :: _, .cut => .error .malformed

/-- Reads a record from an object or an array. -/
def Tree.readRecord (fs : List Field) : Tree → Read (Values fs)
  | .object members => do
    let (slots, _) ← members.readInto fs (fun (_ : Unit) _ value => value.skip) (Slots.empty fs) ()
    slots.finish fs
  | .array items => items.readValues fs
  | t => .error t.mismatch

/-- The members of a record in the order of its fields. -/
def Values.members : (fs : List Field) → Values fs → List (String × Json)
  | [], _ => []
  | f :: fs, (a, more) =>
    match f.write a with
    | some v => (f.name, v) :: Values.members fs more
    | none => Values.members fs more

/-- Reads a whole document; nothing but blanks may follow the value. -/
def Document.read {α : Type} (read : Tree → Read α) (d : Document) : Read α := do
  let a ← read d.root
  if d.ended then .ok a else .error .malformed

/-- Reads a text of characters. -/
def readChars {α : Type} (read : Tree → Read α) (s : List Char) : Read α :=
  (Document.scan (s.map some)).read read

end SessionTokens.Json
