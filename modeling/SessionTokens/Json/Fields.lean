import SessionTokens.Id.Ids
import SessionTokens.Json.Reader
import SessionTokens.Time.Rfc3339

set_option autoImplicit false

namespace SessionTokens.Json

/-- A field that has to be there. -/
@[reducible] def Field.required {α : Type} (name : String) (read : Tree → Read α) (write : α → Json) :
    Field :=
  ⟨α, name, read, none, none, fun a => some (write a)⟩

/-- A field that may be absent or `null`. Nothing is written as `null`. -/
@[reducible] def Field.nullable {α : Type} (name : String) (read : Tree → Read α)
    (write : α → Json) : Field :=
  ⟨Option α, name, Tree.readOptional read, some none, none,
    fun a => some (match a with
      | some a => write a
      | none => .null)⟩

/-- A field that may be absent or `null`. Nothing is not written. -/
@[reducible] def Field.omittable {α : Type} (name : String) (read : Tree → Read α)
    (write : α → Json) : Field :=
  ⟨Option α, name, Tree.readOptional read, some none, none, fun a => a.map write⟩

/-- A field that may be missing in an object and at the end of an array. Nothing is not written. -/
@[reducible] def Field.trailing {α : Type} (name : String) (read : Tree → Read α)
    (write : α → Json) : Field :=
  ⟨Option α, name, Tree.readOptional read, some none, some none, fun a => a.map write⟩

/-- A field that is read and never written. -/
@[reducible] def Field.hidden (f : Field) : Field :=
  { f with write := fun _ => none }

def texts (values : List String) : Json :=
  .array (values.map .string)

/-- A text that a further rule reads. -/
def Tree.readBy {α : Type} (rule : String → Option α) (t : Tree) : Read α :=
  match t.readText with
  | .ok s => (rule s).elim (.error .mistyped) .ok
  | .error e => .error e

/-- One of a list of names: as a text, or as the only member of an object whose value is `null`. -/
def Tree.readName {α : Type} (rule : String → Option α) : Tree → Read α
  | .string (some s) => (rule s).elim (.error .mistyped) .ok
  | .object (.cons (some s) .null .closed) => (rule s).elim (.error .mistyped) .ok
  | t => .error t.mismatch

@[reducible] def textField (name : String) : Field :=
  .required name Tree.readText .string

@[reducible] def nullableTextField (name : String) : Field :=
  .nullable name Tree.readText .string

@[reducible] def omittableTextField (name : String) : Field :=
  .omittable name Tree.readText .string

@[reducible] def textsField (name : String) : Field :=
  .required name (Tree.readList Tree.readText) texts

@[reducible] def flagField (name : String) : Field :=
  .required name Tree.readFlag .bool

/-- A whole number of 64 bits with a sign. -/
def readInt64 : Tree → Read Int :=
  Tree.readInteger (-9223372036854775808) 9223372036854775807

/-- A whole number of 64 bits without a sign. -/
def readNat64 (t : Tree) : Read Nat :=
  (t.readInteger 0 18446744073709551615).map Int.toNat

@[reducible] def int64Field (name : String) : Field :=
  .required name readInt64 ofInt

@[reducible] def nat64Field (name : String) : Field :=
  .required name readNat64 ofNat

/-- An identifier in any form that is read, written canonically. -/
@[reducible] def uuidField (name : String) : Field :=
  .required name (Tree.readBy fun s => (Uuid.read s.toList).toOption) fun u => .string u.toText

@[reducible] def instantField (name : String) : Field :=
  .required name (Tree.readBy fun s => Rfc3339.read? s.toList) fun t =>
    .string (String.ofList (Rfc3339.write t))

end SessionTokens.Json
