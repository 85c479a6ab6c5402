import SessionTokens.Http.MediaType
import SessionTokens.Json.Reader
import SessionTokens.Text.Blank
import SessionTokens.Text.Percent

set_option autoImplicit false

namespace SessionTokens

open Text

structure Header where
  name : String
  value : List UInt8
deriving DecidableEq

structure Request where
  method : String
  target : String
  headers : List Header
  body : List UInt8
deriving DecidableEq

structure Response where
  status : Nat
  body : Option Json

namespace Response

/-- A response without a JSON body. -/
def bare (status : Nat) : Response :=
  ⟨status, none⟩

def json (status : Nat) (body : Json) : Response :=
  ⟨status, some body⟩

end Response

namespace Request

def isPathChar (c : Char) : Bool :=
  c != '?' && c != '#'

/-- The target without its query. -/
def path (r : Request) : String :=
  String.ofList (r.target.toList.takeWhile isPathChar)

/-- The parts of the path between slashes, as they are written. -/
def segments (r : Request) : List String :=
  (split '/' r.path.toList).map String.ofList

def sameName (a b : String) : Bool :=
  a.toList.map Char.toLower == b.toList.map Char.toLower

/-- The first header of a name, in any case. -/
def header? (r : Request) (name : String) : Option (List UInt8) :=
  (r.headers.find? fun h => sameName h.name name).map Header.value

def isVisible (b : UInt8) : Bool :=
  (32 ≤ b && b < 127) || b == 9

/-- A header value as text, if it is all visible ASCII, spaces and tabs. -/
def visible? (value : List UInt8) : Option (List Char) :=
  if value.all isVisible then some (value.map fun b => Char.ofNat b.toNat) else none

/-- Whether the request says that its body is JSON. -/
def saysJson (r : Request) : Bool :=
  match ((r.header? "content-type").bind visible?).bind MediaType.read? with
  | some m => m.isJson
  | none => false

/-- The most bytes of a body that is read. -/
def bodyLimit : Nat := 2097152

/-- Reads the JSON value that the body begins with, or gives the status that refuses it. What
follows the value does not count. -/
def readBody {α : Type} (read : Json.Tree → Json.Read α) (r : Request) : Except Nat α :=
  if !r.saysJson then .error 415
  else if bodyLimit < r.body.length then .error 413
  else
    match read (Json.Document.scan (Utf8.units r.body)).root with
    | .ok a => .ok a
    | .error .malformed => .error 400
    | .error .mistyped => .error 422

end Request

end SessionTokens
