import SessionTokens.Key.Der
import SessionTokens.Text.Base64
import SessionTokens.Text.Blank

set_option autoImplicit false

/- PEM files of RSA keys. The first block of the file counts, and text around it does not. Two
labels announce the key itself; three others announce a wrapping, which has to name RSA and holds
the key in its first bit or octet string. -/
namespace SessionTokens.Pem

open Text

/-- The bytes before the first occurrence of a mark, and those after it. -/
def splitAt? (mark : List UInt8) : List UInt8 → Option (List UInt8 × List UInt8)
  | [] => if mark.isEmpty then some ([], []) else none
  | b :: rest =>
    if mark.isPrefixOf (b :: rest) then some ([], (b :: rest).drop mark.length)
    else (splitAt? mark rest).map fun (before, after) => (b :: before, after)

def isLineBlank (b : UInt8) : Bool :=
  b == 0x20 || b == 0x09 || b == 0x0a || b == 0x0d

/-- The lines of a text, without line ends. -/
def lines (s : List Char) : List (List Char) :=
  let (line, done) := s.foldr
    (fun c (line, done) => if c == '\n' then ([], line :: done) else (c :: line, done)) ([], [])
  let all := line :: done
  let all := if all.getLast? == some [] then all.dropLast else all
  all.map fun l => if l.getLast? == some '\r' then l.dropLast else l

/-- The headers and the data of a block's body, parted by an empty line. -/
def headersAndData (body : List UInt8) : List UInt8 × List UInt8 :=
  match splitAt? [0x0a, 0x0a] body with
  | some parts => parts
  | none => (splitAt? [0x0d, 0x0a, 0x0d, 0x0a] body).getD ([], body)

structure Block where
  label : String
  content : List UInt8

def block? (file : List UInt8) : Option Block := do
  let (_, rest) ← splitAt? (Utf8.bytes "-----BEGIN ") file
  let (label, rest) ← splitAt? (Utf8.bytes "-----") rest
  let (body, rest) ← splitAt? (Utf8.bytes "-----END ") (rest.dropWhile isLineBlank)
  let (endLabel, _) ← splitAt? (Utf8.bytes "-----") rest
  let (headers, data) := headersAndData body
  let label ← Utf8.decode? label
  let endLabel ← Utf8.decode? endLabel
  if label.isEmpty || label != endLabel then none
  else
    let data ← Utf8.decode? data
    let content ← Base64.decodePadded? Base64.standard ((lines data).flatMap trimEnd)
    let headers ← Utf8.decode? headers
    if (lines headers).all (·.contains ':') then some ⟨String.ofList label, content⟩ else none

/-- The kinds of keys that wrappings name. -/
inductive KeyKind
  | ellipticCurve
  | rsa
  | edwards
deriving DecidableEq

def keyKind? : Der.Node → Option KeyKind
  | .objectId arcs =>
    if arcs == [1, 2, 840, 10045, 2, 1] then some .ellipticCurve
    else if arcs == [1, 2, 840, 113549, 1, 1, 1] then some .rsa
    else if arcs == [1, 3, 101, 112] then some .edwards
    else none
  | _ => none

def keyBytes? : Der.Node → Option (List UInt8)
  | .bits bytes => some bytes
  | .octets bytes => some bytes
  | _ => none

/-- The bytes of the RSA key in a file. -/
def rsaKey? (file : List UInt8) : Option (List UInt8) := do
  let block ← block? file
  let nodes ← Der.read block.content
  if block.label == "RSA PRIVATE KEY" || block.label == "RSA PUBLIC KEY" then some block.content
  else if ["PRIVATE KEY", "PUBLIC KEY", "CERTIFICATE"].contains block.label then
    if Der.findFirstOf keyKind? nodes == some .rsa then Der.findFirstOf keyBytes? nodes else none
  else none

end SessionTokens.Pem
