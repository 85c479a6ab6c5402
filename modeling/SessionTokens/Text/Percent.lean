import SessionTokens.Text.Hex
import SessionTokens.Text.Utf8

set_option autoImplicit false

namespace SessionTokens.Text.Percent

/-- The byte that two hexadecimal digits write. -/
def byte? (x y : Char) : Option UInt8 :=
  (Hex.number? [x, y]).map UInt8.ofNat

/-- The bytes of a text. A percent sign that no two digits follow stands for itself. -/
def decode : List Char → List UInt8
  | [] => []
  | '%' :: x :: y :: rest =>
    match byte? x y with
    | some b => b :: decode rest
    | none => Utf8.encodeChar '%' ++ decode (x :: y :: rest)
  | c :: rest => Utf8.encodeChar c ++ decode rest

/-- The decoded text, when its bytes are well-formed. -/
def decodeText? (s : List Char) : Option String :=
  (Utf8.decode? (decode s)).map String.ofList

end SessionTokens.Text.Percent
