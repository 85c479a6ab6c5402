import SessionTokens.Json.Fields

set_option autoImplicit false

namespace SessionTokens.Token

open Json

/-- The algorithms that a header may name. -/
inductive Algorithm
  | hs256
  | hs384
  | hs512
  | es256
  | es384
  | rs256
  | rs384
  | rs512
  | ps256
  | ps384
  | ps512
  | edDsa
deriving DecidableEq

namespace Algorithm

def name : Algorithm → String
  | hs256 => "HS256"
  | hs384 => "HS384"
  | hs512 => "HS512"
  | es256 => "ES256"
  | es384 => "ES384"
  | rs256 => "RS256"
  | rs384 => "RS384"
  | rs512 => "RS512"
  | ps256 => "PS256"
  | ps384 => "PS384"
  | ps512 => "PS512"
  | edDsa => "EdDSA"

def all : List Algorithm :=
  [hs256, hs384, hs512, es256, es384, rs256, rs384, rs512, ps256, ps384, ps512, edDsa]

def ofName? (s : String) : Option Algorithm :=
  all.find? fun a => a.name == s

end Algorithm

/-- A text among those given. -/
def readOneOf (names : List String) (t : Tree) : Read String :=
  t.readName fun s => names.find? (· == s)

@[reducible] def oneOfField (name : String) (names : List String) : Field :=
  .required name (readOneOf names) .string

/-- What every kind of key in a header may state. -/
@[reducible] def keyFields : List Field :=
  [omittableTextField "use", .omittable "key_ops" (Tree.readList Tree.readText) texts,
    .omittable "alg"
      (readOneOf (Algorithm.all.map Algorithm.name ++ ["RSA1_5", "RSA-OAEP", "RSA-OAEP-256"])) .string,
    omittableTextField "kid", omittableTextField "x5u",
    .omittable "x5c" (Tree.readList Tree.readText) texts, omittableTextField "x5t",
    omittableTextField "x5t#S256"]

def curves : List String :=
  ["P-256", "P-384", "P-521", "Ed25519"]

/-- What each kind of key has to state. -/
def keyKinds : List (List Field) :=
  [[oneOfField "kty" ["EC"], oneOfField "crv" curves, textField "x", textField "y"],
    [oneOfField "kty" ["RSA"], textField "n", textField "e"],
    [oneOfField "kty" ["oct"], textField "k"],
    [oneOfField "kty" ["OKP"], oneOfField "crv" curves, textField "x"]]

/-- A key is an object of one of the kinds. -/
def readKey (t : Tree) : Read Unit := do
  match ← t.keep (depthLimit - 1) with
  | .object _ =>
    discard (t.readRecord keyFields)
    if keyKinds.any fun fields => (t.readRecord fields).isOk then .ok () else .error .mistyped
  | _ => .error .mistyped

@[reducible] def headerFields : List Field :=
  [omittableTextField "typ", .required "alg" (Tree.readName Algorithm.ofName?) fun a => .string a.name,
    omittableTextField "cty", omittableTextField "jku",
    .hidden (.omittable "jwk" readKey fun _ => .null), omittableTextField "kid",
    omittableTextField "x5u", .omittable "x5c" (Tree.readList Tree.readText) texts,
    omittableTextField "x5t", omittableTextField "x5t#S256"]

/-- The algorithm that a header states. -/
def readHeader (t : Tree) : Read Algorithm :=
  (t.readRecord headerFields).map fun (_, algorithm, _) => algorithm

/-- The header that is written: the type and the algorithm. -/
def header (a : Algorithm) : Json :=
  .object (Values.members headerFields
    (some "JWT", a, none, none, none, none, none, none, none, none, ()))

example : (header .hs256).toText = "\x7b\"typ\":\"JWT\",\"alg\":\"HS256\"\x7d" := by decide

end SessionTokens.Token
