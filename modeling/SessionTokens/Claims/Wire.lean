import SessionTokens.Claims
import SessionTokens.Json.Fields

set_option autoImplicit false

namespace SessionTokens

open Json

structure WireClaims where
  subject : String
  issuer : String
  audience : List String
  issuedAt : Int
  expiresAt : Int
  kind : TokenKind
  tokenId : Option String
  s2s : Option Bool
  extra : List (String × Json)

namespace WireClaims

/-- How deep containers inside a payload may be nested. -/
def innerDepth : Nat := depthLimit - 1

/-- The text of an item of an audience. -/
def audienceItem : Json → Read String
  | .string s => .ok s
  | _ => .error .mistyped

/-- One text or a list of texts; the value is kept whole before it is looked at. -/
def readAudience (t : Tree) : Read (List String) := do
  match ← t.keep innerDepth with
  | .string s => .ok [s]
  | .array items => items.mapM audienceItem
  | _ => .error .mistyped

/-- An empty audience is left out. -/
@[reducible] def audienceField : Field :=
  ⟨List String, "aud", readAudience, some [], none,
    fun aud => if aud.isEmpty then none else some (texts aud)⟩

@[reducible] def kindField : Field :=
  .required "typ" (Tree.readName TokenKind.ofName?) fun k => .string k.name

@[reducible] def fields : List Field :=
  [textField "sub", textField "iss", audienceField, int64Field "iat", int64Field "exp", kindField,
    omittableTextField "jti", .omittable "s2s" Tree.readFlag .bool]

def ofValues (v : Values fields) (extra : List (String × Json)) : WireClaims :=
  let (subject, issuer, audience, issuedAt, expiresAt, kind, tokenId, s2s, ()) := v
  ⟨subject, issuer, audience, issuedAt, expiresAt, kind, tokenId, s2s, extra⟩

def values (w : WireClaims) : Values fields :=
  (w.subject, w.issuer, w.audience, w.issuedAt, w.expiresAt, w.kind, w.tokenId, w.s2s, ())

/-- Keeps a member that is none of the fields. -/
def keepExtra (extra : List (String × Json)) (name : String) (value : Tree) :
    Read (List (String × Json)) :=
  (value.keep innerDepth).map fun v => insertMember name v extra

def read : Tree → Read WireClaims
  | .object members => do
    let (slots, extra) ← members.readInto fields keepExtra (Slots.empty fields) []
    let v ← slots.finish fields
    .ok (ofValues v extra)
  | t => .error t.mismatch

def toJson (w : WireClaims) : Json :=
  .object (w.values.members fields ++ w.extra)

/-- The payload of a claim set, with roles under the given name. -/
def ofClaims (c : Claims) (rolesClaim : RolesClaim) : WireClaims :=
  { subject := c.subject
    issuer := c.issuer
    audience := c.audience
    issuedAt := c.issuedAt.seconds
    expiresAt := c.expiresAt.seconds
    kind := c.kind
    tokenId := c.tokenId.map TokenId.text
    s2s := c.s2s
    extra := match c.roles with
      | some roles => [(rolesClaim.name, texts (roles.map Role.name))]
      | none => [] }

/-- The role that an item of a roles list names. -/
def roleOf? : Json → Option Role
  | .string s => some ⟨s⟩
  | _ => none

/-- Roles stated by the value of the roles claim; nothing if it is no list of texts. -/
def rolesOf? : Option Json → Option (Option (List Role))
  | none => some none
  | some .null => some none
  | some (.array items) => (items.mapM roleOf?).map some
  | some _ => none

/-- The claim set of a payload, if its times are instants and its roles are a list of texts. -/
def toClaims? (w : WireClaims) (rolesClaim : RolesClaim) : Option Claims := do
  let issuedAt ← Instant.ofSeconds? w.issuedAt
  let expiresAt ← Instant.ofSeconds? w.expiresAt
  let roles ← rolesOf? (w.extra.lookup rolesClaim.name)
  some
    { subject := w.subject, issuer := w.issuer, audience := w.audience, issuedAt, expiresAt
      kind := w.kind, roles, tokenId := w.tokenId.map TokenId.mk, s2s := w.s2s }

end WireClaims

end SessionTokens
