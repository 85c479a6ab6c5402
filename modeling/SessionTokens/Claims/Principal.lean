import SessionTokens.Claims.Wire

set_option autoImplicit false

namespace SessionTokens

open Json

namespace Principal

@[reducible] def fields : List Field :=
  [textField "subject", textsField "roles"]

def ofValues (v : Values fields) : Principal :=
  let (subject, roles, ()) := v
  ⟨subject, roles.map Role.mk⟩

def values (p : Principal) : Values fields :=
  (p.subject, p.roles.map Role.name, ())

def read (t : Tree) : Read Principal :=
  (t.readRecord fields).map ofValues

def toJson (p : Principal) : Json :=
  .object (p.values.members fields)

end Principal

def TokenKind.read : Tree → Read TokenKind :=
  Tree.readName TokenKind.ofName?

def TokenKind.toJson (k : TokenKind) : Json :=
  .string k.name

def UserId.readJson : Tree → Read UserId :=
  Tree.readBy UserId.read?

def UserId.toJson (id : UserId) : Json :=
  .string id.toText

end SessionTokens
