import SessionTokens.Json.Fields
import SessionTokens.Role

set_option autoImplicit false

namespace SessionTokens

open Json

structure Account where
  id : UserId
  username : String
  email : String
  passwordHash : String
  roles : List Role
  enabled : Bool
  createdAt : Instant
deriving DecidableEq

namespace Account

@[reducible] def fields : List Field :=
  [uuidField "id", textField "username", textField "email", (textField "password_hash").hidden,
    textsField "roles", flagField "enabled", instantField "created_at"]

def ofValues (v : Values fields) : Account :=
  let (id, username, email, passwordHash, roles, enabled, createdAt, ()) := v
  ⟨⟨id⟩, username, email, passwordHash, roles.map Role.mk, enabled, createdAt⟩

def values (a : Account) : Values fields :=
  (a.id.uuid, a.username, a.email, a.passwordHash, a.roles.map Role.name, a.enabled, a.createdAt,
    ())

def read (t : Tree) : Read Account :=
  (t.readRecord fields).map ofValues

def toJson (a : Account) : Json :=
  .object (a.values.members fields)

end Account

end SessionTokens
