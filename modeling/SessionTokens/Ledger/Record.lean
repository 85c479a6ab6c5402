import SessionTokens.Id.Ids
import SessionTokens.Json.Fields

set_option autoImplicit false

namespace SessionTokens

open Json

structure Record where
  recordId : RecordId
  owner : UserId
  tokenId : TokenId
  expiresAt : Instant
  revoked : Bool
  createdAt : Instant
  replacedBy : Option TokenId
deriving DecidableEq

namespace Record

/-- The record of a new token. -/
def active (recordId : RecordId) (owner : UserId) (tokenId : TokenId)
    (createdAt expiresAt : Instant) : Record :=
  { recordId, owner, tokenId, expiresAt, revoked := false, createdAt, replacedBy := none }

/-- Neither revoked nor expired; a token is expired at its expiry. -/
def isActiveAt (r : Record) (now : Instant) : Bool :=
  !r.revoked && now < r.expiresAt

@[reducible] def fields : List Field :=
  [uuidField "record_id", uuidField "user_id", textField "jti", instantField "expires_at",
    flagField "revoked", instantField "created_at", nullableTextField "replaced_by"]

def ofValues (v : Values fields) : Record :=
  let (recordId, owner, tokenId, expiresAt, revoked, createdAt, replacedBy, ()) := v
  ⟨⟨recordId⟩, ⟨owner⟩, ⟨tokenId⟩, expiresAt, revoked, createdAt, replacedBy.map TokenId.mk⟩

def values (r : Record) : Values fields :=
  (r.recordId.uuid, r.owner.uuid, r.tokenId.text, r.expiresAt, r.revoked, r.createdAt,
    r.replacedBy.map TokenId.text, ())

def read (t : Tree) : Read Record :=
  (t.readRecord fields).map ofValues

def toJson (r : Record) : Json :=
  .object (r.values.members fields)

theorem ofValues_values (r : Record) : ofValues r.values = r := by
  cases r with
  | mk _ _ _ _ _ _ replacedBy => cases replacedBy <;> rfl

end Record

end SessionTokens
