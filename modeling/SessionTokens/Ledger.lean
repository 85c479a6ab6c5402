import SessionTokens.Ledger.Record

set_option autoImplicit false

namespace SessionTokens

inductive LedgerError
  | duplicate (id : TokenId)
  | notFound (id : TokenId)
  | alreadyRevoked (id : TokenId)
  | storage (reason : String)
deriving DecidableEq, Repr

def LedgerError.message : LedgerError → String
  | .duplicate id => s!"duplicate token id: {id.text}"
  | .notFound id => s!"no record for token id: {id.text}"
  | .alreadyRevoked id => s!"record already revoked: {id.text}"
  | .storage reason => s!"ledger storage error: {reason}"

/-- Records in the order of their addition. -/
structure Ledger where
  records : List Record
deriving DecidableEq

namespace Ledger

def empty : Ledger :=
  ⟨[]⟩

def find? (l : Ledger) (id : TokenId) : Option Record :=
  l.records.find? fun r => r.tokenId == id

def has (l : Ledger) (id : TokenId) : Bool :=
  (l.find? id).isSome

/-- Adds a record whose token is new. -/
def insert (l : Ledger) (r : Record) : Except LedgerError Ledger :=
  if l.has r.tokenId then .error (.duplicate r.tokenId) else .ok ⟨l.records ++ [r]⟩

/-- Marks a record as replaced. -/
def replace (old child : TokenId) (r : Record) : Record :=
  if r.tokenId == old then { r with revoked := true, replacedBy := some child } else r

/-- Revokes an unrevoked record in favour of its child, and adds the child. -/
def rotate (l : Ledger) (old : TokenId) (child : Record) : Except LedgerError Ledger :=
  if l.has child.tokenId then .error (.duplicate child.tokenId)
  else
    match l.find? old with
    | none => .error (.notFound old)
    | some r =>
      if r.revoked then .error (.alreadyRevoked old)
      else .ok ⟨l.records.map (replace old child.tokenId) ++ [child]⟩

/-- An unrevoked record of a user. -/
def isOpen (user : UserId) (r : Record) : Bool :=
  r.owner == user && !r.revoked

def revoke (user : UserId) (r : Record) : Record :=
  if isOpen user r then { r with revoked := true } else r

/-- Revokes every unrevoked record of a user, and tells how many there were. -/
def revokeAll (l : Ledger) (user : UserId) : Nat × Ledger :=
  (l.records.countP (isOpen user), ⟨l.records.map (revoke user)⟩)

/-- Oldest first; records of one age keep their order. -/
def byAge (records : List Record) : List Record :=
  records.mergeSort fun a b => a.createdAt ≤ b.createdAt

/-- Every record of a user, oldest first. -/
def history (l : Ledger) (user : UserId) : List Record :=
  byAge (l.records.filter fun r => r.owner == user)

/-- The records of a user that are active at an instant, oldest first. -/
def active (l : Ledger) (user : UserId) (now : Instant) : List Record :=
  byAge (l.records.filter fun r => r.owner == user && r.isActiveAt now)

theorem tokenId_of_find? {l : Ledger} {id : TokenId} {r : Record} (h : l.find? id = some r) :
    r.tokenId = id := by
  have := List.find?_some h
  simpa using this

theorem mem_of_find? {l : Ledger} {id : TokenId} {r : Record} (h : l.find? id = some r) :
    r ∈ l.records :=
  List.mem_of_find?_eq_some h

end Ledger

end SessionTokens
