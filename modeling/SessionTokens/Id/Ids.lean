import SessionTokens.Id.Uuid

set_option autoImplicit false

namespace SessionTokens

/-- Identifies an account. -/
structure UserId where
  uuid : Uuid
deriving DecidableEq

/-- Identifies a refresh-token record. -/
structure RecordId where
  uuid : Uuid
deriving DecidableEq

/-- Identifies a refresh token. -/
structure TokenId where
  text : String
deriving DecidableEq, Repr

/-- Why a value of the domain cannot be made. -/
inductive DomainError
  | validation (reason : String)
  | invalidId (reason : String)
deriving DecidableEq, Repr

def DomainError.message : DomainError → String
  | .validation reason => s!"validation failed: {reason}"
  | .invalidId reason => s!"invalid identifier: {reason}"

def UserId.toText (id : UserId) : String :=
  id.uuid.toText

def RecordId.toText (id : RecordId) : String :=
  id.uuid.toText

/-- Reads an identifier; a refusal names the kind that was wanted. -/
def readId (kind : String) (s : String) : Except DomainError Uuid :=
  (Uuid.read s.toList).mapError fun flaw => .invalidId s!"{kind}: {flaw.message}"

def UserId.read (s : String) : Except DomainError UserId :=
  (readId "UserId" s).map UserId.mk

def RecordId.read (s : String) : Except DomainError RecordId :=
  (readId "RecordId" s).map RecordId.mk

/-- The user identifier that a text writes, if any. -/
def UserId.read? (s : String) : Option UserId :=
  (UserId.read s).toOption

def TokenId.random (bits : BitVec 128) : TokenId :=
  ⟨(Uuid.random bits).toText⟩

end SessionTokens
