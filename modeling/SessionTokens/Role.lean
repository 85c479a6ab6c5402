import SessionTokens.Id.Ids
import SessionTokens.Text.Blank

set_option autoImplicit false

namespace SessionTokens

open Text

/-- A role is an opaque name. -/
structure Role where
  name : String
deriving DecidableEq, Repr

namespace Role

def admin : Role := ⟨"ADMIN"⟩

def user : Role := ⟨"USER"⟩

end Role

/-- The claim names with a meaning of their own. -/
def registeredClaims : List String :=
  ["iss", "sub", "aud", "exp", "nbf", "iat", "jti", "typ", "s2s"]

structure RolesClaim where
  name : String
  not_registered : name ∉ registeredClaims
deriving DecidableEq

namespace RolesClaim

def standard : RolesClaim :=
  ⟨"roles", by decide⟩

def make (name : String) : Except DomainError RolesClaim :=
  if blank name then .error (.validation "roles claim name must not be empty")
  else if trimmed name ≠ name then
    .error (.validation "roles claim name must not contain surrounding whitespace")
  else if h : name ∈ registeredClaims then
    .error (.validation s!"roles claim name '{name}' collides with a registered claim")
  else .ok ⟨name, h⟩

end RolesClaim

end SessionTokens
