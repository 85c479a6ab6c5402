import SessionTokens.Directory.Account

set_option autoImplicit false

namespace SessionTokens

inductive DirectoryError
  | usernameTaken (username : String)
  | storage (reason : String)
deriving DecidableEq, Repr

def DirectoryError.message : DirectoryError → String
  | .usernameTaken username => s!"username already taken: {username}"
  | .storage reason => s!"user directory storage error: {reason}"

/-- One account for each identifier. -/
structure Directory where
  accounts : List Account
deriving DecidableEq

namespace Directory

def empty : Directory :=
  ⟨[]⟩

def find? (d : Directory) (id : UserId) : Option Account :=
  d.accounts.find? fun a => a.id == id

def findUsername? (d : Directory) (username : String) : Option Account :=
  d.accounts.find? fun a => a.username == username

/-- Stores an account whose username is new, in the place of one with its identifier. -/
def insert (d : Directory) (a : Account) : Except DirectoryError Directory :=
  if d.accounts.any fun b => b.username == a.username then .error (.usernameTaken a.username)
  else .ok ⟨(d.accounts.filter fun b => b.id != a.id) ++ [a]⟩

end Directory

end SessionTokens
