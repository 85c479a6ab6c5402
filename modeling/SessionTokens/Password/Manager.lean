import SessionTokens.Password

set_option autoImplicit false

namespace SessionTokens

open Text Crypto

/-- Costs as they are configured. -/
structure PasswordParams where
  memoryCost : UInt32
  iterations : UInt32
  parallelism : UInt32
deriving DecidableEq

namespace PasswordParams

def costs (p : PasswordParams) : Argon2.Costs :=
  ⟨p.memoryCost.toNat, p.iterations.toNat, p.parallelism.toNat⟩

def standard : PasswordParams :=
  ⟨19456, 2, 1⟩

example : standard.costs = Password.standardCosts := rfl

end PasswordParams

/-- A salt that is long enough to hash with and short enough to be stated. -/
structure Salt where
  bytes : List UInt8
  least : Password.minSaltLength ≤ bytes.length
  greatest : bytes.length ≤ 48

/-- The algorithm, its version, costs and associated data. -/
structure Hasher where
  variant : Argon2.Variant
  version : Argon2.Version
  settings : Password.Stated

namespace Hasher

def output (h : Hasher) (size : Nat) (salt password : List UInt8) : List UInt8 :=
  Argon2.hash ⟨h.variant, h.version, h.settings.costs, password, salt, h.settings.associated⟩ size

/-- The hasher with what a stored hash states in the place of its own settings. -/
def restated? (h : Hasher) (p : Phc) : Option Hasher := do
  let variant ← Password.variant? p.algorithm
  let version ← Password.version? p.version
  let settings ← Password.stated? p.parameters
  some { h with variant, version, settings }

/-- The output for a salt in base64; a salt that is too short has none. -/
def output? (h : Hasher) (size : Nat) (salt : List Char) (password : List UInt8) :
    Option (List UInt8) := do
  let salt ← Base64.decode? Base64.standard salt
  if salt.length < Password.minSaltLength then none else some (h.output size salt password)

/-- Whether a password comes to the bytes of a stored hash. -/
def accepts (h : Hasher) (p : Phc) (password : List UInt8) : Bool :=
  match p.salt, p.hash with
  | some salt, some expected =>
    ((h.restated? p).bind fun h => h.output? expected.length salt password) == some expected
  | _, _ => false

end Hasher

structure PasswordManager where
  params : PasswordParams
  sound : Password.costFlaw? params.costs = none

namespace PasswordManager

def make (params : PasswordParams) : Except PasswordError PasswordManager :=
  match sound : Password.costFlaw? params.costs with
  | some flaw => .error (.argon2 flaw.message)
  | none => .ok ⟨params, sound⟩

def standard : PasswordManager :=
  ⟨.standard, rfl⟩

def hasher (m : PasswordManager) : Hasher :=
  ⟨.hybrid, .v19, ⟨m.params.costs, []⟩⟩

/-- The text of a new hash. -/
def hash (m : PasswordManager) (salt : Salt) (password : List UInt8) : String :=
  Password.hash m.params.costs salt.bytes password

/-- Checks a password against a stored hash. -/
def verify (m : PasswordManager) (stored : String) (password : List UInt8) :
    Except PasswordError Unit :=
  match Phc.read? stored.toList with
  | none => .error .invalidHash
  | some phc => if m.hasher.accepts phc password then .ok () else .error .mismatch

end PasswordManager

end SessionTokens
