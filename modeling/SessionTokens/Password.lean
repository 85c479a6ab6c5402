import SessionTokens.Crypto.Argon2
import SessionTokens.Password.Phc
import SessionTokens.Text.Utf8

set_option autoImplicit false

namespace SessionTokens

open Text Crypto

inductive PasswordError
  | argon2 (reason : String)
  | invalidHash
  | mismatch
deriving DecidableEq, Repr

def PasswordError.message : PasswordError → String
  | .argon2 reason => s!"argon2 error: {reason}"
  | .invalidHash => "stored password hash is not a valid PHC string"
  | .mismatch => "password does not match"

/-- Why costs cannot be used. -/
inductive CostFlaw
  | memoryTooSmall
  | tooFewPasses
  | tooFewLanes
  | tooManyLanes
deriving DecidableEq

def CostFlaw.message : CostFlaw → String
  | .memoryTooSmall => "memory cost is too small"
  | .tooFewPasses => "time cost is too small"
  | .tooFewLanes => "not enough threads"
  | .tooManyLanes => "too many threads"

namespace Password

/-- What is wrong with costs of 32 bits each. A lane needs eight blocks, and their number is taken
to 32 bits. -/
def costFlaw? (c : Argon2.Costs) : Option CostFlaw :=
  if c.memory < 8 || c.memory < c.lanes * 8 % 2 ^ 32 then some .memoryTooSmall
  else if c.passes < 1 then some .tooFewPasses
  else if c.lanes < 1 then some .tooFewLanes
  else if 2 ^ 24 - 1 < c.lanes then some .tooManyLanes
  else none

/-- 19 MiB, two passes, one lane. -/
def standardCosts : Argon2.Costs :=
  ⟨19456, 2, 1⟩

def checkCosts (c : Argon2.Costs) : Except PasswordError Argon2.Costs :=
  match costFlaw? c with
  | some flaw => .error (.argon2 flaw.message)
  | none => .ok c

def costParameters (c : Argon2.Costs) : List (List Char × List Char) :=
  [(['m'], Nat.toDigits 10 c.memory), (['t'], Nat.toDigits 10 c.passes),
    (['p'], Nat.toDigits 10 c.lanes)]

/-- The bytes of a new hash. -/
def newHashLength : Nat := 32

/-- The text of a new hash. -/
def hash (costs : Argon2.Costs) (salt password : List UInt8) : String :=
  let input : Argon2.Input := ⟨.hybrid, .v19, costs, password, salt, []⟩
  let phc : Phc :=
    { algorithm := "argon2id".toList
      version := some 19
      parameters := costParameters costs
      salt := some (Base64.encode Base64.standard salt)
      hash := some (Argon2.hash input newHashLength) }
  String.ofList phc.write

def variant? (algorithm : List Char) : Option Argon2.Variant :=
  if algorithm == "argon2id".toList then some .hybrid
  else if algorithm == "argon2i".toList then some .independent
  else if algorithm == "argon2d".toList then some .dependent
  else none

/-- Without a version the latest is meant. -/
def version? : Option Nat → Option Argon2.Version
  | none => some .v19
  | some 19 => some .v19
  | some 16 => some .v16
  | some _ => none

/-- What the parameters of a stored hash state. -/
structure Stated where
  costs : Argon2.Costs
  associated : List UInt8

/-- Bytes in base64, at most as many as given. -/
def boundedBytes? (bound : Nat) (s : List Char) : Option (List UInt8) :=
  (Base64.decode? Base64.standard s).bind fun bytes =>
    if bytes.length ≤ bound then some bytes else none

/-- Takes one parameter into account. A key's name is read but has no effect. -/
def Stated.add? (s : Stated) (p : List Char × List Char) : Option Stated :=
  if p.1 == ['m'] then (Phc.decimal? p.2).map fun n => { s with costs.memory := n }
  else if p.1 == ['t'] then (Phc.decimal? p.2).map fun n => { s with costs.passes := n }
  else if p.1 == ['p'] then (Phc.decimal? p.2).map fun n => { s with costs.lanes := n }
  else if p.1 == "keyid".toList then (boundedBytes? 8 p.2).map fun _ => s
  else if p.1 == "data".toList then
    (boundedBytes? 32 p.2).map fun bytes => { s with associated := bytes }
  else none

/-- The parameters together, standard costs standing for missing ones. -/
def stated? (ps : List (List Char × List Char)) : Option Stated :=
  (ps.foldlM Stated.add? ⟨standardCosts, []⟩).bind fun s =>
    if (costFlaw? s.costs).isSome then none else some s

/-- The fewest bytes of a salt. -/
def minSaltLength : Nat := 8

/-- The hash that a password has under all that a stored hash states but its own hash. -/
def recompute? (p : Phc) (size : Nat) (password : List UInt8) : Option (List UInt8) := do
  let variant ← variant? p.algorithm
  let version ← version? p.version
  let stated ← stated? p.parameters
  let salt ← Base64.decode? Base64.standard (← p.salt)
  if salt.length < minSaltLength then none
  else some (Argon2.hash ⟨variant, version, stated.costs, password, salt, stated.associated⟩ size)

/-- Checks a password against a stored hash. -/
def verify (stored : String) (password : List UInt8) : Except PasswordError Unit :=
  match Phc.read? stored.toList with
  | none => .error .invalidHash
  | some phc =>
    match phc.hash with
    | none => .error .mismatch
    | some expected =>
      if recompute? phc expected.length password = some expected then .ok ()
      else .error .mismatch

end Password

end SessionTokens
