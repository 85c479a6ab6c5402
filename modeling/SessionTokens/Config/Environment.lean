import SessionTokens.Text.Blank

set_option autoImplicit false

namespace SessionTokens

open Text

/-- The variables that are set, and the files that can be read. -/
structure Environment where
  lookup? : String → Option String
  file? : String → Option (List UInt8)

inductive ConfigError
  | missing (name : String)
  | invalid (name reason : String)
  | keyFile (path : String)
deriving DecidableEq, Repr

/-- An unreadable file is described by its path. -/
def ConfigError.message : ConfigError → String
  | .missing name => s!"{name} must be set"
  | .invalid name reason => s!"{name} is invalid: {reason}"
  | .keyFile path => path

namespace Environment

def get? (env : Environment) (name : String) : Option String :=
  (env.lookup? name).filter fun v => !blank v

def getD (env : Environment) (name standard : String) : String :=
  (env.get? name).getD standard

def require (env : Environment) (name : String) : Except ConfigError String :=
  match env.get? name with
  | some v => .ok v
  | none => .error (.missing name)

/-- The contents of the file that a variable names, if it is set. -/
def keyFile? (env : Environment) (name : String) : Except ConfigError (Option (List UInt8)) :=
  match env.get? name with
  | none => .ok none
  | some path =>
    match env.file? path with
    | some contents => .ok (some contents)
    | none => .error (.keyFile path)

/-- The meaning of a variable, or of its absence. -/
def readD {α : Type} (env : Environment) (name : String) (standard : α)
    (read : String → Except String α) : Except ConfigError α :=
  match env.get? name with
  | none => .ok standard
  | some v => (read v).mapError (.invalid name)

end Environment

/-- A text without the slashes at its end. -/
def withoutEndSlashes (s : String) : String :=
  String.ofList (s.toList.reverse.dropWhile (· == '/')).reverse

end SessionTokens
