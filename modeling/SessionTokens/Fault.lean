set_option autoImplicit false

namespace SessionTokens

inductive Fault (ε : Type)
  | refused (cause : ε)
  | overflow
deriving DecidableEq

def Fault.map {ε δ : Type} (f : ε → δ) : Fault ε → Fault δ
  | .refused cause => .refused (f cause)
  | .overflow => .overflow

/-- A computation that may be refused or overflow. -/
abbrev Checked (ε α : Type) : Type :=
  Except (Fault ε) α

theorem mapError_ok {ε δ α : Type} (f : ε → δ) (a : α) :
    (Except.ok a : Except ε α).mapError f = .ok a := rfl

end SessionTokens
