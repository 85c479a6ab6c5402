import Mathlib.Tactic.MkIffOfInductiveProp
import SessionTokens.Claims

set_option autoImplicit false

namespace SessionTokens

open Text

namespace Claims

/-- What a kind asks its claims to state, and what it forbids. -/
def SuitsKind (c : Claims) : Prop :=
  match c.kind with
  | .access => c.tokenId = none ∧ c.roles.isSome ∧ c.s2s = none
  | .refresh => c.tokenId.isSome ∧ c.s2s = none
  | .s2s => c.tokenId = none ∧ c.audience ≠ [] ∧ c.s2s = some true

/-- Somebody's claims, made by somebody, for whole seconds that are still to come when they are made.
-/
@[mk_iff]
structure IsInOrder (c : Claims) : Prop where
  subject : blank c.subject = false
  issuer : blank c.issuer = false
  window : c.issuedAt < c.expiresAt
  whole : c.issuedAt.nanos = 0 ∧ c.expiresAt.nanos = 0
  suits : c.SuitsKind

theorem unless_eq_none {broken : Prop} [Decidable broken] {e : ClaimError}
    {rest : Option ClaimError} :
    (if broken then some e else rest) = none ↔ ¬ broken ∧ rest = none := by
  by_cases broken <;> simp [*]

theorem flaw?_eq_none_iff {c : Claims} : c.flaw? = none ↔ c.IsInOrder := by
  rw [isInOrder_iff, flaw?, unless_eq_none, unless_eq_none, unless_eq_none, unless_eq_none,
    SuitsKind, Bool.not_eq_true, Bool.not_eq_true, Instant.not_le, not_or,
    Decidable.not_not, Decidable.not_not]
  cases c.kind <;> simp only [unless_eq_none] <;> simp [Option.isSome_iff_ne_none]

end Claims

end SessionTokens
