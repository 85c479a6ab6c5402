set_option autoImplicit false

/- Instants and spans. An instant counts seconds from the start of 1970 and nanoseconds within the
second; a count of nanoseconds from 10⁹ on marks a leap second. Both types are bounded, so
arithmetic that leaves the bounds has no result. A span is a whole number of milliseconds, coarser
than an instant, since lifetimes are never finer. Sums from within a leap second are out of scope:
`add?` counts its nanoseconds like all others, where a calendar may let the leap second end first.
Tokens begin at whole seconds, from where both come to the same. -/
namespace SessionTokens

/-- A length of time in milliseconds, at most 2⁶³ - 1 either way. -/
structure Span where
  millis : Int
  ge_least : -9223372036854775807 ≤ millis
  le_greatest : millis ≤ 9223372036854775807
deriving DecidableEq

namespace Span

def ofMillis? (n : Int) : Option Span :=
  if h : -9223372036854775807 ≤ n ∧ n ≤ 9223372036854775807 then some ⟨n, h.1, h.2⟩ else none

def ofSeconds? (n : Int) : Option Span :=
  ofMillis? (n * 1000)

/-- Whole seconds, rounded toward zero. -/
def seconds (d : Span) : Int :=
  d.millis.tdiv 1000

theorem millis_of_ofMillis? {n : Int} {d : Span} (h : ofMillis? n = some d) : d.millis = n := by
  unfold ofMillis? at h
  split at h
  · exact congrArg Span.millis (Option.some.inj h).symm
  · cases h

end Span

/-- A point in time between the years -262143 and 262142. -/
structure Instant where
  seconds : Int
  nanos : Nat
  ge_earliest : -8334601228800 ≤ seconds
  le_latest : seconds ≤ 8210266876799
  nanos_lt : nanos < 2000000000
deriving DecidableEq

namespace Instant

def make? (seconds : Int) (nanos : Nat) : Option Instant :=
  if h : (-8334601228800 ≤ seconds ∧ seconds ≤ 8210266876799) ∧ nanos < 2000000000 then
    some ⟨seconds, nanos, h.1.1, h.1.2, h.2⟩
  else none

def ofSeconds? (seconds : Int) : Option Instant :=
  make? seconds 0

instance : LT Instant :=
  ⟨fun a b => a.seconds < b.seconds ∨ (a.seconds = b.seconds ∧ a.nanos < b.nanos)⟩

instance : LE Instant :=
  ⟨fun a b => a.seconds < b.seconds ∨ (a.seconds = b.seconds ∧ a.nanos ≤ b.nanos)⟩

theorem lt_def {a b : Instant} :
    a < b ↔ a.seconds < b.seconds ∨ (a.seconds = b.seconds ∧ a.nanos < b.nanos) := Iff.rfl

theorem le_def {a b : Instant} :
    a ≤ b ↔ a.seconds < b.seconds ∨ (a.seconds = b.seconds ∧ a.nanos ≤ b.nanos) := Iff.rfl

instance (a b : Instant) : Decidable (a < b) :=
  inferInstanceAs (Decidable (_ ∨ _))

instance (a b : Instant) : Decidable (a ≤ b) :=
  inferInstanceAs (Decidable (_ ∨ _))

theorem not_le {a b : Instant} : ¬ a ≤ b ↔ b < a := by
  simp only [le_def, lt_def]
  omega

protected theorem le_refl (a : Instant) : a ≤ a :=
  Or.inr ⟨rfl, Nat.le_refl _⟩

protected theorem le_trans {a b c : Instant} (first : a ≤ b) (second : b ≤ c) : a ≤ c := by
  simp only [le_def] at *
  omega

/-- The start of the second. -/
def wholeSeconds (t : Instant) : Instant :=
  ⟨t.seconds, 0, t.ge_earliest, t.le_latest, by decide⟩

/-- The instant a span later, if it is within the bounds. -/
def add? (t : Instant) (d : Span) : Option Instant :=
  let total := (t.nanos : Int) + d.millis * 1000000
  make? (t.seconds + total / 1000000000) (total % 1000000000).toNat

theorem make?_eq_some {s : Int} {n : Nat} {t : Instant} (h : make? s n = some t) :
    t.seconds = s ∧ t.nanos = n := by
  unfold make? at h
  split at h
  · exact ⟨congrArg seconds (Option.some.inj h).symm, congrArg nanos (Option.some.inj h).symm⟩
  · cases h

theorem wholeSeconds_mono {a b : Instant} (ordered : a ≤ b) :
    a.wholeSeconds ≤ b.wholeSeconds := by
  simp only [le_def, wholeSeconds] at *
  omega

end Instant

end SessionTokens
