import SessionTokens.Proofs.Program.Runs
import SessionTokens.Proofs.Traffic

set_option autoImplicit false

namespace SessionTokens

/-- The instant that an event sets the clock to. -/
def Event.instant? {ρ : Type} : Event ρ → Option Instant
  | .tick moment => some moment.now
  | _ => none

namespace Traffic

variable {ρ α : Type} {events : List (Event ρ)}

abbrev now (t : Traffic ρ α) : Instant :=
  t.world.moment.now

/-- What the clock shows in the course of a run. -/
def instants (now : Instant) (events : List (Event ρ)) : List Instant :=
  now :: events.filterMap Event.instant?

/-- The clock is never set back. -/
def NeverBack (now : Instant) (events : List (Event ρ)) : Prop :=
  (instants now events).Pairwise (· ≤ ·)

theorem now_next (program : ρ → Program α) (t : Traffic ρ α) (event : Event ρ) :
    (t.next program event).now = event.instant?.getD t.now := by
  cases event with
  | step i =>
    rcases advance_cases t i with same | ⟨request, e, rest, -, moved⟩
    · exact congrArg now same
    · exact (congrArg now moved).trans (congrArg Moment.now (t.world.moment_answer e))
  | _ => rfl

theorem NeverBack.of_append {now : Instant} {more : List (Event ρ)}
    (steady : NeverBack now (events ++ more)) : NeverBack now events := by
  rw [NeverBack, instants, List.filterMap_append] at steady
  exact steady.sublist ((List.sublist_append_left _ _).cons_cons now)

theorem instants_cons (program : ρ → Program α) (t : Traffic ρ α) (event : Event ρ)
    (events : List (Event ρ)) : instants t.now (event :: events) =
      instants (t.next program event).now events ∨
    instants t.now (event :: events) = t.now :: instants (t.next program event).now events := by
  rw [now_next]
  cases set : event.instant? with
  | none => exact Or.inl (by rw [instants, List.filterMap_cons_none set]; rfl)
  | some later => exact Or.inr (by rw [instants, List.filterMap_cons_some set]; rfl)

theorem le_now_run (program : ρ → Program α) (t : Traffic ρ α) (steady : NeverBack t.now events) :
    ∀ x ∈ instants t.now events, x ≤ (t.run program events).now := by
  induction events generalizing t with
  | nil =>
    intro x shown
    rw [List.mem_singleton.mp shown]
    exact Instant.le_refl _
  | cons event events ih =>
    have first : (t.next program event).now ∈ instants (t.next program event).now events :=
      List.mem_cons_self
    rcases instants_cons program t event events with same | more
    · rw [NeverBack, same] at steady
      rw [same]
      exact ih _ steady
    · rw [NeverBack, more, List.pairwise_cons] at steady
      intro x shown
      rw [more] at shown
      rcases List.mem_cons.mp shown with rfl | later
      · exact Instant.le_trans (steady.1 _ first) (ih _ steady.2 _ first)
      · exact ih _ steady.2 x later

end Traffic

end SessionTokens
