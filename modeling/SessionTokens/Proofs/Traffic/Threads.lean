import SessionTokens.Proofs.Program.Uses
import SessionTokens.Proofs.Traffic.Ending

set_option autoImplicit false

namespace SessionTokens

theorem Program.Uses.step {α : Type} {allowed : Effect → Prop} {p : Program α}
    (uses : p.Uses allowed) (w : World) : (p.step World.answer w).1.Uses allowed := by
  cases p with
  | done a => trivial
  | perform e next => exact uses.2 _

theorem Program.uses_any {α : Type} (p : Program α) : p.Uses fun _ => True := by
  induction p with
  | done a => trivial
  | perform e next ih => exact ⟨trivial, ih⟩

namespace Traffic

variable {ρ α : Type} {program : ρ → Program α} {t : Traffic ρ α} {k : Nat} {event : Event ρ}

theorem next_own {thread : Thread ρ α} (present : t.threads[k]? = some thread) :
    (t.advance k).world = (thread.rest.step World.answer t.world).2 := by
  rw [advance, present]

theorem next_absent (absent : t.threads[k]? = none) : t.advance k = t := by
  rw [advance, absent]

/-- A thread seen after an event has just arrived, or was there before. -/
theorem thread_of_next {thread : Thread ρ α}
    (present : (t.next program event).threads[k]? = some thread) :
    thread.rest = program thread.request ∨
      ∃ rest, t.threads[k]? = some ⟨thread.request, rest⟩ ∧ thread.rest =
        if event.isStep k then (rest.step World.answer t.world).1 else rest := by
  cases before : t.threads[k]? with
  | some old =>
    rw [thread_next program before event] at present
    obtain rfl := Option.some.inj present
    exact Or.inr ⟨old.rest, rfl, rfl⟩
  | none =>
    left
    cases event with
    | arrive request =>
      rcases of_getElem?_append present with old | rfl
      · rw [before] at old
        cases old
      · rfl
    | step i =>
      rcases advance_cases t i with unmoved | ⟨request, e, rest, -, moved⟩
      · change (t.advance i).threads[k]? = some thread at present
        rw [unmoved, before] at present
        cases present
      · change (t.advance i).threads[k]? = some thread at present
        rw [moved, List.getElem?_set, before] at present
        split at present
        · split at present
          · rename_i inside
            exact absurd (List.getElem?_eq_none_iff.mp before) (by omega)
          · cases present
        · cases present
    | _ => cases before.symm.trans present

/-- What a thread may do it may still do later, and it is the thread of the same request. -/
theorem uses_run {allowed : Effect → Prop} {thread : Thread ρ α}
    (present : t.threads[k]? = some thread) (uses : thread.rest.Uses allowed)
    (events : List (Event ρ)) : ∃ rest,
      (t.run program events).threads[k]? = some ⟨thread.request, rest⟩ ∧ rest.Uses allowed := by
  induction events generalizing t thread with
  | nil => exact ⟨thread.rest, present, uses⟩
  | cons event events ih =>
    have kept : (if event.isStep k then (thread.rest.step World.answer t.world).1
        else thread.rest).Uses allowed := by
      split
      · exact uses.step t.world
      · exact uses
    obtain ⟨rest, found, later⟩ := ih (thread_next program present event) kept
    exact ⟨rest, found, later⟩

theorem done_run {request : ρ} {a : α} (present : t.threads[k]? = some ⟨request, .done a⟩)
    (events : List (Event ρ)) :
    (t.run program events).threads[k]? = some ⟨request, .done a⟩ := by
  induction events generalizing t with
  | nil => exact present
  | cons event events ih =>
    apply ih
    rw [thread_next program present event]
    dsimp only [Program.step]
    split <;> rfl

theorem along_append {P : Nat → Traffic ρ α → Prop} {first second : List (Event ρ)} :
    Along program P t (first ++ second) ↔
      Along program P t first ∧ Along program P (t.run program first) second := by
  induction first generalizing t with
  | nil => exact (and_iff_right trivial).symm
  | cons event first ih =>
    rw [List.cons_append, Along, ih, Along, and_assoc, run_cons]

/-- If the step is the thread's, it changes neither store. -/
def SparesStores (k : Nat) (i : Nat) (t : Traffic ρ α) : Prop :=
  i = k → (t.advance k).ledger = t.ledger ∧ (t.advance k).world.directory = t.world.directory

theorem along_done {request : ρ} {a : α} (present : t.threads[k]? = some ⟨request, .done a⟩)
    (events : List (Event ρ)) : Along program (SparesStores k) t events := by
  induction events generalizing t with
  | nil => trivial
  | cons event events ih =>
    refine ⟨fun i _ _ => ?_, ih (done_run present [event])⟩
    have unmoved := next_own present
    rw [ledger, unmoved]
    exact ⟨rfl, rfl⟩

end Traffic

end SessionTokens
