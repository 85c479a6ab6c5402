import SessionTokens.Proofs.Traffic

set_option autoImplicit false

namespace SessionTokens

/-- The result of a program that is done. -/
def Program.result? {α : Type} : Program α → Option α
  | .done a => some a
  | .perform _ _ => none

namespace Traffic

variable {ρ α : Type}

/-- What a thread has come to, if it has ended. -/
def ended (thread : Thread ρ α) : Option (ρ × α) :=
  thread.rest.result?.map (thread.request, ·)

/-- The requests that have ended, each with its result. -/
def results (t : Traffic ρ α) : List (ρ × α) :=
  t.threads.filterMap ended

variable {program : ρ → Program α} {good : ρ → Ledger → Ledger → Program α → Prop}
  {t t' : Traffic ρ α} {event : Event ρ}

theorem ended_eq_some {thread : Thread ρ α} {request : ρ} {a : α} :
    ended thread = some (request, a) ↔ thread = ⟨request, .done a⟩ := by
  obtain ⟨other, rest⟩ := thread
  cases rest <;> simp [ended, Program.result?]

theorem ended_begin (begins : ∀ request a, program request ≠ .done a) (request : ρ) :
    ended ⟨request, program request⟩ = none := by
  cases begun : program request with
  | done a => exact absurd begun (begins request a)
  | perform e next => rfl

/-- What the new state of a thread adds to the results, its old one having been under way. -/
theorem filterMap_ended_set {threads : List (Thread ρ α)} {i : Nat} {old : Thread ρ α}
    (present : threads[i]? = some old) (unfinished : ended old = none) (new : Thread ρ α) :
    ((threads.set i new).filterMap ended).Perm ((ended new).toList ++ threads.filterMap ended) := by
  induction threads generalizing i with
  | nil => cases present
  | cons first rest ih =>
    cases i with
    | zero =>
      obtain rfl : first = old := Option.some.inj present
      rw [List.set_cons_zero, List.filterMap_cons_none unfinished, List.filterMap_cons]
      cases ended new <;> exact .refl _
    | succ i =>
      have later := ih (i := i) present
      rw [List.set_cons_succ]
      cases state : ended first with
      | none =>
        rw [List.filterMap_cons_none state, List.filterMap_cons_none state]
        exact later
      | some result =>
        rw [List.filterMap_cons_some state, List.filterMap_cons_some state]
        exact (later.cons result).trans List.perm_middle.symm

/-- A move leaves the ledger and the results, or it is a step and adds the result of its request if
this is the last one. -/
theorem Move.results (moved : Move program good event t t')
    (begins : ∀ request a, program request ≠ .done a) :
    (t'.ledger = t.ledger ∧ t'.results = t.results) ∨
      ∃ request rest, good request t.ledger t'.ledger rest ∧
        t'.results.Perm ((ended ⟨request, rest⟩).toList ++ t.results) := by
  cases moved with
  | idle ledger threads => exact Or.inl ⟨ledger, congrArg (List.filterMap ended) threads⟩
  | arrive request =>
    refine Or.inl ⟨rfl, ?_⟩
    simp only [Traffic.results, List.filterMap_append, List.filterMap_cons_none
      (ended_begin begins request), List.filterMap_nil, List.append_nil]
  | @act _ _ i request e next answer present deed threads =>
    refine Or.inr ⟨request, next answer, deed, ?_⟩
    rw [Traffic.results, threads]
    exact filterMap_ended_set present rfl _

end Traffic

end SessionTokens
