import SessionTokens.Proofs.Traffic

set_option autoImplicit false

namespace SessionTokens

namespace Program

variable {α : Type}

/-- No path through the program has more effects. -/
def EndsWithin : Nat → Program α → Prop
  | _, .done _ => True
  | 0, .perform _ _ => False
  | n + 1, .perform _ next => ∀ answer, (next answer).EndsWithin n

theorem EndsWithin.done (n : Nat) (a : α) : (Program.done a).EndsWithin n := by
  cases n <;> trivial

theorem EndsWithin.mono {n m : Nat} {p : Program α} (ends : p.EndsWithin n) (le : n ≤ m) :
    p.EndsWithin m := by
  induction p generalizing n m with
  | done a => exact .done m a
  | perform e next ih =>
    cases n with
    | zero => cases ends
    | succ n =>
      cases m with
      | zero => omega
      | succ m => exact fun answer => ih answer (ends answer) (by omega)

theorem EndsWithin.step {n : Nat} {p : Program α} (ends : p.EndsWithin n) (w : World) :
    (p.step World.answer w).1.EndsWithin (n - 1) := by
  cases p with
  | done a => exact .done _ a
  | perform e next =>
    cases n with
    | zero => cases ends
    | succ n => exact ends _

theorem EndsWithin.exists_done {p : Program α} (ends : p.EndsWithin 0) : ∃ a, p = .done a := by
  cases p with
  | done a => exact ⟨a, rfl⟩
  | perform e next => cases ends

end Program

/-- Whether the event is a step of the thread. -/
def Event.isStep {ρ : Type} (k : Nat) : Event ρ → Bool
  | .step i => i == k
  | _ => false

namespace Traffic

variable {ρ α : Type} {program : ρ → Program α} {t : Traffic ρ α} {k : Nat}

theorem thread_next (program : ρ → Program α) {thread : Thread ρ α}
    (present : t.threads[k]? = some thread) (event : Event ρ) :
    (t.next program event).threads[k]? = some { thread with
      rest :=
        if event.isStep k then (thread.rest.step World.answer t.world).1 else thread.rest } := by
  cases event with
  | arrive request =>
    obtain ⟨inside, -⟩ := List.getElem?_eq_some_iff.mp present
    exact (List.getElem?_append_left inside).trans present
  | step i =>
    change (t.advance i).threads[k]? = _
    by_cases same : i = k
    · subst same
      obtain ⟨inside, -⟩ := List.getElem?_eq_some_iff.mp present
      simp only [advance, present, Event.isStep, beq_self_eq_true, if_true]
      exact List.getElem?_set_self inside
    · have other : Event.isStep k (.step i : Event ρ) = false := beq_eq_false_iff_ne.mpr same
      simp only [other, Bool.false_eq_true, if_false]
      rcases advance_cases t i with unmoved | ⟨request, e, rest, -, moved⟩
      · rw [unmoved, present]
      · rw [moved, List.getElem?_set_ne same, present]
  | tick moment => exact present
  | reseed supply => exact present
  | enroll directory => exact present

/-- A thread comes nearer to its end by its own steps, and by no others. -/
theorem ends_run (program : ρ → Program α) {n : Nat} {thread : Thread ρ α}
    (present : t.threads[k]? = some thread) (ends : thread.rest.EndsWithin n)
    (events : List (Event ρ)) :
    ∃ rest, (t.run program events).threads[k]? = some ⟨thread.request, rest⟩ ∧
      rest.EndsWithin (n - events.countP (Event.isStep k)) := by
  induction events generalizing t thread n with
  | nil => exact ⟨thread.rest, present, ends⟩
  | cons event events ih =>
    have moved := thread_next program present event
    rw [run_cons]
    cases own : event.isStep k with
    | true =>
      rw [own, if_pos rfl] at moved
      obtain ⟨rest, found, bounded⟩ := ih moved (ends.step t.world)
      refine ⟨rest, found, bounded.mono ?_⟩
      rw [List.countP_cons_of_pos own]
      omega
    | false =>
      rw [own, if_neg Bool.false_ne_true] at moved
      obtain ⟨rest, found, bounded⟩ := ih moved ends
      refine ⟨rest, found, ?_⟩
      rw [List.countP_cons_of_neg (by rw [own]; exact Bool.false_ne_true)]
      exact bounded

/-- A bound on the programs of all requests is a bound on what is left of each. -/
theorem endsWithin_run {n : Nat} (bounded : ∀ request, (program request).EndsWithin n)
    (begins : ∀ thread ∈ t.threads, thread.rest.EndsWithin n) (events : List (Event ρ)) :
    ∀ thread ∈ (t.run program events).threads, thread.rest.EndsWithin n := by
  induction events generalizing t with
  | nil => exact begins
  | cons event events ih =>
    apply ih
    intro thread member
    cases event with
    | arrive request =>
      rcases List.mem_append.mp member with old | new
      · exact begins thread old
      · rw [List.mem_singleton.mp new]
        exact bounded request
    | step i =>
      rcases advance_cases t i with unmoved | ⟨request, e, rest, present, moved⟩
      · exact begins thread (unmoved ▸ member)
      · change thread ∈ (t.advance i).threads at member
        rw [moved] at member
        rcases List.mem_or_eq_of_mem_set member with old | rfl
        · exact begins thread old
        · exact ((begins _ (List.mem_of_getElem? present)).step t.world).mono (Nat.sub_le n 1)
    | tick moment => exact begins thread member
    | reseed supply => exact begins thread member
    | enroll directory => exact begins thread member

end Traffic

end SessionTokens
