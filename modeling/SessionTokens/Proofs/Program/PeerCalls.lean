import SessionTokens.Proofs.Program.Runs

set_option autoImplicit false

namespace SessionTokens

variable {α σ : Type} {answer : (e : Effect) → σ → e.Answer × σ}

/-- The call that an effect is, if it is one. -/
def Effect.call? : Effect → Option PeerCall
  | .peer call => some call
  | _ => none

/-- The calls to the peer that a program makes, in their order. -/
def Program.calls (answer : (e : Effect) → σ → e.Answer × σ) : Program α → σ → List PeerCall
  | .done _, _ => []
  | .perform e next, s => e.call?.toList ++ (next (answer e s).1).calls answer (answer e s).2

/-- Answers effects as before and keeps the calls. -/
def logged (answer : (e : Effect) → σ → e.Answer × σ) (e : Effect) (s : σ × List PeerCall) :
    e.Answer × σ × List PeerCall :=
  ((answer e s.1).1, (answer e s.1).2, s.2 ++ e.call?.toList)

theorem Program.run_logged (p : Program α) (s : σ) (log : List PeerCall) :
    p.run (logged answer) (s, log) =
      ((p.run answer s).1, (p.run answer s).2, log ++ p.calls answer s) := by
  induction p generalizing s log with
  | done a =>
    rw [calls, List.append_nil]
    rfl
  | perform e next ih =>
    have rest := ih (answer e s).1 (answer e s).2 (log ++ e.call?.toList)
    rw [List.append_assoc] at rest
    exact rest

/-- A run that ends with a list of calls has made these. -/
theorem Program.calls_of_run {p : Program α} {s : σ} {a : α} {t : σ × List PeerCall}
    (ends : p.run (logged answer) (s, []) = (a, t)) :
    (p.run answer s).1 = a ∧ p.calls answer s = t.2 := by
  rw [run_logged] at ends
  obtain ⟨rfl, rfl⟩ := Prod.mk.inj ends
  exact ⟨rfl, rfl⟩

end SessionTokens
