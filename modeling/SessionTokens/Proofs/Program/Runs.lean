import SessionTokens.Proofs.Program.Uses

set_option autoImplicit false

namespace SessionTokens

namespace Action

variable {ε δ α β σ : Type} (answer : (e : Effect) → σ → e.Answer × σ) (s : σ)

theorem run_perform (e : Effect) : (perform e : Action ε e.Answer).run.run answer s =
    (.ok (answer e s).1, (answer e s).2) := rfl

theorem run_ofChecked (c : Checked ε α) : (ofChecked c).run.run answer s = (c, s) := rfl

theorem run_ofExcept (c : Except ε α) :
    (ofExcept c).run.run answer s = (c.mapError .refused, s) := rfl

theorem run_require (cause : ε) (a : Option α) : (require cause a).run.run answer s =
    (match a with
      | some a => .ok a
      | none => .error (.refused cause), s) := by
  cases a <;> rfl

theorem run_mapCause (f : ε → δ) (a : Action ε α) : (a.mapCause f).run.run answer s =
    ((a.run.run answer s).1.mapError (Fault.map f), (a.run.run answer s).2) :=
  Program.run_bind answer a.run _ s

theorem run_map (f : α → β) (a : Action ε α) : (f <$> a).run.run answer s =
    ((a.run.run answer s).1.map f, (a.run.run answer s).2) := by
  rw [map_eq_pure_bind, run_bind]
  cases a.run.run answer s with
  | mk result t => cases result <;> rfl

theorem run_ledger (call : LedgerCall) : (ledger call).run.run answer s =
    ((answer (.ledger call) s).1.mapError .refused, (answer (.ledger call) s).2) := by
  rw [ledger, callOf, run_bind]
  rfl

theorem run_directory (call : DirectoryCall) : (directory call).run.run answer s =
    ((answer (.directory call) s).1.mapError .refused, (answer (.directory call) s).2) := by
  rw [directory, callOf, run_bind]
  rfl

end Action

/-- No effect sets the clocks. -/
theorem World.moment_answer (w : World) (e : Effect) : (w.answer e).2.moment = w.moment := by
  cases e with
  | password call => cases call <;> rfl
  | _ => rfl

theorem Program.moment_run {α : Type} (p : Program α) (w : World) :
    (p.run World.answer w).2.moment = w.moment := by
  induction p generalizing w with
  | done a => rfl
  | perform e next ih => exact (ih _ _).trans (w.moment_answer e)

end SessionTokens
