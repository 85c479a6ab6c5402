import SessionTokens.Proofs.Program.Quiet

set_option autoImplicit false

namespace SessionTokens

/-- A store where a call that fails has written nothing, and only the calls that write do; `view` is
the ledger that it holds. -/
structure IsTransactional {σ : Type} (view : σ → Ledger)
    (answer : (e : Effect) → σ → e.Answer × σ) : Prop where
  failed : ∀ call s e, (answer (.ledger call) s).1 = .error e →
    view (answer (.ledger call) s).2 = view s
  reading : ∀ e s, Effect.IsQuiet e → view (answer e s).2 = view s

/-- A world where calls to the ledger may fail before they are carried out. -/
def World.answerUnless (fails : LedgerCall → World → Option LedgerError) :
    (e : Effect) → World → e.Answer × World
  | .ledger call, w =>
    match fails call w with
    | some e => (.error e, w)
    | none => w.answer (.ledger call)
  | e, w => w.answer e

theorem Ledger.answer_error {l : Ledger} {call : LedgerCall} {e : LedgerError}
    (refused : (l.answer call).1 = .error e) : (l.answer call).2 = l := by
  have unwritten {changed : Except LedgerError Ledger}
      (refused : (commit l changed).1 = .error e) : (commit l changed).2 = l := by
    cases changed with
    | ok l' => cases refused
    | error e' => rfl
  cases call with
  | insert r => exact unwritten refused
  | rotate old child => exact unwritten refused
  | revokeAll user => cases refused
  | _ => rfl

theorem isTransactional_answerUnless (fails : LedgerCall → World → Option LedgerError) :
    IsTransactional World.ledger (World.answerUnless fails) where
  failed call w e refused := by
    unfold World.answerUnless at refused ⊢
    dsimp only at refused ⊢
    split at refused
    · rfl
    · exact Ledger.answer_error refused
  reading e w quiet := by
    have same := (World.resembles_answer quiet w).ledger
    cases e with
    | ledger call =>
      unfold World.answerUnless
      dsimp only
      split
      · rfl
      · exact same
    | _ => exact same

namespace Action

variable {σ : Type} {view : σ → Ledger} {answer : (e : Effect) → σ → e.Answer × σ}
  {ε δ α β : Type}

/-- Where the action is refused it has left the ledger. -/
def Spares (view : σ → Ledger) (answer : (e : Effect) → σ → e.Answer × σ) (a : Action ε α) :
    Prop :=
  ∀ s fault t, a.run.run answer s = (.error fault, t) → view t = view s

/-- The write of an action comes after what is quiet. -/
theorem spares_quiet_bind (store : IsTransactional view answer) {a : Action ε α}
    (quiet : Uses Effect.IsQuiet a) {f : α → Action ε β} (later : ∀ x, Spares view answer (f x)) :
    Spares view answer (a >>= f) := by
  intro s fault t refused
  have kept := Program.Uses.view_run quiet view (fun e silent s => store.reading e s silent) s
  rw [run_bind] at refused
  cases ended : a.run.run answer s with
  | mk result u =>
    change Program.run answer a.run s = _ at ended
    rw [ended] at refused kept
    cases result with
    | error e =>
      cases refused
      exact kept
    | ok x => exact (later x u fault t refused).trans kept

/-- After the write there is only a value. -/
theorem spares_bind_pure {a : Action ε α} (spares : Spares view answer a) (f : α → β) :
    Spares view answer (a >>= fun x => pure (f x)) := by
  intro s fault t refused
  rw [run_bind] at refused
  cases ended : a.run.run answer s with
  | mk result u =>
    rw [ended] at refused
    cases result with
    | error e =>
      cases refused
      exact spares s fault t ended
    | ok x => cases refused

theorem spares_ledger (store : IsTransactional view answer) (call : LedgerCall)
    (f : LedgerError → δ) : Spares view answer ((ledger call).mapCause f) := by
  intro s fault t refused
  rw [run_mapCause, run_ledger] at refused
  obtain ⟨result, rfl⟩ := Prod.mk.inj refused
  cases answered : (answer (.ledger call) s).1 with
  | error e => exact store.failed call s e answered
  | ok x =>
    rw [answered] at result
    cases result

end Action

end SessionTokens
