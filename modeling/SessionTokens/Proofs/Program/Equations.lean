import SessionTokens.Program

set_option autoImplicit false

namespace SessionTokens.Action

variable {ε δ α β : Type}

theorem run_perform_bind {e : Effect} {f : e.Answer → Action ε β}
    {k : e.Answer → Program (Checked ε β)} (goesOn : ∀ answer, (f answer).run = k answer) :
    (perform e >>= f).run = .perform e k :=
  congrArg (Program.perform e) (funext goesOn)

theorem run_ledger_bind {g : LedgerError → ε} {call : LedgerCall} {f : call.Result → Action ε β}
    {k : Except LedgerError call.Result → Program (Checked ε β)}
    (ok : ∀ a, (f a).run = k (.ok a))
    (error : ∀ e, .done (.error (.refused (g e))) = k (.error e)) :
    ((ledger call).mapCause g >>= f).run = .perform (.ledger call) k := by
  refine congrArg (Program.perform (.ledger call)) (funext fun answer => ?_)
  cases answer with
  | ok a => exact ok a
  | error e => exact error e

theorem run_directory_bind {g : DirectoryError → ε} {call : DirectoryCall}
    {f : call.Result → Action ε β} {k : Except DirectoryError call.Result → Program (Checked ε β)}
    (ok : ∀ a, (f a).run = k (.ok a))
    (error : ∀ e, .done (.error (.refused (g e))) = k (.error e)) :
    ((directory call).mapCause g >>= f).run = .perform (.directory call) k := by
  refine congrArg (Program.perform (.directory call)) (funext fun answer => ?_)
  cases answer with
  | ok a => exact ok a
  | error e => exact error e

theorem run_ofExcept_bind (c : Except ε α) (f : α → Action ε β) :
    (ofExcept c >>= f).run = match c with
      | .ok a => (f a).run
      | .error cause => .done (.error (.refused cause)) := by
  cases c <;> rfl

theorem run_require_bind (cause : ε) (a : Option α) (f : α → Action ε β) :
    (require cause a >>= f).run = match a with
      | some a => (f a).run
      | none => .done (.error (.refused cause)) := by
  cases a <;> rfl

theorem run_mapCause_ofChecked_bind (g : δ → ε) (c : Checked δ α) (f : α → Action ε β) :
    ((ofChecked c).mapCause g >>= f).run = match c with
      | .ok a => (f a).run
      | .error fault => .done (.error (fault.map g)) := by
  cases c <;> rfl

end SessionTokens.Action
