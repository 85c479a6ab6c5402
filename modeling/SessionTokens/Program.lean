import SessionTokens.Fault
import SessionTokens.Program.Effect

set_option autoImplicit false

namespace SessionTokens

inductive Program (α : Type) : Type
  | done (value : α)
  | perform (e : Effect) (next : e.Answer → Program α)

namespace Program

def bind {α β : Type} (p : Program α) (f : α → Program β) : Program β :=
  match p with
  | .done a => f a
  | .perform e next => .perform e fun answer => (next answer).bind f

instance : Monad Program where
  pure := .done
  bind := bind

theorem bind_done {α : Type} (p : Program α) : p.bind .done = p := by
  induction p with
  | done a => rfl
  | perform e next ih => exact congrArg (perform e) (funext ih)

theorem bind_assoc {α β γ : Type} (p : Program α) (f : α → Program β) (g : β → Program γ) :
    (p.bind f).bind g = p.bind fun a => (f a).bind g := by
  induction p with
  | done a => rfl
  | perform e next ih => exact congrArg (perform e) (funext ih)

instance : LawfulMonad Program :=
  LawfulMonad.mk' Program bind_done (fun _ _ => rfl) bind_assoc

/-- Runs a program to its end; `answer` says what each effect yields in a state, and the state
after it. -/
def run {α σ : Type} (answer : (e : Effect) → σ → e.Answer × σ) : Program α → σ → α × σ
  | .done a, s => (a, s)
  | .perform e next, s =>
    let (a, t) := answer e s
    (next a).run answer t

theorem run_bind {α β σ : Type} (answer : (e : Effect) → σ → e.Answer × σ) (p : Program α)
    (f : α → Program β) (s : σ) :
    (p.bind f).run answer s = (f (p.run answer s).1).run answer (p.run answer s).2 := by
  induction p generalizing s with
  | done a => rfl
  | perform e next ih => exact ih _ _

/-- Performs one effect: what is left of the program, and the state after it. -/
def step {α σ : Type} (answer : (e : Effect) → σ → e.Answer × σ) : Program α → σ → Program α × σ
  | .done a, s => (.done a, s)
  | .perform e next, s =>
    let (a, t) := answer e s
    (next a, t)

end Program

/-- A program that may end in a fault. The effects before the fault have happened. -/
abbrev Action (ε α : Type) : Type :=
  ExceptT (Fault ε) Program α

namespace Action

variable {ε δ α : Type}

def perform (e : Effect) : Action ε e.Answer :=
  ExceptT.mk (.perform e fun answer => .done (.ok answer))

def refuse (cause : ε) : Action ε α :=
  throw (.refused cause)

def ofChecked (c : Checked ε α) : Action ε α :=
  ExceptT.mk (.done c)

def ofExcept (c : Except ε α) : Action ε α :=
  ofChecked (c.mapError .refused)

/-- The value there is, or a refusal. -/
def require (cause : ε) : Option α → Action ε α
  | some a => pure a
  | none => refuse cause

/-- The same action, with its causes seen from another layer. -/
def mapCause (f : ε → δ) (a : Action ε α) : Action δ α :=
  ExceptT.mk (a.run.bind fun r => .done (r.mapError (Fault.map f)))

/-- An answer that may be a failure. -/
def callOf (c : Action ε (Except ε α)) : Action ε α := do
  ofExcept (← c)

def ledger (call : LedgerCall) : Action LedgerError call.Result :=
  callOf (perform (.ledger call))

def directory (call : DirectoryCall) : Action DirectoryError call.Result :=
  callOf (perform (.directory call))

end Action

end SessionTokens
