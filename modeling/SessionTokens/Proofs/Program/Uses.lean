import SessionTokens.Proofs.Program.Equations
import SessionTokens.World

set_option autoImplicit false

namespace SessionTokens

/-- Every effect of the program is an allowed one. -/
def Program.Uses {α : Type} (allowed : Effect → Prop) : Program α → Prop
  | .done _ => True
  | .perform e next => allowed e ∧ ∀ answer, (next answer).Uses allowed

theorem Program.Uses.bind {α β : Type} {allowed : Effect → Prop} {p : Program α}
    {f : α → Program β} (first : p.Uses allowed) (later : ∀ a, (f a).Uses allowed) :
    (p.bind f).Uses allowed := by
  induction p with
  | done a => exact later a
  | perform e next ih => exact ⟨first.1, fun answer => ih answer (first.2 answer)⟩

/-- Effects that leave what is seen of a state leave it through a whole program. -/
theorem Program.Uses.view_run {α σ τ : Type} {answer : (e : Effect) → σ → e.Answer × σ}
    {allowed : Effect → Prop} {p : Program α} (uses : p.Uses allowed) (view : σ → τ)
    (silent : ∀ e, allowed e → ∀ s, view (answer e s).2 = view s) (s : σ) :
    view (p.run answer s).2 = view s := by
  induction p generalizing s with
  | done a => rfl
  | perform e next ih =>
    rw [Program.run, ih _ (uses.2 _)]
    exact silent e uses.1 s

theorem Program.Uses.run_eq {α σ : Type} {answer : (e : Effect) → σ → e.Answer × σ}
    {allowed : Effect → Prop} {p : Program α} (uses : p.Uses allowed)
    (silent : ∀ e, allowed e → ∀ s, (answer e s).2 = s) (s : σ) : (p.run answer s).2 = s :=
  uses.view_run id silent s

namespace Action

variable {ε δ α β : Type} {allowed : Effect → Prop}

/-- Every effect of the action is an allowed one. -/
def Uses (allowed : Effect → Prop) (a : Action ε α) : Prop :=
  Program.Uses allowed a.run

theorem uses_pure (x : α) : Uses allowed (pure x : Action ε α) :=
  trivial

theorem uses_ofExcept (c : Except ε α) : Uses allowed (ofExcept c) :=
  trivial

theorem uses_refuse (cause : ε) : Uses allowed (refuse cause : Action ε α) :=
  trivial

theorem uses_require (cause : ε) (a : Option α) : Uses allowed (require cause a) := by
  cases a <;> trivial

theorem uses_perform {e : Effect} (permitted : allowed e) :
    Uses allowed (perform e : Action ε e.Answer) :=
  ⟨permitted, fun _ => trivial⟩

theorem uses_bind {a : Action ε α} {f : α → Action ε β} (first : Uses allowed a)
    (later : ∀ x, Uses allowed (f x)) : Uses allowed (a >>= f) := by
  refine Program.Uses.bind first fun result => ?_
  cases result with
  | ok x => exact later x
  | error fault => trivial

/-- Runs one action after another. -/
theorem run_bind {σ : Type} (answer : (e : Effect) → σ → e.Answer × σ) (a : Action ε α)
    (f : α → Action ε β) (s : σ) :
    (a >>= f).run.run answer s =
      match a.run.run answer s with
      | (.ok x, t) => (f x).run.run answer t
      | (.error fault, t) => (.error fault, t) := by
  change Program.run answer (Program.bind a.run _) s = _
  rw [Program.run_bind]
  cases Program.run answer a.run s with
  | mk result t => cases result <;> rfl

end Action

end SessionTokens
