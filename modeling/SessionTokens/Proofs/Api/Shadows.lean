import SessionTokens.Proofs.Api.Masks

set_option autoImplicit false

/- Actions in the shadow of others. The second of two actions does what the first does, but it may
fail within where the first goes on; and wherever its surroundings fail it, it ends with an error
that the mask of the failure hides. There is one rule for each way to build an action, and what a
run of the second can end with follows by induction on the effects. -/
namespace SessionTokens

variable {ε δ α β : Type} {hidden : Mask → ε → Prop} {hidden' : Mask → δ → Prop}

namespace Program

/-- The program is at its end, refused for a cause that the mask hides. -/
def IsMasked (hidden : Mask → ε → Prop) (m : Mask) (p : Program (Checked ε α)) : Prop :=
  ∃ cause, hidden m cause ∧ p = .done (.error (.refused cause))

/-- The second program in the shadow of the first. -/
inductive Shadows (hidden : Mask → ε → Prop) :
    Program (Checked ε α) → Program (Checked ε α) → Prop
  | same (result : Checked ε α) : Shadows hidden (.done result) (.done result)
  | cut {p p' : Program (Checked ε α)} (masked : IsMasked hidden .internal p') :
    Shadows hidden p p'
  | step {e : Effect} {next next' : e.Answer → Program (Checked ε α)}
    (stops : ∀ x m, e.mask? x = some m → IsMasked hidden m (next' x))
    (later : ∀ x, Shadows hidden (next x) (next' x)) :
    Shadows hidden (.perform e next) (.perform e next')

theorem Shadows.bind {p p' : Program (Checked ε α)} {f f' : Checked ε α → Program (Checked δ β)}
    (first : Shadows hidden p p') (later : ∀ result, Shadows hidden' (f result) (f' result))
    (keeps : ∀ m cause, hidden m cause → IsMasked hidden' m (f' (.error (.refused cause)))) :
    Shadows hidden' (p.bind f) (p'.bind f') := by
  have passes : ∀ m (q : Program (Checked ε α)), IsMasked hidden m q →
      IsMasked hidden' m (q.bind f') := by
    rintro m q ⟨cause, masks, rfl⟩
    exact keeps m cause masks
  induction first with
  | same result => exact later result
  | cut masked => exact .cut (passes .internal _ masked)
  | step stops _ ih => exact .step (fun x m failed => passes m _ (stops x m failed)) ih

/-- A program whose surroundings do not fail it is its own shadow. -/
theorem Uses.shadows {allowed : Effect → Prop} {p : Program (Checked ε α)} (uses : p.Uses allowed)
    (reliable : ∀ e, allowed e → ∀ x, e.mask? x = none) : Shadows hidden p p := by
  induction p with
  | done result => exact .same result
  | perform e next ih =>
    refine .step (fun x m failed => ?_) fun x => ih x (uses.2 x)
    rw [reliable e uses.1 x] at failed
    cases failed

end Program

namespace Action

def Shadows (hidden : Mask → ε → Prop) (a a' : Action ε α) : Prop :=
  Program.Shadows hidden a.run a'.run

theorem shadows_pure (x : α) : Shadows hidden (pure x : Action ε α) (pure x) :=
  .same _

theorem shadows_ofExcept (c : Except ε α) : Shadows hidden (ofExcept c) (ofExcept c) :=
  .same _

theorem shadows_require (cause : ε) (a : Option α) :
    Shadows hidden (require cause a) (require cause a) := by
  cases a <;> exact .same _

theorem shadows_bind {a a' : Action ε α} {f f' : α → Action ε β} (first : Shadows hidden a a')
    (later : ∀ x, Shadows hidden (f x) (f' x)) : Shadows hidden (a >>= f) (a' >>= f') := by
  refine Program.Shadows.bind first (fun result => ?_) fun m cause masks => ⟨cause, masks, rfl⟩
  cases result with
  | ok x => exact later x
  | error fault => exact .same _

theorem shadows_mapCause {g : ε → δ} {a a' : Action ε α} (first : Shadows hidden a a')
    (keeps : ∀ {m cause}, hidden m cause → hidden' m (g cause)) :
    Shadows hidden' (a.mapCause g) (a'.mapCause g) :=
  Program.Shadows.bind first (fun _ => .same _) fun _ cause masks => ⟨g cause, keeps masks, rfl⟩

theorem shadows_perform {e : Effect} (reliable : ∀ x, e.mask? x = none) :
    Shadows hidden (perform e : Action ε e.Answer) (perform e) :=
  .step (fun x m failed => by rw [reliable x] at failed; cases failed) fun _ => .same _

/-- An effect that may fail; with its failure the action ends. -/
theorem shadows_perform_bind {e : Effect} {f f' : e.Answer → Action ε β}
    (stops : ∀ x m, e.mask? x = some m → Program.IsMasked hidden m (f' x).run)
    (later : ∀ x, Shadows hidden (f x) (f' x)) :
    Shadows hidden (perform e >>= f) (perform e >>= f') :=
  .step stops later

theorem shadows_ledger (call : LedgerCall) :
    Shadows LedgerError.Hidden (ledger call) (ledger call) := by
  refine shadows_perform_bind (fun x m failed => ?_) fun x => shadows_ofExcept x
  cases x with
  | ok a => cases failed
  | error cause =>
    cases cause with
    | storage reason =>
      cases failed
      exact ⟨_, .storage reason, rfl⟩
    | _ => cases failed

theorem shadows_directory (call : DirectoryCall) :
    Shadows DirectoryError.Hidden (directory call) (directory call) := by
  refine shadows_perform_bind (fun x m failed => ?_) fun x => shadows_ofExcept x
  cases x with
  | ok a => cases failed
  | error cause =>
    cases cause with
    | usernameTaken username => cases failed
    | storage reason =>
      cases failed
      exact ⟨_, .storage reason, rfl⟩

end Action

/-- Two ways to answer effects, in states that are related: what they answer differs only behind a
mask, and leaves states that are related. -/
def AnswerAlike {σ τ : Type} (related : σ → τ → Prop) (answer : (e : Effect) → σ → e.Answer × σ)
    (answer' : (e : Effect) → τ → e.Answer × τ) : Prop :=
  ∀ e s t, related s t →
    e.Alike (answer e s).1 (answer' e t).1 ∧ related (answer e s).2 (answer' e t).2

/-- Ends that differ, if they do, only behind a mask. -/
def EndAlike (hidden : Mask → ε → Prop) (result result' : Checked ε α) : Prop :=
  result = result' ∨ ∃ m cause cause', hidden m cause ∧ hidden m cause' ∧
    result = .error (.refused cause) ∧ result' = .error (.refused cause')

namespace Program

/-- Some effect of a run is answered in a certain way. -/
inductive Meets {σ : Type} (answer : (e : Effect) → σ → e.Answer × σ)
    (certain : (e : Effect) → e.Answer → Prop) : Program α → σ → Prop
  | here {e : Effect} {next : e.Answer → Program α} {s : σ} (met : certain e (answer e s).1) :
    Meets answer certain (.perform e next) s
  | later {e : Effect} {next : e.Answer → Program α} {s : σ}
    (meets : Meets answer certain (next (answer e s).1) (answer e s).2) :
    Meets answer certain (.perform e next) s

variable {σ : Type} {answer : (e : Effect) → σ → e.Answer × σ}
  {certain : (e : Effect) → e.Answer → Prop}

theorem meets_perform_iff {e : Effect} {next : e.Answer → Program α} {s : σ} :
    (perform e next).Meets answer certain s ↔ certain e (answer e s).1 ∨
      (next (answer e s).1).Meets answer certain (answer e s).2 := by
  constructor
  · intro meets
    cases meets with
    | here met => exact Or.inl met
    | later meets => exact Or.inr meets
  · rintro (met | meets)
    · exact .here met
    · exact .later meets

instance decidableMeets [decides : ∀ e x, Decidable (certain e x)] :
    (p : Program α) → (s : σ) → Decidable (p.Meets answer certain s)
  | .done _, _ => isFalse nofun
  | .perform e next, s =>
    match decides e (answer e s).1, decidableMeets (next (answer e s).1) (answer e s).2 with
    | isTrue met, _ => isTrue (.here met)
    | isFalse _, isTrue meets => isTrue (.later meets)
    | isFalse other, isFalse never => isFalse fun meets =>
      (meets_perform_iff.mp meets).elim other never

theorem Meets.imp {certain' : (e : Effect) → e.Answer → Prop} {p : Program α} {s : σ}
    (meets : p.Meets answer certain s) (implies : ∀ e x, certain e x → certain' e x) :
    p.Meets answer certain' s := by
  induction meets with
  | here met => exact .here (implies _ _ met)
  | later _ ih => exact .later ih

theorem meets_bind_done (p : Program α) (f : α → β) (s : σ) :
    (p.bind fun a => .done (f a)).Meets answer certain s ↔ p.Meets answer certain s := by
  induction p generalizing s with
  | done a => exact iff_of_false nofun nofun
  | perform e next ih =>
    rw [bind, meets_perform_iff, meets_perform_iff]
    exact or_congr_right (ih _ _)

end Program

namespace Program.Shadows

variable {σ τ : Type} {answer : (e : Effect) → σ → e.Answer × σ}
  {answer' : (e : Effect) → τ → e.Answer × τ} {p p' : Program (Checked ε α)}

/-- Runs that meet like answers end alike. -/
theorem run_alike {related : σ → τ → Prop} (alike : AnswerAlike related answer answer')
    (shadows : Shadows hidden p p') {s : σ} {t : τ} (states : related s t) :
    EndAlike hidden (p'.run answer s).1 (p'.run answer' t).1 := by
  induction shadows generalizing s t with
  | same result => exact Or.inl rfl
  | cut masked =>
    obtain ⟨cause, -, rfl⟩ := masked
    exact Or.inl rfl
  | @step e next next' stops later ih =>
    obtain ⟨answers, after⟩ := alike e s t states
    change EndAlike hidden ((next' (answer e s).1).run answer (answer e s).2).1
      ((next' (answer' e t).1).run answer' (answer' e t).2).1
    rcases answers with same | ⟨m, failed, failed'⟩
    · rw [← same]
      exact ih _ after
    · obtain ⟨cause, masks, ends⟩ := stops _ m failed
      obtain ⟨cause', masks', ends'⟩ := stops _ m failed'
      rw [ends, ends']
      exact Or.inr ⟨m, cause, cause', masks, masks', rfl, rfl⟩

/-- The shadow runs as the other does, or it ends with a failure within. -/
theorem run_eq_or (shadows : Shadows hidden p p') (s : σ) :
    p'.run answer s = p.run answer s ∨
      ∃ cause, hidden .internal cause ∧ (p'.run answer s).1 = .error (.refused cause) := by
  induction shadows generalizing s with
  | same result => exact Or.inl rfl
  | cut masked =>
    obtain ⟨cause, masks, rfl⟩ := masked
    exact Or.inr ⟨cause, masks, rfl⟩
  | step stops later ih => exact ih _ _

/-- With a failure of its surroundings the run is at its end. -/
theorem run_of_meets (shadows : Shadows hidden p p') {m : Mask} {s : σ}
    (meets : p'.Meets answer (fun e x => e.mask? x = some m) s) :
    ∃ cause, hidden m cause ∧ (p'.run answer s).1 = .error (.refused cause) := by
  induction shadows generalizing s with
  | same result => cases meets
  | cut masked =>
    obtain ⟨cause, masks, rfl⟩ := masked
    cases meets
  | @step e next next' stops later ih =>
    rcases meets_perform_iff.mp meets with failed | meets
    · obtain ⟨cause, masks, ends⟩ := stops _ m failed
      refine ⟨cause, masks, ?_⟩
      change ((next' (answer e s).1).run answer (answer e s).2).1 = _
      rw [ends]
      rfl
    · exact ih _ meets

end Program.Shadows

end SessionTokens
