import SessionTokens.World

set_option autoImplicit false

/- Requests under way at once. Each performs its effects one at a time, in any order with those of
the others, and between two effects the clocks, the supply of identifiers and the directory may
become anything. `Program.Upholds` judges one program alone, by what it may count on from its
surroundings; `Upholding.next` puts the judgements together. -/
namespace SessionTokens

/-- A request and what is left of its program. -/
structure Thread (ρ α : Type) where
  request : ρ
  rest : Program α

/-- Requests in a world, in the order of their arrival. -/
structure Traffic (ρ α : Type) where
  world : World
  threads : List (Thread ρ α)

/-- What happens next. -/
inductive Event (ρ : Type)
  | arrive (request : ρ)
  | step (thread : Nat)
  | tick (moment : Moment)
  | reseed (supply : Supply)
  | enroll (directory : Directory)

/-- What an effect may answer over a ledger, and the ledger after it. Answers that are not the
ledger's can be any. -/
def Effect.Yields : (e : Effect) → Ledger → e.Answer → Ledger → Prop
  | .ledger call, l, answer, l' => (answer, l') = l.answer call
  | _, l, _, l' => l' = l

theorem World.yields (e : Effect) (w : World) :
    e.Yields w.ledger (w.answer e).1 (w.answer e).2.ledger := by
  cases e with
  | password call => cases call <;> rfl
  | _ => rfl

/-- What a program may count on: how far the ledger may have moved by the time of each of its
effects, and what the effect may answer. -/
structure Surroundings where
  rely : Ledger → Ledger → Prop
  yields : (e : Effect) → Ledger → e.Answer → Ledger → Prop
  refl : ∀ l, rely l l
  trans : ∀ l m n, rely l m → rely m n → rely l n

namespace Program

variable {α : Type}

/-- From a ledger on, every step is good: in the ledgers before and after it and in what is left of
the program. -/
def Upholds (s : Surroundings) (good : Ledger → Ledger → Program α → Prop) :
    Program α → Ledger → Prop
  | .done _, _ => True
  | .perform e next, l => ∀ m, s.rely l m → ∀ answer n, s.yields e m answer n →
      good m n (next answer) ∧ (next answer).Upholds s good n

theorem Upholds.later {s : Surroundings} {good : Ledger → Ledger → Program α → Prop}
    {p : Program α} {l m : Ledger} (upholds : p.Upholds s good l) (moved : s.rely l m) :
    p.Upholds s good m := by
  cases p with
  | done a => trivial
  | perform e next => exact fun n further => upholds n (s.trans l m n moved further)

theorem Upholds.of_forall {s : Surroundings} {good : Ledger → Ledger → Program α → Prop}
    (always : ∀ l l' rest, good l l' rest) (p : Program α) (l : Ledger) : p.Upholds s good l := by
  induction p generalizing l with
  | done a => trivial
  | perform e next ih => exact fun m _ answer n _ => ⟨always m n _, ih answer n⟩

theorem Upholds.imp {s : Surroundings} {good good' : Ledger → Ledger → Program α → Prop}
    {p : Program α} {l : Ledger} (upholds : p.Upholds s good l)
    (weaker : ∀ l l' rest, good l l' rest → good' l l' rest) : p.Upholds s good' l := by
  induction p generalizing l with
  | done a => trivial
  | perform e next ih =>
    intro m moved answer n answers
    obtain ⟨deed, kept⟩ := upholds m moved answer n answers
    exact ⟨weaker _ _ _ deed, ih answer kept⟩

/-- Two judgements hold together in surroundings that both may count on. -/
theorem Upholds.and {s s' : Surroundings} {good good' : Ledger → Ledger → Program α → Prop}
    {p : Program α} {l : Ledger} (first : p.Upholds s good l) (second : p.Upholds s' good' l)
    (rely : ∀ l m, s'.rely l m → s.rely l m)
    (yields : ∀ e l answer m, s'.yields e l answer m → s.yields e l answer m) :
    p.Upholds s' (fun l l' rest => good l l' rest ∧ good' l l' rest) l := by
  induction p generalizing l with
  | done a => trivial
  | perform e next ih =>
    intro m moved answer n answers
    obtain ⟨one, kept⟩ := first m (rely l m moved) answer n (yields e m answer n answers)
    obtain ⟨other, kept'⟩ := second m moved answer n answers
    exact ⟨⟨one, other⟩, ih answer kept kept'⟩

end Program

namespace Traffic

variable {ρ α : Type}

/-- Nothing stored and no requests yet. -/
def start (moment : Moment) (supply : Supply) : Traffic ρ α :=
  ⟨World.start moment supply, []⟩

/-- Performs the next effect of a thread. -/
def advance (t : Traffic ρ α) (i : Nat) : Traffic ρ α :=
  match t.threads[i]? with
  | none => t
  | some thread =>
    let (rest, world) := thread.rest.step World.answer t.world
    ⟨world, t.threads.set i { thread with rest }⟩

def next (program : ρ → Program α) (t : Traffic ρ α) : Event ρ → Traffic ρ α
  | .arrive request => { t with threads := t.threads ++ [⟨request, program request⟩] }
  | .step i => t.advance i
  | .tick moment => { t with world := { t.world with moment } }
  | .reseed supply => { t with world := { t.world with supply } }
  | .enroll directory => { t with world := { t.world with directory } }

def run (program : ρ → Program α) (t : Traffic ρ α) (events : List (Event ρ)) : Traffic ρ α :=
  events.foldl (next program) t

@[simp] theorem run_nil (program : ρ → Program α) (t : Traffic ρ α) : t.run program [] = t := rfl

@[simp] theorem run_cons (program : ρ → Program α) (t : Traffic ρ α) (event : Event ρ)
    (events : List (Event ρ)) :
    t.run program (event :: events) = (t.next program event).run program events := rfl

theorem run_append (program : ρ → Program α) (t : Traffic ρ α) (first second : List (Event ρ)) :
    t.run program (first ++ second) = (t.run program first).run program second :=
  List.foldl_append

abbrev ledger (t : Traffic ρ α) : Ledger :=
  t.world.ledger

/-- A property of every state from which a run takes a step. -/
def Along (program : ρ → Program α) (P : Nat → Traffic ρ α → Prop) :
    Traffic ρ α → List (Event ρ) → Prop
  | _, [] => True
  | t, event :: events =>
    (∀ i, event = .step i → P i t) ∧ Along program P (t.next program event) events

theorem advance_eq {t : Traffic ρ α} {i : Nat} {request : ρ} {e : Effect}
    {next : e.Answer → Program α} (present : t.threads[i]? = some ⟨request, .perform e next⟩) :
    t.advance i = ⟨(t.world.answer e).2,
      t.threads.set i ⟨request, next (t.world.answer e).1⟩⟩ := by
  rw [advance, present]
  rfl

theorem next_set (program : ρ → Program α) {threads : List (Thread ρ α)} {i : Nat}
    (inside : i < threads.length) (w : World) (request : ρ) (e : Effect)
    (next : e.Answer → Program α) :
    Traffic.next program ⟨w, threads.set i ⟨request, .perform e next⟩⟩ (.step i) =
      ⟨(w.answer e).2, threads.set i ⟨request, next (w.answer e).1⟩⟩ := by
  have present : (threads.set i ⟨request, .perform e next⟩)[i]? =
      some ⟨request, .perform e next⟩ := List.getElem?_set_self inside
  change advance _ i = _
  rw [advance_eq present, List.set_set]

theorem set_last (threads : List (Thread ρ α)) (old new : Thread ρ α) :
    (threads ++ [old]).set threads.length new = threads ++ [new] := by
  rw [List.set_append_right _ _ (Nat.le_refl _), Nat.sub_self]
  rfl

theorem next_last (program : ρ → Program α) (threads : List (Thread ρ α)) (w : World) (request : ρ)
    (e : Effect) (next : e.Answer → Program α) :
    Traffic.next program ⟨w, threads ++ [⟨request, .perform e next⟩]⟩ (.step threads.length) =
      ⟨(w.answer e).2, threads ++ [⟨request, next (w.answer e).1⟩]⟩ := by
  have present : (threads ++ [⟨request, .perform e next⟩])[threads.length]? =
      some ⟨request, .perform e next⟩ := List.getElem?_concat_length
  change advance _ threads.length = _
  rw [advance_eq present, set_last]

/-- A request that nothing else comes between runs to its end. -/
theorem exists_run_alone (program : ρ → Program α) (request : ρ) (w : World) :
    ∃ n, (⟨w, []⟩ : Traffic ρ α).run program (.arrive request :: List.replicate n (.step 0)) =
      ⟨((program request).run World.answer w).2,
        [⟨request, .done ((program request).run World.answer w).1⟩]⟩ := by
  suffices later : ∀ (p : Program α) (w : World), ∃ n,
      (⟨w, [⟨request, p⟩]⟩ : Traffic ρ α).run program (List.replicate n (.step 0)) =
        ⟨(p.run World.answer w).2, [⟨request, .done (p.run World.answer w).1⟩]⟩
    from later (program request) w
  intro p
  induction p with
  | done a => exact fun w => ⟨0, rfl⟩
  | perform e next ih =>
    intro w
    obtain ⟨n, ends⟩ := ih (w.answer e).1 (w.answer e).2
    refine ⟨n + 1, ?_⟩
    have first := next_last program [] w request e next
    simp only [List.nil_append, List.length_nil] at first
    rw [List.replicate_succ, run_cons, first, ends]
    rfl

/-- A step is nothing, or one effect of a thread that is not done. -/
theorem advance_cases (t : Traffic ρ α) (i : Nat) :
    t.advance i = t ∨
      ∃ request e next, t.threads[i]? = some ⟨request, .perform e next⟩ ∧
        t.advance i = ⟨(t.world.answer e).2,
          t.threads.set i ⟨request, next (t.world.answer e).1⟩⟩ := by
  cases present : t.threads[i]? with
  | none =>
    refine Or.inl ?_
    rw [advance, present]
  | some thread =>
    obtain ⟨request, rest⟩ := thread
    cases rest with
    | done a =>
      refine Or.inl ?_
      obtain ⟨inside, same⟩ := List.getElem?_eq_some_iff.mp present
      rw [advance, present]
      change (⟨t.world, t.threads.set i ⟨request, .done a⟩⟩ : Traffic ρ α) = t
      rw [← same, List.set_getElem_self]
    | perform e next => exact Or.inr ⟨request, e, next, rfl, advance_eq present⟩

theorem of_getElem?_set {threads : List (Thread ρ α)} {i k : Nat} {new thread : Thread ρ α}
    (present : (threads.set i new)[k]? = some thread) :
    (i = k ∧ thread = new) ∨ (i ≠ k ∧ threads[k]? = some thread) := by
  by_cases same : i = k
  · subst same
    rw [List.getElem?_set, if_pos rfl] at present
    split at present
    · exact Or.inl ⟨rfl, (Option.some.inj present).symm⟩
    · cases present
  · rw [List.getElem?_set_ne same] at present
    exact Or.inr ⟨same, present⟩

theorem of_getElem?_append {threads : List (Thread ρ α)} {k : Nat} {new thread : Thread ρ α}
    (present : (threads ++ [new])[k]? = some thread) :
    threads[k]? = some thread ∨ thread = new := by
  rw [List.getElem?_append] at present
  split at present
  · exact Or.inl present
  · exact Or.inr (List.mem_singleton.mp (List.mem_of_getElem? present))

/-- Every thread upholds what is expected of its request. -/
def Upholding (s : ρ → Surroundings) (good : ρ → Ledger → Ledger → Program α → Prop)
    (t : Traffic ρ α) : Prop :=
  ∀ thread ∈ t.threads, thread.rest.Upholds (s thread.request) (good thread.request) t.ledger

/-- What an event does: nothing that threads or the ledger see, an arrival, or a good step. -/
inductive Move (program : ρ → Program α) (good : ρ → Ledger → Ledger → Program α → Prop) :
    Event ρ → Traffic ρ α → Traffic ρ α → Prop
  | idle {event : Event ρ} {t t' : Traffic ρ α} (ledger : t'.ledger = t.ledger)
      (threads : t'.threads = t.threads) : Move program good event t t'
  | arrive {t : Traffic ρ α} (request : ρ) : Move program good (.arrive request) t
      { t with threads := t.threads ++ [⟨request, program request⟩] }
  | act {t t' : Traffic ρ α} {i : Nat} {request : ρ} {e : Effect} {next : e.Answer → Program α}
      {answer : e.Answer} (present : t.threads[i]? = some ⟨request, .perform e next⟩)
      (deed : good request t.ledger t'.ledger (next answer))
      (threads : t'.threads = t.threads.set i ⟨request, next answer⟩) :
      Move program good (.step i) t t'

variable {program : ρ → Program α} {s : ρ → Surroundings}
  {good : ρ → Ledger → Ledger → Program α → Prop} {t t' : Traffic ρ α} {event : Event ρ}

theorem Move.imp {good' : ρ → Ledger → Ledger → Program α → Prop}
    (moved : Move program good event t t')
    (weaker : ∀ request l l' rest, good request l l' rest → good' request l l' rest) :
    Move program good' event t t' := by
  cases moved with
  | idle ledger threads => exact .idle ledger threads
  | arrive request => exact .arrive request
  | act present deed threads => exact .act present (weaker _ _ _ _ deed) threads

/-- A thread seen after a move was there before, has just arrived or has just acted. -/
theorem Move.thread (moved : Move program good event t t') {k : Nat} {thread : Thread ρ α}
    (present : t'.threads[k]? = some thread) :
    t.threads[k]? = some thread ∨
      (event = .arrive thread.request ∧ thread.rest = program thread.request) ∨
      (event = .step k ∧ (∃ e next, t.threads[k]? = some ⟨thread.request, .perform e next⟩) ∧
        good thread.request t.ledger t'.ledger thread.rest) := by
  cases moved with
  | idle _ threads =>
    rw [threads] at present
    exact Or.inl present
  | arrive request =>
    rcases of_getElem?_append present with old | rfl
    · exact Or.inl old
    · exact Or.inr (Or.inl ⟨rfl, rfl⟩)
  | @act _ _ i request e next answer before deed threads =>
    rw [threads] at present
    rcases of_getElem?_set present with ⟨rfl, rfl⟩ | ⟨-, old⟩
    · exact Or.inr (Or.inr ⟨rfl, ⟨e, next, before⟩, deed⟩)
    · exact Or.inl old

/-- A thread that is done stays as it is. -/
theorem Move.done (moved : Move program good event t t') {k : Nat} {request : ρ} {a : α}
    (present : t.threads[k]? = some ⟨request, .done a⟩) :
    t'.threads[k]? = some ⟨request, .done a⟩ := by
  cases moved with
  | idle _ threads => rw [threads, present]
  | arrive request =>
    obtain ⟨inside, -⟩ := List.getElem?_eq_some_iff.mp present
    exact (List.getElem?_append_left inside).trans present
  | @act _ _ i _ _ _ _ before _ threads =>
    have other : i ≠ k := by
      rintro rfl
      rw [before] at present
      cases present
    rw [threads, List.getElem?_set_ne other, present]

theorem Upholding.arrive (upholding : t.Upholding s good) (request : ρ)
    (begins : (program request).Upholds (s request) (good request) t.ledger) :
    ({ t with threads := t.threads ++ [⟨request, program request⟩] } : Traffic ρ α).Upholding
      s good := by
  intro thread member
  rcases List.mem_append.mp member with old | new
  · exact upholding thread old
  · rw [List.mem_singleton.mp new]
    exact begins

/-- One thread's good step, which the others count on, keeps the judgements of all. -/
theorem Upholding.act (upholding : t.Upholding s good) {i : Nat} {request : ρ} {e : Effect}
    {next : e.Answer → Program α} (present : t.threads[i]? = some ⟨request, .perform e next⟩)
    (answers : (s request).yields e t.ledger (t.world.answer e).1 (t.world.answer e).2.ledger)
    (fair : ∀ other l l' rest, good request l l' rest → (s other).rely l l') :
    good request t.ledger (t.world.answer e).2.ledger (next (t.world.answer e).1) ∧
      Upholding s good ⟨(t.world.answer e).2,
        t.threads.set i ⟨request, next (t.world.answer e).1⟩⟩ := by
  have member := List.mem_of_getElem? present
  obtain ⟨deed, kept⟩ := upholding _ member t.ledger ((s request).refl t.ledger) _ _ answers
  refine ⟨deed, ?_⟩
  intro thread inside
  rcases List.mem_or_eq_of_mem_set inside with old | rfl
  · exact (upholding thread old).later (fair _ _ _ _ deed)
  · exact kept

/-- Whatever happens next is a move, and every thread keeps upholding. -/
theorem Upholding.next (upholding : t.Upholding s good) (event : Event ρ)
    (answers : ∀ i request e rest, event = .step i →
      t.threads[i]? = some ⟨request, .perform e rest⟩ →
        (s request).yields e t.ledger (t.world.answer e).1 (t.world.answer e).2.ledger)
    (fair : ∀ request other l l' rest, good request l l' rest → (s other).rely l l')
    (begins : ∀ request, event = .arrive request →
      (program request).Upholds (s request) (good request) t.ledger) :
    Move program good event t (t.next program event) ∧
      (t.next program event).Upholding s good := by
  cases event with
  | arrive request => exact ⟨.arrive request, upholding.arrive request (begins request rfl)⟩
  | step i =>
    rcases advance_cases t i with same | ⟨request, e, rest, present, moved⟩
    · change Move program good (.step i) t (t.advance i) ∧ (t.advance i).Upholding s good
      rw [same]
      exact ⟨.idle rfl rfl, upholding⟩
    · obtain ⟨deed, kept⟩ :=
        upholding.act present (answers i request e rest rfl present) (fair request)
      change Move program good (.step i) t (t.advance i) ∧ (t.advance i).Upholding s good
      rw [moved]
      exact ⟨.act present deed rfl, kept⟩
  | tick moment => exact ⟨.idle rfl rfl, upholding⟩
  | reseed supply => exact ⟨.idle rfl rfl, upholding⟩
  | enroll directory => exact ⟨.idle rfl rfl, upholding⟩

end Traffic

end SessionTokens
