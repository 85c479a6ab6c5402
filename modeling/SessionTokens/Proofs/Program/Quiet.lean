import SessionTokens.Proofs.Program.Runs

set_option autoImplicit false

namespace SessionTokens

/-- An effect that writes to no store. -/
def Effect.IsQuiet : Effect → Prop
  | .ledger (.insert _) => False
  | .ledger (.rotate _ _) => False
  | .ledger (.revokeAll _) => False
  | .directory (.insert _) => False
  | _ => True

namespace World

/-- A world and one that it leads to, where nothing has happened but that random bits were drawn. -/
structure Resembles (w w' : World) : Prop where
  ledger : w'.ledger = w.ledger
  directory : w'.directory = w.directory
  moment : w'.moment = w.moment
  source : w'.supply.source = w.supply.source
  drawn : w.supply.drawn ≤ w'.supply.drawn

theorem Resembles.refl (w : World) : w.Resembles w :=
  ⟨rfl, rfl, rfl, rfl, Nat.le_refl _⟩

theorem Resembles.trans {w w' w'' : World} (first : w.Resembles w') (second : w'.Resembles w'') :
    w.Resembles w'' :=
  ⟨second.ledger.trans first.ledger, second.directory.trans first.directory,
    second.moment.trans first.moment, second.source.trans first.source,
    Nat.le_trans first.drawn second.drawn⟩

theorem resembles_draw (w : World) : w.Resembles w.draw.2 :=
  ⟨rfl, rfl, rfl, rfl, Nat.le_succ _⟩

theorem resembles_answer {e : Effect} (quiet : e.IsQuiet) (w : World) :
    w.Resembles (w.answer e).2 := by
  cases e with
  | ledger call => cases call <;> first | exact quiet.elim | exact .refl w
  | directory call => cases call <;> first | exact quiet.elim | exact .refl w
  | password call =>
    cases call with
    | hash costs password => exact w.resembles_draw
    | verify stored password => exact .refl w
  | newUserId => exact w.resembles_draw
  | newRecordId => exact w.resembles_draw
  | newTokenId => exact w.resembles_draw
  | _ => exact .refl w

/-- No identifier that is drawn from now on is that of a record. -/
def IsUnused (w : World) : Prop :=
  ∀ n, w.supply.drawn ≤ n → w.ledger.find? (TokenId.random (w.supply.source n)) = none

theorem Resembles.isUnused {w w' : World} (resembles : w.Resembles w') (unused : w.IsUnused) :
    w'.IsUnused := by
  intro n drawn
  rw [resembles.ledger, resembles.source]
  exact unused n (Nat.le_trans resembles.drawn drawn)

end World

theorem Program.Uses.resembles {α : Type} {p : Program α} (uses : p.Uses Effect.IsQuiet)
    (w : World) : w.Resembles (p.run World.answer w).2 := by
  induction p generalizing w with
  | done a => exact .refl w
  | perform e next ih =>
    exact (World.resembles_answer uses.1 w).trans (ih _ (uses.2 _) _)

namespace Action

variable {ε δ α β : Type} {allowed : Effect → Prop}

theorem uses_mapCause (f : ε → δ) {a : Action ε α} (uses : Uses allowed a) :
    Uses allowed (a.mapCause f) :=
  Program.Uses.bind uses fun _ => trivial

theorem uses_ledger {call : LedgerCall} (permitted : allowed (.ledger call)) :
    Uses allowed (ledger call) :=
  uses_bind (uses_perform permitted) fun _ => uses_ofExcept _

theorem uses_directory {call : DirectoryCall} (permitted : allowed (.directory call)) :
    Uses allowed (directory call) :=
  uses_bind (uses_perform permitted) fun _ => uses_ofExcept _

/-- A quiet beginning ends in a fault, or the rest goes on where it began. -/
theorem run_quiet_bind {a : Action ε α} (quiet : Uses Effect.IsQuiet a) (f : α → Action ε β)
    (w : World) :
    (∃ fault w', w.Resembles w' ∧ (a >>= f).run.run World.answer w = (.error fault, w')) ∨
      ∃ x w', w.Resembles w' ∧ a.run.run World.answer w = (.ok x, w') ∧
        (a >>= f).run.run World.answer w = (f x).run.run World.answer w' := by
  have resembles := Program.Uses.resembles quiet w
  rw [run_bind]
  cases ended : a.run.run World.answer w with
  | mk result w' =>
    change Program.run World.answer a.run w = _ at ended
    rw [ended] at resembles
    cases result with
    | error fault => exact Or.inl ⟨fault, w', resembles, rfl⟩
    | ok x => exact Or.inr ⟨x, w', resembles, rfl, rfl⟩

end Action

end SessionTokens
