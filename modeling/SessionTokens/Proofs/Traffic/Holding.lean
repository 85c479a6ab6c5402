import SessionTokens.Proofs.Ledger.Lookup
import SessionTokens.Proofs.Traffic

set_option autoImplicit false

/- Identifiers in the hands of programs. A program holds an identifier when it may still write it to
the ledger without having drawn it first. An identifier that is unused when it is drawn is in nobody
else's hands and in no record until it is written. -/
namespace SessionTokens

/-- The effect asks for a record under the identifier. -/
def Effect.Writes (c : TokenId) : Effect → Prop
  | .ledger (.insert r) => r.tokenId = c
  | .ledger (.rotate _ child) => child.tokenId = c
  | _ => False

/-- The effect answers with the identifier as a new one. -/
def Effect.Draws (c : TokenId) : (e : Effect) → e.Answer → Prop
  | .newTokenId, id => id = c
  | _, _ => False

/-- The program may write the identifier without drawing it. -/
def Program.Holds {α : Type} (c : TokenId) : Program α → Prop
  | .done _ => False
  | .perform e next => e.Writes c ∨ ∃ answer, ¬ e.Draws c answer ∧ (next answer).Holds c

/-- What a program holds after an effect it held before, or has drawn. -/
theorem Program.Holds.before {α : Type} {c : TokenId} {e : Effect} {next : e.Answer → Program α}
    {answer : e.Answer} (holds : (next answer).Holds c) :
    (Program.perform e next).Holds c ∨ e.Draws c answer := by
  by_cases draws : e.Draws c answer
  · exact Or.inr draws
  · exact Or.inl (Or.inr ⟨answer, draws, holds⟩)

theorem yields_commit {l l' : Ledger} {c : TokenId} {changed : Except LedgerError Ledger}
    {answer : Except LedgerError Unit} (yields : (answer, l') = commit l changed)
    (kept : ∀ m, changed = .ok m → m.find? c = none) (free : l.find? c = none) :
    l'.find? c = none := by
  rcases commit_cases yields with ⟨-, changed⟩ | ⟨e, -, rfl⟩
  · exact kept l' changed
  · exact free

/-- A record comes into the ledger only where it is written. -/
theorem Effect.find?_eq_none {e : Effect} {l l' : Ledger} {answer : e.Answer} {c : TokenId}
    (yields : e.Yields l answer l') (silent : ¬ e.Writes c) (free : l.find? c = none) :
    l'.find? c = none := by
  cases e with
  | ledger call =>
    cases call with
    | insert r =>
      refine yields_commit yields (fun m stored => ?_) free
      rw [Ledger.find?_insert stored, if_neg (by exact silent), free]
    | rotate old child =>
      refine yields_commit yields (fun m stored => ?_) free
      rw [Ledger.find?_rotate stored, if_neg (by exact silent), free, Option.map_none]
    | revokeAll user => rw [(Prod.mk.inj yields).2, Ledger.find?_revokeAll, free, Option.map_none]
    | find id => rw [(Prod.mk.inj yields).2, free]
    | active user now => rw [(Prod.mk.inj yields).2, free]
    | history user => rw [(Prod.mk.inj yields).2, free]
  | _ => exact (congrArg (Ledger.find? · c) yields).trans free

namespace Traffic

variable {ρ α : Type}

/-- In no record, and in nobody's hands. -/
def Unused (t : Traffic ρ α) (c : TokenId) : Prop :=
  t.ledger.find? c = none ∧ ∀ thread ∈ t.threads, ¬ thread.rest.Holds c

/-- If the thread is about to draw an identifier, it will be an unused one. -/
def DrawsUnused (i : Nat) (t : Traffic ρ α) : Prop :=
  ∀ request next, t.threads[i]? = some ⟨request, .perform .newTokenId next⟩ →
    t.Unused (TokenId.random t.world.draw.1)

/-- What the threads of some requests hold is in no record and in no other hands. -/
def Apart (mine : ρ → Prop) (t : Traffic ρ α) : Prop :=
  ∀ (k : Nat) (thread : Thread ρ α), t.threads[k]? = some thread → mine thread.request →
    ∀ c, thread.rest.Holds c → t.ledger.find? c = none ∧
      ∀ (i : Nat) (other : Thread ρ α), i ≠ k → t.threads[i]? = some other → ¬ other.rest.Holds c

variable {mine : ρ → Prop} {t : Traffic ρ α}

theorem Apart.arrive (apart : t.Apart mine) {request : ρ} {rest : Program α}
    (empty : ∀ c, ¬ rest.Holds c) :
    ({ t with threads := t.threads ++ [⟨request, rest⟩] } : Traffic ρ α).Apart mine := by
  intro k thread present own c holds
  rcases of_getElem?_append present with old | rfl
  · obtain ⟨free, others⟩ := apart k thread old own c holds
    refine ⟨free, ?_⟩
    intro i other different present'
    rcases of_getElem?_append present' with old' | rfl
    · exact others i other different old'
    · exact empty c
  · exact absurd holds (empty c)

/-- A step keeps what is apart, when what it draws is unused and a thread that has written is
done. -/
theorem Apart.act (apart : t.Apart mine) {i : Nat} {request : ρ} {e : Effect}
    {next : e.Answer → Program α} (present : t.threads[i]? = some ⟨request, .perform e next⟩)
    (unused : t.DrawsUnused i)
    (final : mine request → (t.world.answer e).2.ledger = t.ledger ∨
      ∃ a, next (t.world.answer e).1 = .done a) :
    Apart mine ⟨(t.world.answer e).2,
      t.threads.set i ⟨request, next (t.world.answer e).1⟩⟩ := by
  have drawn : ∀ c, e.Draws c (t.world.answer e).1 → t.Unused c := by
    intro c draws
    cases e with
    | newTokenId =>
      have unique := unused request next present
      exact (show TokenId.random t.world.draw.1 = c from draws) ▸ unique
    | _ => cases draws
  intro k thread found own c holds
  rcases of_getElem?_set found with ⟨rfl, rfl⟩ | ⟨same, found⟩
  · have kept : (t.world.answer e).2.ledger = t.ledger := by
      rcases final own with kept | ⟨a, done⟩
      · exact kept
      · change (next (t.world.answer e).1).Holds c at holds
        rw [done] at holds
        cases holds
    have before : t.ledger.find? c = none ∧ ∀ (j : Nat) (other : Thread ρ α), j ≠ i →
        t.threads[j]? = some other → ¬ other.rest.Holds c := by
      rcases holds.before with held | draws
      · exact apart i _ present own c held
      · obtain ⟨free, nobody⟩ := drawn c draws
        exact ⟨free, fun j other _ at_ => nobody other (List.mem_of_getElem? at_)⟩
    refine ⟨by rw [show Traffic.ledger _ = _ from kept]; exact before.1, ?_⟩
    intro j other different present'
    rcases of_getElem?_set present' with ⟨rfl, -⟩ | ⟨-, present'⟩
    · exact absurd rfl different
    · exact before.2 j other different present'
  · obtain ⟨free, others⟩ := apart k thread found own c holds
    have silent : ¬ e.Writes c := fun writes => others i _ same present (Or.inl writes)
    refine ⟨Effect.find?_eq_none (t.world.yields e) silent free, ?_⟩
    intro j other different present'
    rcases of_getElem?_set present' with ⟨rfl, rfl⟩ | ⟨-, present'⟩
    · intro holds'
      rcases holds'.before with held | draws
      · exact others i _ same present held
      · exact (drawn c draws).2 thread (List.mem_of_getElem? found) holds
    · exact others j other different present'

end Traffic

end SessionTokens
