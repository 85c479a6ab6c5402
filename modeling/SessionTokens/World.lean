import SessionTokens.Crypto.Sha256
import SessionTokens.Program

set_option autoImplicit false

/- A world for programs to run in: stores in memory, two clocks and a supply of random bits. Each
effect is answered in one step. A world can be disturbed: stores can be closed, and a rotation can
meet a rival or lose sight of its record. -/
namespace SessionTokens

/-- Random bits, of which some have been drawn. -/
structure Supply where
  source : Nat → BitVec 128
  drawn : Nat

namespace Supply

def draw (s : Supply) : BitVec 128 × Supply :=
  (s.source s.drawn, { s with drawn := s.drawn + 1 })

/-- Multiples of an odd number, which differ in their low bits as long as their counts do. -/
def counting : Supply :=
  ⟨fun n => BitVec.ofNat 128 ((n + 1) * 0x5851F42D4C957F2D14057B7EF767814F), 0⟩

end Supply

/-- What a change yields, and the state after it. A change that fails leaves the state. -/
def commit {ε σ : Type} (s : σ) : Except ε σ → Except ε Unit × σ
  | .ok t => (.ok (), t)
  | .error e => (.error e, s)

/-- A change is made and answered so, or it is refused and nothing changes. -/
theorem commit_cases {ε σ : Type} {s s' : σ} {changed : Except ε σ} {answer : Except ε Unit}
    (yields : (answer, s') = commit s changed) :
    (answer = .ok () ∧ changed = .ok s') ∨ ∃ e, answer = .error e ∧ s' = s := by
  cases changed with
  | ok t =>
    obtain ⟨rfl, rfl⟩ := Prod.mk.inj yields
    exact Or.inl ⟨rfl, rfl⟩
  | error e =>
    obtain ⟨rfl, rfl⟩ := Prod.mk.inj yields
    exact Or.inr ⟨e, rfl, rfl⟩

def Ledger.answer (l : Ledger) : (c : LedgerCall) → Except LedgerError c.Result × Ledger
  | .insert r => commit l (l.insert r)
  | .find id => (.ok (l.find? id), l)
  | .rotate old child => commit l (l.rotate old child)
  | .revokeAll user => (.ok (l.revokeAll user).1, (l.revokeAll user).2)
  | .active user now => (.ok (l.active user now), l)
  | .history user => (.ok (l.history user), l)

def Directory.answer (d : Directory) :
    (c : DirectoryCall) → Except DirectoryError c.Result × Directory
  | .insert a => commit d (d.insert a)
  | .find id => (.ok (d.find? id), d)
  | .findUsername username => (.ok (d.findUsername? username), d)

structure World where
  ledger : Ledger
  directory : Directory
  moment : Moment
  supply : Supply

namespace World

/-- Empty stores at a moment. -/
def start (moment : Moment) (supply : Supply) : World :=
  ⟨.empty, .empty, moment, supply⟩

def draw (w : World) : BitVec 128 × World :=
  (w.supply.draw.1, { w with supply := w.supply.draw.2 })

/-- A time-ordered identifier. -/
def drawTimed (w : World) : Uuid × World :=
  (Uuid.timed (w.moment.host * 1000).toNat w.draw.1, w.draw.2)

/-- Answers an effect. There is no peer. -/
def answer : (e : Effect) → World → e.Answer × World
  | .moment, w => (w.moment, w)
  | .newUserId, w => (⟨w.drawTimed.1⟩, w.drawTimed.2)
  | .newRecordId, w => (⟨w.drawTimed.1⟩, w.drawTimed.2)
  | .newTokenId, w => (TokenId.random w.draw.1, w.draw.2)
  | .ledger call, w =>
    let (result, ledger) := w.ledger.answer call
    (result, { w with ledger })
  | .directory call, w =>
    let (result, directory) := w.directory.answer call
    (result, { w with directory })
  | .password (.hash costs password), w =>
    (.ok (.ok (Password.hash costs (Crypto.Sha256.bigEndian 16 w.draw.1.toNat) password)), w.draw.2)
  | .password (.verify stored password), w => (.ok (Password.verify stored password), w)
  | .peer _, w => (.unreachable "nothing listens", w)

end World

end SessionTokens
