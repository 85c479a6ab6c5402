import SessionTokens.Proofs.Directory.Insertion
import SessionTokens.Proofs.Traffic.Threads

set_option autoImplicit false

namespace SessionTokens

namespace Directory

variable {d d' : Directory} {a b : Account} {username : String}

/-- Some account has the name. -/
def HasName (d : Directory) (username : String) : Prop :=
  ∃ a ∈ d.accounts, a.username = username

theorem hasName_of_insert (stored : d.insert a = .ok d') : d'.HasName a.username :=
  ⟨a, (mem_insert_iff stored).mpr (Or.inr rfl), rfl⟩

/-- The account that is stored is not put in the place of the one with the name. -/
def Spares (d : Directory) (username : String) (a : Account) : Prop :=
  ∀ b ∈ d.accounts, b.username = username → b.id ≠ a.id

theorem find?_eq_none_iff {id : UserId} : d.find? id = none ↔ ∀ b ∈ d.accounts, b.id ≠ id := by
  rw [find?, List.find?_eq_none]
  exact forall₂_congr fun b _ => not_congr beq_iff_eq

theorem spares_of_new (new : d.find? a.id = none) (username : String) : d.Spares username a :=
  fun b inside _ => find?_eq_none_iff.mp new b inside

theorem HasName.insert (taken : d.HasName username) (spares : d.Spares username a)
    (stored : d.insert a = .ok d') : d'.HasName username := by
  obtain ⟨b, inside, same⟩ := taken
  exact ⟨b, (mem_insert_iff stored).mpr (Or.inl ⟨inside, spares b inside same⟩), same⟩

theorem insert_of_hasName (taken : d.HasName a.username) :
    d.insert a = .error (.usernameTaken a.username) := by
  obtain ⟨b, inside, same⟩ := taken
  rw [Directory.insert, if_pos]
  exact List.any_eq_true.mpr ⟨b, inside, beq_iff_eq.mpr same⟩

theorem insert_ok_or_taken (d : Directory) (a : Account) :
    (∃ d', d.insert a = .ok d') ∨ d.insert a = .error (.usernameTaken a.username) := by
  rw [insert]
  split
  · exact Or.inr rfl
  · exact Or.inl ⟨_, rfl⟩

theorem IsDistinct.perm (distinct : d.IsDistinct) (same : d'.accounts.Perm d.accounts) :
    d'.IsDistinct :=
  ⟨(same.map _).nodup_iff.mpr distinct.ids, (same.map _).nodup_iff.mpr distinct.usernames⟩

/-- The order in which accounts are gone through makes no difference to who is found. -/
theorem IsDistinct.findUsername?_perm (distinct : d.IsDistinct)
    (same : d'.accounts.Perm d.accounts) (username : String) :
    d'.findUsername? username = d.findUsername? username := by
  cases found : d.findUsername? username with
  | some a =>
    obtain ⟨inside, rfl⟩ := mem_of_findUsername? found
    exact (distinct.perm same).findUsername?_of_mem (same.mem_iff.mpr inside)
  | none =>
    apply List.find?_eq_none.mpr
    intro a inside
    exact List.find?_eq_none.mp found a (same.mem_iff.mp inside)

theorem IsDistinct.find?_of_findUsername? (distinct : d.IsDistinct)
    (found : d.findUsername? username = some a) : d.find? a.id = some a :=
  distinct.find?_of_mem (mem_of_findUsername? found).1

end Directory

/-- An effect that stores an account, if it does, under an identifier that no account has. -/
def Effect.StoresNew (d : Directory) : Effect → Prop
  | .directory (.insert a) => d.find? a.id = none
  | _ => True

theorem World.hasName_answer {w : World} {e : Effect} {username : String}
    (new : e.StoresNew w.directory) (taken : w.directory.HasName username) :
    (w.answer e).2.directory.HasName username := by
  cases e with
  | directory call =>
    cases call with
    | insert a =>
      change (commit w.directory (w.directory.insert a)).2.HasName username
      cases stored : w.directory.insert a with
      | error e => exact taken
      | ok d => exact taken.insert (Directory.spares_of_new new username) stored
    | _ => exact taken
  | password call => cases call <;> exact taken
  | _ => exact taken

namespace Traffic

variable {ρ α : Type} {program : ρ → Program α} {t : Traffic ρ α} {event : Event ρ}
  {events : List (Event ρ)} {username : String}

/-- If a request stores an account, it is under an identifier that is not in use. -/
def StoresNew (i : Nat) (t : Traffic ρ α) : Prop :=
  ∀ request e next, t.threads[i]? = some ⟨request, .perform e next⟩ → e.StoresNew t.world.directory

/-- From outside, accounts are stored one at a time and none in the place of the one with the name.
-/
def SeedsSpare (program : ρ → Program α) (username : String) : Traffic ρ α → List (Event ρ) → Prop
  | _, [] => True
  | t, event :: events =>
    (∀ d, event = .enroll d →
      ∃ a, t.world.directory.Spares username a ∧ t.world.directory.insert a = .ok d) ∧
      SeedsSpare program username (t.next program event) events

/-- Nothing takes the place of an account with the name. -/
structure Keeps (program : ρ → Program α) (username : String) (t : Traffic ρ α)
    (events : List (Event ρ)) : Prop where
  stored : t.Along program StoresNew events
  seeded : SeedsSpare program username t events

theorem Keeps.tail (keeps : Keeps program username t (event :: events)) :
    Keeps program username (t.next program event) events :=
  ⟨keeps.stored.2, keeps.seeded.2⟩

theorem seedsSpare_append {more : List (Event ρ)} :
    SeedsSpare program username t (events ++ more) ↔ SeedsSpare program username t events ∧
      SeedsSpare program username (t.run program events) more := by
  induction events generalizing t with
  | nil => exact (and_iff_right trivial).symm
  | cons event events ih =>
    rw [List.cons_append, SeedsSpare, ih, SeedsSpare, and_assoc, run_cons]

theorem isSeededWith_of_seedsSpare (seeded : SeedsSpare program username t events) :
    IsSeededWith program (fun _ => True) t events := by
  induction events generalizing t with
  | nil => trivial
  | cons event events ih =>
    refine ⟨fun d enrolled => ?_, ih seeded.2⟩
    obtain ⟨a, -, stored⟩ := seeded.1 d enrolled
    exact ⟨a, trivial, stored⟩

theorem keeps_append {more : List (Event ρ)} : Keeps program username t (events ++ more) ↔
    Keeps program username t events ∧ Keeps program username (t.run program events) more := by
  constructor
  · rintro ⟨stored, seeded⟩
    obtain ⟨stored₁, stored₂⟩ := along_append.mp stored
    obtain ⟨seeded₁, seeded₂⟩ := seedsSpare_append.mp seeded
    exact ⟨⟨stored₁, seeded₁⟩, ⟨stored₂, seeded₂⟩⟩
  · rintro ⟨first, second⟩
    exact ⟨along_append.mpr ⟨first.stored, second.stored⟩,
      seedsSpare_append.mpr ⟨first.seeded, second.seeded⟩⟩

theorem hasName_next (keeps : Keeps program username t (event :: events))
    (taken : t.world.directory.HasName username) :
    (t.next program event).world.directory.HasName username := by
  cases event with
  | step i =>
    change (t.advance i).world.directory.HasName username
    rcases advance_cases t i with same | ⟨request, e, rest, present, moved⟩
    · rw [same]
      exact taken
    · rw [moved]
      exact World.hasName_answer (keeps.stored.1 i rfl request e rest present) taken
  | enroll d =>
    obtain ⟨a, spares, stored⟩ := keeps.seeded.1 d rfl
    exact taken.insert spares stored
  | _ => exact taken

theorem hasName_run (keeps : Keeps program username t events)
    (taken : t.world.directory.HasName username) :
    (t.run program events).world.directory.HasName username := by
  induction events generalizing t with
  | nil => exact taken
  | cons event events ih => exact ih keeps.tail (hasName_next keeps taken)

end Traffic

end SessionTokens
