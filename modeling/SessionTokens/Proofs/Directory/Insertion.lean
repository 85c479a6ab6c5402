import Mathlib.Data.List.Nodup
import SessionTokens.Proofs.Program.Quiet
import SessionTokens.Proofs.Traffic

set_option autoImplicit false

namespace SessionTokens

namespace Directory

variable {d d' : Directory} {a b : Account}

theorem insert_ok_iff (d d' : Directory) (a : Account) :
    d.insert a = .ok d' ↔ (∀ b ∈ d.accounts, b.username ≠ a.username) ∧
      d' = ⟨(d.accounts.filter fun b => b.id != a.id) ++ [a]⟩ := by
  unfold insert
  split
  · rename_i taken
    refine ⟨nofun, fun free => ?_⟩
    obtain ⟨b, inside, same⟩ := List.any_eq_true.mp taken
    exact absurd (eq_of_beq same) (free.1 b inside)
  · rename_i free
    have apart : ∀ b ∈ d.accounts, b.username ≠ a.username := fun b inside same =>
      free (List.any_eq_true.mpr ⟨b, inside, beq_iff_eq.mpr same⟩)
    exact ⟨fun stored => ⟨apart, (Except.ok.inj stored).symm⟩, fun same => same.2 ▸ rfl⟩

theorem mem_insert_iff (stored : d.insert a = .ok d') :
    b ∈ d'.accounts ↔ (b ∈ d.accounts ∧ b.id ≠ a.id) ∨ b = a := by
  obtain ⟨-, rfl⟩ := (insert_ok_iff d d' a).mp stored
  simp only [List.mem_append, List.mem_filter, bne_iff_ne, List.mem_singleton]

/-- No two accounts have one identifier or one username. -/
structure IsDistinct (d : Directory) : Prop where
  ids : (d.accounts.map Account.id).Nodup
  usernames : (d.accounts.map Account.username).Nodup

theorem isDistinct_empty : empty.IsDistinct :=
  ⟨List.nodup_nil, List.nodup_nil⟩

theorem IsDistinct.insert (distinct : d.IsDistinct) (stored : d.insert a = .ok d') :
    d'.IsDistinct := by
  obtain ⟨free, rfl⟩ := (insert_ok_iff d d' a).mp stored
  have kept : (d.accounts.filter fun b => b.id != a.id).Sublist d.accounts :=
    List.filter_sublist
  constructor
  · rw [List.map_append, List.nodup_append]
    refine ⟨distinct.ids.sublist (kept.map _), List.nodup_singleton _, ?_⟩
    intro id present id' new
    obtain ⟨b, inside, rfl⟩ := List.mem_map.mp present
    rw [List.mem_singleton.mp new]
    exact bne_iff_ne.mp (List.mem_filter.mp inside).2
  · rw [List.map_append, List.nodup_append]
    refine ⟨distinct.usernames.sublist (kept.map _), List.nodup_singleton _, ?_⟩
    intro username present username' new
    obtain ⟨b, inside, rfl⟩ := List.mem_map.mp present
    rw [List.mem_singleton.mp new]
    exact free b (List.mem_filter.mp inside).1

theorem mem_of_find? {id : UserId} (found : d.find? id = some a) :
    a ∈ d.accounts ∧ a.id = id := by
  have same := List.find?_some found
  exact ⟨List.mem_of_find?_eq_some found, eq_of_beq same⟩

theorem mem_of_findUsername? {username : String} (found : d.findUsername? username = some a) :
    a ∈ d.accounts ∧ a.username = username := by
  have same := List.find?_some found
  exact ⟨List.mem_of_find?_eq_some found, eq_of_beq same⟩

theorem IsDistinct.find?_of_mem (distinct : d.IsDistinct) (inside : a ∈ d.accounts) :
    d.find? a.id = some a := by
  cases found : d.find? a.id with
  | none =>
    have absent := List.find?_eq_none.mp found a inside
    exact absurd (beq_self_eq_true a.id) absent
  | some b =>
    obtain ⟨present, same⟩ := mem_of_find? found
    rw [List.inj_on_of_nodup_map distinct.ids present inside same]

theorem IsDistinct.findUsername?_of_mem (distinct : d.IsDistinct) (inside : a ∈ d.accounts) :
    d.findUsername? a.username = some a := by
  cases found : d.findUsername? a.username with
  | none =>
    have absent := List.find?_eq_none.mp found a inside
    exact absurd (beq_self_eq_true a.username) absent
  | some b =>
    obtain ⟨present, same⟩ := mem_of_findUsername? found
    rw [List.inj_on_of_nodup_map distinct.usernames present inside same]

/-- What insertions of accounts of a kind bring about, in the place of an empty directory. -/
inductive IsBuiltOf (kind : Account → Prop) : Directory → Prop
  | empty : IsBuiltOf kind .empty
  | insert {d d' : Directory} {a : Account} (built : IsBuiltOf kind d) (permitted : kind a)
      (stored : d.insert a = .ok d') : IsBuiltOf kind d'

variable {kind : Account → Prop}

theorem IsBuiltOf.isDistinct (built : d.IsBuiltOf kind) : d.IsDistinct := by
  induction built with
  | empty => exact isDistinct_empty
  | insert _ _ stored ih => exact ih.insert stored

theorem IsBuiltOf.of_mem (built : d.IsBuiltOf kind) (inside : a ∈ d.accounts) : kind a := by
  induction built with
  | empty => cases inside
  | insert _ permitted stored ih =>
    rcases (mem_insert_iff stored).mp inside with ⟨old, -⟩ | rfl
    · exact ih old
    · exact permitted

end Directory

/-- An effect that stores no account but of a kind. -/
def Effect.Enrolls (kind : Account → Prop) : Effect → Prop
  | .directory (.insert a) => kind a
  | _ => True

theorem Effect.IsQuiet.enrolls {e : Effect} (quiet : e.IsQuiet) (kind : Account → Prop) :
    e.Enrolls kind := by
  cases e with
  | directory call => cases call <;> first | exact quiet.elim | trivial
  | _ => trivial

variable {kind : Account → Prop}

theorem World.isBuiltOf_answer {w : World} (built : w.directory.IsBuiltOf kind) {e : Effect}
    (enrolls : e.Enrolls kind) : (w.answer e).2.directory.IsBuiltOf kind := by
  cases e with
  | directory call =>
    cases call with
    | insert a =>
      change (commit w.directory (w.directory.insert a)).2.IsBuiltOf kind
      cases stored : w.directory.insert a with
      | error e => exact built
      | ok d => exact built.insert enrolls stored
    | _ => exact built
  | password call => cases call <;> exact built
  | _ => exact built

theorem Program.Uses.imp {α : Type} {allowed allowed' : Effect → Prop} {p : Program α}
    (uses : p.Uses allowed) (weaker : ∀ e, allowed e → allowed' e) : p.Uses allowed' := by
  induction p with
  | done a => trivial
  | perform e next ih => exact ⟨weaker e uses.1, fun answer => ih answer (uses.2 answer)⟩

theorem Program.Uses.isBuiltOf {α : Type} {p : Program α} (uses : p.Uses (Effect.Enrolls kind))
    {w : World} (built : w.directory.IsBuiltOf kind) :
    (p.run World.answer w).2.directory.IsBuiltOf kind := by
  induction p generalizing w with
  | done a => exact built
  | perform e next ih => exact ih _ (uses.2 _) (World.isBuiltOf_answer built uses.1)

namespace Traffic

variable {ρ α : Type} {program : ρ → Program α} {t : Traffic ρ α}

/-- The directory is changed from outside by the storing of accounts of a kind alone. -/
def IsSeededWith (program : ρ → Program α) (kind : Account → Prop) :
    Traffic ρ α → List (Event ρ) → Prop
  | _, [] => True
  | t, event :: events =>
    (∀ d, event = .enroll d → ∃ a, kind a ∧ t.world.directory.insert a = .ok d) ∧
      IsSeededWith program kind (t.next program event) events

/-- Requests that store accounts of a kind build, one effect at a time and among seeds of the kind,
a directory of such accounts. -/
structure Builds (kind : Account → Prop) (t : Traffic ρ α) : Prop where
  built : t.world.directory.IsBuiltOf kind
  uses : ∀ thread ∈ t.threads, thread.rest.Uses (Effect.Enrolls kind)

theorem Builds.next (builds : t.Builds kind)
    (uses : ∀ request, (program request).Uses (Effect.Enrolls kind)) {event : Event ρ}
    (seeds : ∀ d, event = .enroll d → ∃ a, kind a ∧ t.world.directory.insert a = .ok d) :
    (t.next program event).Builds kind := by
  cases event with
  | arrive request =>
    refine ⟨builds.built, fun thread member => ?_⟩
    rcases List.mem_append.mp member with old | new
    · exact builds.uses thread old
    · rw [List.mem_singleton.mp new]
      exact uses request
  | step i =>
    change (t.advance i).Builds kind
    rcases advance_cases t i with same | ⟨request, e, rest, present, moved⟩
    · rw [same]
      exact builds
    · obtain ⟨enrolls, later⟩ := builds.uses _ (List.mem_of_getElem? present)
      rw [moved]
      refine ⟨World.isBuiltOf_answer builds.built enrolls, fun thread member => ?_⟩
      rcases List.mem_or_eq_of_mem_set member with old | rfl
      · exact builds.uses thread old
      · exact later _
  | tick moment => exact ⟨builds.built, builds.uses⟩
  | reseed supply => exact ⟨builds.built, builds.uses⟩
  | enroll d =>
    obtain ⟨a, permitted, stored⟩ := seeds d rfl
    exact ⟨builds.built.insert permitted stored, builds.uses⟩

theorem isBuiltOf_run {seed : Account → Prop} (permitted : ∀ a, seed a → kind a)
    (uses : ∀ request, (program request).Uses (Effect.Enrolls kind)) (moment : Moment)
    (supply : Supply) {events : List (Event ρ)}
    (seeded : IsSeededWith program seed (start moment supply) events) :
    ((start moment supply : Traffic ρ α).run program events).world.directory.IsBuiltOf kind := by
  suffices later : ∀ t : Traffic ρ α, t.Builds kind → IsSeededWith program seed t events →
      (t.run program events).Builds kind
    from (later _ ⟨.empty, fun _ member => absurd member List.not_mem_nil⟩ seeded).built
  clear seeded
  induction events with
  | nil => exact fun t builds _ => builds
  | cons event events ih =>
    intro t builds seeded
    refine ih _ (builds.next uses fun d enrolled => ?_) seeded.2
    obtain ⟨a, sown, stored⟩ := seeded.1 d enrolled
    exact ⟨a, permitted a sown, stored⟩

end Traffic

end SessionTokens
