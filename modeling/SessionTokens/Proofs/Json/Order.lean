import SessionTokens.Json.Reader

set_option autoImplicit false

namespace SessionTokens.Json

/-- A member as it stands in an object; its name may be no text. -/
abbrev Member : Type := Option String × Tree

/-- An object of members. -/
def Members.ofList : List Member → Members
  | [] => .closed
  | (name, value) :: more => .cons name value (Members.ofList more)

/-- A slot before other slots. -/
def Slots.cons {f : Field} {fs : List Field} (slot : Option f.Value) (slots : Slots fs) :
    Slots (f :: fs) :=
  (slot, slots)

/-- Puts a value into the slot of a field, if there is the field and its slot is free. -/
def Slots.place : (fs : List Field) → String → Tree → Slots fs → Option (Slots fs)
  | [], _, _, _ => none
  | f :: fs, name, value, (slot, slots) =>
    if f.name = name then
      if slot.isSome then none else (f.read value).toOption.map fun a => .cons (some a) slots
    else (Slots.place fs name value slots).map (.cons slot)

namespace Slots

/-- No field has the name, or the value goes to its slot. -/
theorem assign_eq : ∀ (fs : List Field) (name : String) (value : Tree) (slots : Slots fs),
    (name ∉ fs.map Field.name ∧ assign fs name value slots = none) ∨
      (name ∈ fs.map Field.name ∧ ∃ assigned, assign fs name value slots = some assigned ∧
        assigned.toOption = place fs name value slots)
  | [], _, _, _ => Or.inl ⟨List.not_mem_nil, rfl⟩
  | f :: fs, name, value, (slot, slots) => by
    rw [assign, place, List.map_cons, List.mem_cons]
    by_cases here : f.name = name
    · right
      rw [if_pos (beq_iff_eq.mpr here), if_pos here]
      refine ⟨Or.inl here.symm, _, rfl, ?_⟩
      split
      · rfl
      · cases f.read value <;> rfl
    · rw [if_neg (mt eq_of_beq here), if_neg here]
      rcases assign_eq fs name value slots with ⟨absent, none'⟩ | ⟨present, r, some', same⟩
      · refine Or.inl ⟨?_, by rw [none', Option.map_none]⟩
        rintro (first | later)
        · exact here first.symm
        · exact absent later
      · refine Or.inr ⟨Or.inr present, _, by rw [some', Option.map_some], ?_⟩
        rw [← same]
        cases r <;> rfl

section

variable {f : Field} {fs : List Field} {name name' : String}

theorem place_self (here : f.name = name) (value : Tree) (slot : Option f.Value)
    (slots : Slots fs) : place (f :: fs) name value (.cons slot slots) =
      if slot.isSome then none else (f.read value).toOption.map fun a => .cons (some a) slots :=
  if_pos here

theorem place_other (other : f.name ≠ name) (value : Tree) (slot : Option f.Value)
    (slots : Slots fs) : place (f :: fs) name value (.cons slot slots) =
      (place fs name value slots).map (.cons slot) :=
  if_neg other

theorem map_bind_place (other : f.name ≠ name) (value : Tree) (slot : Option f.Value)
    (before : Option (Slots fs)) :
    (before.map (.cons slot)).bind (place (f :: fs) name value) =
      (before.bind (place fs name value)).map (.cons slot) := by
  cases before with
  | none => rfl
  | some slots => exact place_other other value slot slots

theorem place_comm_here (here : f.name = name) (other : f.name ≠ name') (value value' : Tree)
    (slot : Option f.Value) (slots : Slots fs) :
    (place (f :: fs) name value (.cons slot slots)).bind (place (f :: fs) name' value') =
      (place (f :: fs) name' value' (.cons slot slots)).bind (place (f :: fs) name value) := by
  have later (slots : Slots fs) := place_self here value slot slots
  rw [later, place_other other]
  by_cases taken : slot.isSome = true
  · simp only [if_pos taken] at later ⊢
    cases place fs name' value' slots with
    | none => rfl
    | some slots' => exact (later slots').symm
  · simp only [if_neg taken] at later ⊢
    cases read : f.read value with
    | error e =>
      cases place fs name' value' slots with
      | none => rfl
      | some slots' => exact ((later slots').trans (by rw [read]; rfl)).symm
    | ok a =>
      refine (place_other other value' (some a) slots).trans ?_
      cases place fs name' value' slots with
      | none => rfl
      | some slots' => exact ((later slots').trans (by rw [read]; rfl)).symm

/-- Values for different slots can be put there in either order. -/
theorem place_comm (apart : name ≠ name') (value value' : Tree) :
    ∀ (fs : List Field) (slots : Slots fs),
      (place fs name value slots).bind (place fs name' value') =
        (place fs name' value' slots).bind (place fs name value)
  | [], _ => rfl
  | f :: fs, (slot, slots) => by
    change (place (f :: fs) name value (.cons slot slots)).bind _ =
      (place (f :: fs) name' value' (.cons slot slots)).bind _
    by_cases here : f.name = name
    · exact place_comm_here here (fun same => apart (here.symm.trans same)) value value' slot slots
    · by_cases there : f.name = name'
      · exact (place_comm_here there here value' value slot slots).symm
      · rw [place_other here, place_other there, map_bind_place there, map_bind_place here,
          place_comm apart value value' fs slots]

/-- A value counts for what the field of its name reads it as. -/
theorem place_congr {value value' : Tree} : ∀ {fs : List Field} (slots : Slots fs),
    (∀ f ∈ fs, f.name = name → (f.read value).toOption = (f.read value').toOption) →
      place fs name value slots = place fs name value' slots
  | [], _, _ => rfl
  | f :: fs, (slot, slots), same => by
    rw [List.forall_mem_cons] at same
    change place (f :: fs) name value (.cons slot slots) =
      place (f :: fs) name value' (.cons slot slots)
    by_cases here : f.name = name
    · rw [place_self here, place_self here, same.1 here]
    · rw [place_other here, place_other here, place_congr slots same.2]

/-- The slot for a name has no value. -/
def IsFree (name : String) : (fs : List Field) → Slots fs → Prop
  | [], _ => True
  | f :: fs, (slot, slots) => (f.name = name → slot = none) ∧ IsFree name fs slots

theorem isFree_empty (name : String) : ∀ fs : List Field, IsFree name fs (.empty fs)
  | [] => trivial
  | _ :: fs => ⟨fun _ => rfl, isFree_empty name fs⟩

theorem IsFree.place {value : Tree} (apart : name' ≠ name) : ∀ {fs : List Field}
    {slots slots' : Slots fs}, IsFree name fs slots → place fs name' value slots = some slots' →
      IsFree name fs slots'
  | [], _, _, _, placed => nomatch placed
  | f :: fs, (slot, slots), slots', ⟨free, later⟩, placed => by
    change Slots.place (f :: fs) name' value (.cons slot slots) = some slots' at placed
    by_cases here : f.name = name'
    · rw [place_self here] at placed
      split at placed
      · cases placed
      · obtain ⟨a, -, rfl⟩ := Option.map_eq_some_iff.mp placed
        exact ⟨fun same => absurd (here.symm.trans same) apart, later⟩
    · rw [place_other here] at placed
      obtain ⟨after, placed', rfl⟩ := Option.map_eq_some_iff.mp placed
      exact ⟨free, later.place apart placed'⟩

/-- A member that says what its absence says makes no difference. -/
theorem finish_of_absent {value : Tree} : ∀ {fs : List Field} {slots : Slots fs},
    IsFree name fs slots → (∃ f ∈ fs, f.name = name) →
      (∀ f ∈ fs, f.name = name → ∃ a, f.read value = .ok a ∧ f.absent = some a) →
        ∃ slots', place fs name value slots = some slots' ∧ slots'.finish fs = slots.finish fs
  | [], _, _, ⟨_, inside, _⟩, _ => nomatch inside
  | f :: fs, (slot, slots), ⟨free, later⟩, known, same => by
    change ∃ slots', place (f :: fs) name value (.cons slot slots) = some slots' ∧ _
    rw [List.forall_mem_cons] at same
    by_cases here : f.name = name
    · obtain ⟨a, read, absent⟩ := same.1 here
      obtain rfl := free here
      refine ⟨.cons (some a) slots, ?_, ?_⟩
      · rw [place_self here, read]
        rfl
      · rw [finish, absent]
        rfl
    · have known' : ∃ g ∈ fs, g.name = name := by
        obtain ⟨g, inside, named⟩ := known
        rcases List.mem_cons.mp inside with rfl | inside
        · exact absurd named here
        · exact ⟨g, inside, named⟩
      obtain ⟨slots', placed, ended⟩ := finish_of_absent later known' same.2
      refine ⟨.cons slot slots', ?_, ?_⟩
      · rw [place_other here, placed]
        rfl
      · change finish (f :: fs) (slot, slots') = _
        rw [finish, finish, ended]

end

end Slots

section

variable {τ : Type} (fs : List Field) (other : τ → String → Tree → Option τ)

/-- Takes a member into its slot, or among the others. -/
def take : Option (Slots fs × τ) → Member → Option (Slots fs × τ)
  | some (slots, t), (some name, value) =>
    if name ∈ fs.map Field.name then (slots.place fs name value).map fun s => (s, t)
    else (other t name value).map fun t => (slots, t)
  | _, _ => none

theorem foldl_take_none (ms : List Member) : ms.foldl (take fs other) none = none := by
  induction ms with
  | nil => rfl
  | cons m ms ih => exact ih

/-- A reader of records takes the members in their order; what it makes of the others may be seen
from a distance. -/
theorem toOption_readInto {σ : Type} {rest : σ → String → Tree → Read σ} (view : σ → τ)
    (sees : ∀ s name value,
      (rest s name value).toOption.map view = other (view s) name value) (ms : List Member)
    (slots : Slots fs) (s : σ) :
    ((Members.ofList ms).readInto fs rest slots s).toOption.map (fun r => (r.1, view r.2)) =
      ms.foldl (take fs other) (some (slots, view s)) := by
  induction ms generalizing slots s with
  | nil => rfl
  | cons m ms ih =>
    obtain ⟨name, value⟩ := m
    cases name with
    | none =>
      rw [Members.ofList, Members.readInto, List.foldl_cons]
      exact (foldl_take_none fs other ms).symm
    | some name =>
      rw [Members.ofList, Members.readInto, List.foldl_cons, take]
      rcases slots.assign_eq fs name value with ⟨absent, nowhere⟩ | ⟨present, r, here, placed⟩
      · rw [nowhere, if_neg absent, ← sees]
        cases rest s name value with
        | error e => exact (foldl_take_none fs other ms).symm
        | ok s' => exact ih slots s'
      · rw [here, if_pos present, ← placed]
        cases r with
        | error e => exact (foldl_take_none fs other ms).symm
        | ok slots' => exact ih slots' s

/-- No two members have one name. -/
def AreDistinct (ms : List Member) : Prop :=
  ms.Pairwise fun m m' => ∀ name, m.1 = some name → m'.1 ≠ some name

/-- The names alone say whether members are distinct. -/
theorem areDistinct_iff {ms : List Member} : AreDistinct ms ↔
    (ms.map Prod.fst).Pairwise fun named named' =>
      ∀ name, named = some name → named' ≠ some name := by
  rw [List.pairwise_map]
  exact Iff.rfl

theorem areDistinct_of_nodup {ms : List Member} (distinct : (ms.map Prod.fst).Nodup) :
    AreDistinct ms := by
  refine areDistinct_iff.mpr (distinct.imp ?_)
  rintro _ _ apart name rfl rfl
  exact apart rfl

theorem areDistinct_concat {ms : List Member} {name : String} (absent : some name ∉ ms.map Prod.fst)
    (value : Tree) : AreDistinct (ms ++ [(some name, value)]) ↔ AreDistinct ms := by
  refine List.pairwise_append.trans ⟨And.left, fun distinct => ⟨distinct, ?_, ?_⟩⟩
  · exact List.pairwise_singleton _ _
  · intro m inside m' last name' named
    obtain rfl := List.mem_singleton.mp last
    rintro same
    obtain rfl := Option.some.inj same
    exact absent (named ▸ List.mem_map_of_mem inside)

variable {fs other}

/-- Members of other names leave a slot free. -/
theorem isFree_foldl_take {name : String} {ms : List Member} (absent : some name ∉ ms.map Prod.fst)
    {slots slots' : Slots fs} {t t' : τ} (free : slots.IsFree name fs)
    (taken : ms.foldl (take fs other) (some (slots, t)) = some (slots', t')) :
    slots'.IsFree name fs := by
  induction ms generalizing slots t with
  | nil =>
    obtain ⟨rfl, -⟩ := Prod.mk.inj (Option.some.inj taken)
    exact free
  | cons m ms ih =>
    rw [List.map_cons, List.mem_cons, not_or] at absent
    rw [List.foldl_cons] at taken
    obtain ⟨_ | name', value⟩ := m
    · rw [take, foldl_take_none] at taken
      · cases taken
      · nofun
    · rw [take] at taken
      split at taken
      · cases placed : slots.place fs name' value with
        | none =>
          rw [placed, Option.map_none, foldl_take_none] at taken
          cases taken
        | some between =>
          rw [placed] at taken
          exact ih absent.2 (free.place (fun same => absent.1 (congrArg some same.symm)) placed) taken
      · cases kept : other t name' value with
        | none =>
          rw [kept, Option.map_none, foldl_take_none] at taken
          cases taken
        | some t'' =>
          rw [kept] at taken
          exact ih absent.2 free taken

theorem AreDistinct.perm {ms ms' : List Member} (distinct : AreDistinct ms) (same : ms.Perm ms') :
    AreDistinct ms' := by
  refine (same.pairwise_iff ?_).mp distinct
  intro m m' apart name named named'
  exact apart name named' named

theorem take_unreadable (state : Option (Slots fs × τ)) (value : Tree) :
    take fs other state (none, value) = none := by
  cases state <;> rfl

theorem take_map_field {name : String} (present : name ∈ fs.map Field.name) (value : Tree) (t : τ)
    (state : Option (Slots fs)) : take fs other (state.map fun s => (s, t)) (some name, value) =
      (state.bind (Slots.place fs name value)).map fun s => (s, t) := by
  cases state with
  | none => rfl
  | some slots => exact if_pos present

theorem take_map_other {name : String} (absent : name ∉ fs.map Field.name) (value : Tree)
    (slots : Slots fs) (state : Option τ) :
    take fs other (state.map fun t => (slots, t)) (some name, value) =
      (state.bind (other · name value)).map fun t => (slots, t) := by
  cases state with
  | none => rfl
  | some t => exact if_neg absent

variable (commutes : ∀ t name name' value value', name ≠ name' →
  (other t name value).bind (other · name' value') =
    (other t name' value').bind (other · name value))

theorem take_comm_field {name name' : String} (present : name ∈ fs.map Field.name)
    (absent : name' ∉ fs.map Field.name) (value value' : Tree) (slots : Slots fs) (t : τ) :
    take fs other (take fs other (some (slots, t)) (some name, value)) (some name', value') =
      take fs other (take fs other (some (slots, t)) (some name', value')) (some name, value) := by
  simp only [take, if_pos present, if_neg absent]
  cases placed : slots.place fs name value with
  | none =>
    cases other t name' value' with
    | none => rfl
    | some t' => simp only [Option.map_none, Option.map_some, if_pos present, placed]
  | some slots' =>
    cases kept : other t name' value' with
    | none => simp only [Option.map_none, Option.map_some, if_neg absent, kept]
    | some t' => simp only [Option.map_some, if_pos present, if_neg absent, placed, kept]

include commutes

theorem take_comm {m m' : Member} (apart : ∀ name, m.1 = some name → m'.1 ≠ some name)
    (state : Option (Slots fs × τ)) :
    take fs other (take fs other state m) m' = take fs other (take fs other state m') m := by
  obtain ⟨name, value⟩ := m
  obtain ⟨name', value'⟩ := m'
  cases state with
  | none => rfl
  | some state =>
  obtain ⟨slots, t⟩ := state
  cases name with
  | none => rw [take_unreadable, take_unreadable]; rfl
  | some name =>
  cases name' with
  | none => rw [take_unreadable, take_unreadable]; rfl
  | some name' =>
  have different : name ≠ name' := fun same => apart name rfl (congrArg some same.symm)
  by_cases present : name ∈ fs.map Field.name
  · by_cases present' : name' ∈ fs.map Field.name
    · rw [take, if_pos present, take_map_field present', take, if_pos present',
        take_map_field present, Slots.place_comm different]
    · exact take_comm_field present present' value value' slots t
  · by_cases present' : name' ∈ fs.map Field.name
    · exact (take_comm_field present' present value' value slots t).symm
    · rw [take, if_neg present, take_map_other present', take, if_neg present',
        take_map_other present, commutes t name name' value value' different]

/-- The order of members of different names makes no difference. -/
theorem foldl_take_perm {ms ms' : List Member} (distinct : AreDistinct ms) (same : ms.Perm ms')
    (state : Option (Slots fs × τ)) :
    ms.foldl (take fs other) state = ms'.foldl (take fs other) state := by
  induction same generalizing state with
  | nil => rfl
  | cons m same ih => exact ih (List.pairwise_cons.mp distinct).2 _
  | swap m m' ms =>
    have apart := (List.pairwise_cons.mp distinct).1 m List.mem_cons_self
    rw [List.foldl_cons, List.foldl_cons, List.foldl_cons, List.foldl_cons,
      take_comm commutes apart]
  | trans first second ih ih' =>
    rw [ih distinct, ih' (distinct.perm first)]

end

end SessionTokens.Json
