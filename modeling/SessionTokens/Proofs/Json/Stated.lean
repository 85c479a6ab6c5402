import SessionTokens.Proofs.Json.Scan
import SessionTokens.Token.Verifier

set_option autoImplicit false

namespace SessionTokens.Json

open Token (membersNamed)

theorem Read.map_eq_ok {α β : Type} {f : α → β} {r : Read α} {b : β} :
    r.map f = .ok b ↔ ∃ a, r = .ok a ∧ f a = b := by
  cases r <;> simp [Except.map]

theorem Read.bind_eq_ok {α β : Type} {f : α → Read β} {r : Read α} {b : β} :
    r >>= f = .ok b ↔ ∃ a, r = .ok a ∧ f a = .ok b := by
  cases r <;> simp [bind, Except.bind]

/-- The members say this value of the field. -/
def Field.StatedBy (members : Members) (f : Field) (a : f.Value) : Prop :=
  (membersNamed f.name members = [] ∧ f.absent = some a) ∨
    ∃ value, membersNamed f.name members = [value] ∧ f.read value = .ok a

def Values.StatedBy (members : Members) : (fs : List Field) → Values fs → Prop
  | [], _ => True
  | f :: fs, (a, more) => f.StatedBy members a ∧ Values.StatedBy members fs more

/-- The slots before and after the members are read. -/
def Slots.FilledBy (members : Members) : (fs : List Field) → Slots fs → Slots fs → Prop
  | [], _, _ => True
  | f :: fs, (before, befores), (after, afters) =>
    ((membersNamed f.name members = [] ∧ after = before) ∨
      ∃ value a, membersNamed f.name members = [value] ∧ f.read value = .ok a ∧ before = none ∧
        after = some a) ∧
    Slots.FilledBy members fs befores afters

theorem membersNamed_cons_self (name : String) (value : Tree) (more : Members) :
    membersNamed name (.cons (some name) value more) = value :: membersNamed name more := by
  rw [membersNamed, if_pos (beq_self_eq_true name)]

theorem membersNamed_cons_other {name other : String} (different : other ≠ name) (value : Tree)
    (more : Members) :
    membersNamed name (.cons (some other) value more) = membersNamed name more := by
  rw [membersNamed, beq_eq_false_iff_ne.mpr different, if_neg Bool.false_ne_true]

variable {name : String} {value : Tree} {more : Members}

theorem Slots.FilledBy.refl : ∀ (fs : List Field) (slots : Slots fs),
    Slots.FilledBy .closed fs slots slots
  | [], _ => trivial
  | _ :: fs, (_, slots) => ⟨Or.inl ⟨rfl, rfl⟩, Slots.FilledBy.refl fs slots⟩

/-- A member that no field has the name of changes nothing. -/
theorem Slots.FilledBy.skip : ∀ {fs : List Field} {slots after : Slots fs},
    (∀ f ∈ fs, name ≠ f.name) → Slots.FilledBy more fs slots after →
      Slots.FilledBy (.cons (some name) value more) fs slots after
  | [], _, _, _, _ => trivial
  | f :: fs, (_, _), (_, _), apart, ⟨first, later⟩ => by
    rw [List.forall_mem_cons] at apart
    refine ⟨?_, Slots.FilledBy.skip apart.2 later⟩
    rw [membersNamed_cons_other apart.1]
    exact first

theorem Slots.ne_of_assign : ∀ {fs : List Field} {slots : Slots fs},
    Slots.assign fs name value slots = none → ∀ f ∈ fs, name ≠ f.name
  | [], _, _, f, member => nomatch member
  | f :: fs, (slot, slots), none', g, member => by
    rw [Slots.assign] at none'
    split at none'
    · cases none'
    · rename_i other
      rcases List.mem_cons.mp member with rfl | later
      · intro same
        exact other (beq_iff_eq.mpr same.symm)
      · exact Slots.ne_of_assign (Option.map_eq_none_iff.mp none') g later

/-- A member that a field has the name of is the only one of its name. -/
theorem Slots.FilledBy.assign : ∀ {fs : List Field} {slots between after : Slots fs},
    (fs.map Field.name).Nodup → Slots.assign fs name value slots = some (.ok between) →
      Slots.FilledBy more fs between after →
      Slots.FilledBy (.cons (some name) value more) fs slots after
  | [], _, _, _, _, assigned, _ => nomatch assigned
  | f :: fs, (slot, slots), (mid, between), (last, after), distinct, assigned, ⟨first, later⟩ => by
    rw [List.map_cons, List.nodup_cons] at distinct
    rw [Slots.assign] at assigned
    split at assigned
    · rename_i same
      obtain rfl := eq_of_beq same
      have read := Option.some.inj assigned
      split at read
      · cases read
      · rename_i free
        obtain ⟨a, reads, filled⟩ := Read.map_eq_ok.mp read
        obtain ⟨rfl, rfl⟩ := Prod.mk.inj filled
        rcases first with ⟨alone, rfl⟩ | ⟨_, _, _, _, taken, _⟩
        -- no later member has the name, or it would have met a slot that is taken
        · refine ⟨Or.inr ⟨value, a, ?_, reads, Option.not_isSome_iff_eq_none.mp free, rfl⟩, ?_⟩
          · rw [membersNamed_cons_self, alone]
          · refine Slots.FilledBy.skip (fun g member same => ?_) later
            exact distinct.1 (same ▸ List.mem_map_of_mem member)
        · cases taken
    · rename_i other
      obtain ⟨read, more', same⟩ := Option.map_eq_some_iff.mp assigned
      obtain ⟨between', rfl, filled⟩ := Read.map_eq_ok.mp same
      obtain ⟨rfl, rfl⟩ := Prod.mk.inj filled
      refine ⟨?_, Slots.FilledBy.assign distinct.2 more' later⟩
      rw [membersNamed_cons_other fun same => other (beq_iff_eq.mpr same.symm)]
      exact first

/-- What a reader has found when it comes to the end of an object. -/
theorem filledBy_of_readInto {σ : Type} {fs : List Field} (distinct : (fs.map Field.name).Nodup)
    {other : σ → String → Tree → Read σ} : ∀ {members : Members} {slots after : Slots fs}
    {rest rest' : σ}, members.readInto fs other slots rest = .ok (after, rest') →
      Slots.FilledBy members fs slots after
  | .closed, slots, _, _, _, read => by
    obtain ⟨rfl, -⟩ := Prod.mk.inj (Except.ok.inj read)
    exact .refl fs slots
  | .cut, _, _, _, _, read => nomatch read
  | .cons none _ _, _, _, _, _, read => nomatch read
  | .cons (some name) value more, slots, _, _, _, read => by
    rw [Members.readInto] at read
    split at read
    · rename_i assigned here
      obtain ⟨between, rfl, later⟩ := Read.bind_eq_ok.mp read
      exact .assign distinct here (filledBy_of_readInto distinct later)
    · rename_i nowhere
      obtain ⟨_, -, later⟩ := Read.bind_eq_ok.mp read
      exact .skip (Slots.ne_of_assign nowhere) (filledBy_of_readInto distinct later)

theorem statedBy_of_finish {members : Members} : ∀ {fs : List Field} {slots : Slots fs}
    {v : Values fs}, Slots.FilledBy members fs (Slots.empty fs) slots → slots.finish fs = .ok v →
      Values.StatedBy members fs v
  | [], _, _, _, _ => trivial
  | f :: fs, (slot, slots), (a, v), ⟨first, later⟩, finished => by
    rw [Slots.finish] at finished
    split at finished
    · cases finished
    · rename_i b found
      obtain ⟨v', rest, same⟩ := Read.map_eq_ok.mp finished
      obtain ⟨rfl, rfl⟩ := Prod.mk.inj same
      refine ⟨?_, statedBy_of_finish later rest⟩
      rcases first with ⟨missing, rfl⟩ | ⟨value, a', alone, read, -, rfl⟩
      · exact Or.inl ⟨missing, found⟩
      · obtain rfl := Option.some.inj found
        exact Or.inr ⟨value, alone, read⟩

theorem Slots.mem_of_assign : ∀ {fs : List Field} {slots : Slots fs} {read : Read (Slots fs)},
    Slots.assign fs name value slots = some read → name ∈ fs.map Field.name
  | [], _, _, assigned => nomatch assigned
  | f :: fs, (_, _), _, assigned => by
    rw [Slots.assign] at assigned
    rw [List.map_cons]
    split at assigned
    · rename_i same
      rw [eq_of_beq same]
      exact List.mem_cons_self
    · obtain ⟨_, later, -⟩ := Option.map_eq_some_iff.mp assigned
      exact List.mem_cons_of_mem _ (Slots.mem_of_assign later)

theorem readText_ok {t : Tree} {s : String} (read : t.readText = .ok s) : t = .string (some s) := by
  unfold Tree.readText at read
  split at read
  · rw [Except.ok.inj read]
  · cases read

theorem readFlag_ok {t : Tree} {b : Bool} (read : t.readFlag = .ok b) : t = .bool b := by
  unfold Tree.readFlag at read
  split at read
  · rw [Except.ok.inj read]
  · cases read

theorem readInt64_ok {t : Tree} {n : Int} (read : readInt64 t = .ok n) :
    ∃ spelled, t = .number spelled ∧ spelled.value? = some (.integer n) := by
  unfold readInt64 Tree.readInteger at read
  split at read
  · rename_i spelled
    split at read
    · cases read
    · rename_i i value
      split at read
      · rw [← Except.ok.inj read]
        exact ⟨spelled, rfl, value⟩
      · cases read
    · cases read
  · cases read

theorem readOptional_ok {α : Type} {read : Tree → Read α} {t : Tree} {o : Option α}
    (ok : t.readOptional read = .ok o) :
    (t = .null ∧ o = none) ∨ ∃ a, o = some a ∧ read t = .ok a := by
  unfold Tree.readOptional at ok
  split at ok
  · exact Or.inl ⟨rfl, (Except.ok.inj ok).symm⟩
  · obtain ⟨a, reads, rfl⟩ := Read.map_eq_ok.mp ok
    exact Or.inr ⟨a, rfl, reads⟩

theorem readName_ok {α : Type} {rule : String → Option α} {t : Tree} {a : α}
    (read : t.readName rule = .ok a) :
    ∃ s, rule s = some a ∧
      (t = .string (some s) ∨ t = .object (.cons (some s) .null .closed)) := by
  have named : ∀ {s : String}, ((rule s).elim (.error .mistyped) .ok : Read α) = .ok a →
      rule s = some a := by
    intro s same
    cases found : rule s with
    | none => rw [found] at same; cases same
    | some b => rw [found] at same; rw [Except.ok.inj same]
  unfold Tree.readName at read
  split at read
  · exact ⟨_, named read, Or.inl rfl⟩
  · exact ⟨_, named read, Or.inr rfl⟩
  · cases read

/-- The tree shows the value: texts and `null` are themselves, and an array is one of its items. -/
def Tree.Shows (t : Tree) : Json → Prop
  | .null => t = .null
  | .string s => t = .string (some s)
  | .array vs => ∃ inner items, t = .array items ∧ items.keep inner = .ok vs
  | _ => True

theorem shows_of_keep {depth : Nat} {t : Tree} {v : Json} (kept : t.keep depth = .ok v) :
    t.Shows v := by
  cases t with
  | null =>
    rw [Tree.keep] at kept
    obtain rfl := Except.ok.inj kept
    rfl
  | bool b =>
    rw [Tree.keep] at kept
    obtain rfl := Except.ok.inj kept
    trivial
  | number n =>
    rw [Tree.keep] at kept
    split at kept
    · obtain rfl := Except.ok.inj kept
      trivial
    · cases kept
  | string text =>
    cases text with
    | none =>
      rw [Tree.keep] at kept
      cases kept
    | some s =>
      rw [Tree.keep] at kept
      obtain rfl := Except.ok.inj kept
      rfl
  | array items =>
    cases depth with
    | zero =>
      rw [Tree.keep] at kept
      cases kept
    | succ inner =>
      rw [Tree.keep] at kept
      obtain ⟨vs, read, rfl⟩ := Read.map_eq_ok.mp kept
      exact ⟨inner, items, rfl, read⟩
  | object members =>
    cases depth with
    | zero =>
      rw [Tree.keep] at kept
      cases kept
    | succ inner =>
      rw [Tree.keep] at kept
      obtain ⟨vs, -, rfl⟩ := Read.map_eq_ok.mp kept
      trivial
  | broken =>
    rw [Tree.keep] at kept
    cases kept

theorem keepItems_texts {depth : Nat} : ∀ {items : Items} {ss : List String},
    items.keep depth = .ok (ss.map .string) → items = treeItems (ss.map .string)
  | .closed, [], _ => rfl
  | .closed, _ :: _, kept => by
    rw [Items.keep] at kept
    cases kept
  | .cut, _, kept => by
    rw [Items.keep] at kept
    cases kept
  | .cons item rest, ss, kept => by
    rw [Items.keep] at kept
    obtain ⟨v, first, more⟩ := Read.bind_eq_ok.mp kept
    obtain ⟨vs, later, same⟩ := Read.bind_eq_ok.mp more
    cases ss with
    | nil => cases same
    | cons s ss =>
      obtain ⟨rfl, rfl⟩ := List.cons.inj (Except.ok.inj same)
      rw [List.map_cons, treeItems, tree, ← keepItems_texts later, ← shows_of_keep first]

theorem keep_texts_ok {depth : Nat} {t : Tree} {ss : List String}
    (kept : t.keep depth = .ok (texts ss)) : t = tree (texts ss) := by
  obtain ⟨inner, items, rfl, read⟩ := shows_of_keep kept
  rw [texts, tree, ← keepItems_texts read]

end SessionTokens.Json
