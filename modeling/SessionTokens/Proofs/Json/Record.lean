import SessionTokens.Json.Fields
import SessionTokens.Proofs.Json.Scan

set_option autoImplicit false

namespace SessionTokens.Json

/-- What the field writes of a value it reads back; a value that is left out is the absent one. -/
def Field.Returns (f : Field) (a : f.Value) : Prop :=
  match f.write a with
  | some v => v.IsPlain ∧ f.read (tree v) = .ok a
  | none => f.absent = some a

def Values.Return : (fs : List Field) → Values fs → Prop
  | [], _ => True
  | f :: fs, (a, more) => f.Returns a ∧ Values.Return fs more

/-- The slots once everything that was written is read. -/
def Slots.filled : (fs : List Field) → Values fs → Slots fs
  | [], _ => ()
  | f :: fs, (a, more) => ((f.write a).map fun _ => a, Slots.filled fs more)

/-- Members that no field has the name of, in their order. -/
def readOthers {σ : Type} (other : σ → String → Tree → Read σ) : List (String × Json) → σ → Read σ
  | [], rest => .ok rest
  | m :: more, rest => do
    let rest ← other rest m.1 (tree m.2)
    readOthers other more rest

theorem name_of_mem_members : ∀ (fs : List Field) (v : Values fs), ∀ m ∈ Values.members fs v,
    m.1 ∈ fs.map Field.name
  | [], _, m, member => nomatch member
  | f :: fs, (a, more), m, member => by
    rw [Values.members] at member
    rw [List.map_cons]
    split at member
    · rcases List.mem_cons.mp member with rfl | later
      · exact List.mem_cons_self
      · exact List.mem_cons_of_mem _ (name_of_mem_members fs more m later)
    · exact List.mem_cons_of_mem _ (name_of_mem_members fs more m member)

theorem isPlain_of_mem_members : ∀ (fs : List Field) (v : Values fs), v.Return →
    ∀ m ∈ Values.members fs v, IsPlain m.2
  | [], _, _, m, member => nomatch member
  | f :: fs, (a, more), returns, m, member => by
    obtain ⟨own, others⟩ := returns
    rw [Values.members] at member
    rw [Field.Returns] at own
    split at member
    · rename_i v written
      rw [written] at own
      rcases List.mem_cons.mp member with rfl | later
      · exact own.1
      · exact isPlain_of_mem_members fs more others m later
    · exact isPlain_of_mem_members fs more others m member

variable {σ : Type} {other : σ → String → Tree → Read σ}

/-- A field whose name no member has keeps its slot. -/
theorem readInto_cons_of_missing (f : Field) (fs : List Field) (ms : List (String × Json))
    (slot : Option f.Value) (slots : Slots fs) (rest : σ) (missing : ∀ m ∈ ms, m.1 ≠ f.name) :
    (treeMembers ms).readInto (f :: fs) other (slot, slots) rest =
      ((treeMembers ms).readInto fs other slots rest).map fun (s, r) => ((slot, s), r) := by
  induction ms generalizing slots rest with
  | nil => rfl
  | cons m ms ih =>
    rw [List.forall_mem_cons] at missing
    have different : (f.name == m.1) = false := beq_eq_false_iff_ne.mpr (Ne.symm missing.1)
    simp only [treeMembers, Members.readInto, Slots.assign, different, Bool.false_eq_true, if_false]
    cases Slots.assign fs m.1 (tree m.2) slots with
    | none =>
      simp only [Option.map_none]
      cases other rest m.1 (tree m.2) with
      | error e => rfl
      | ok rest => exact ih slots rest missing.2
    | some assigned =>
      simp only [Option.map_some]
      cases assigned with
      | error e => rfl
      | ok slots => exact ih slots rest missing.2

theorem readInto_nil (extra : List (String × Json)) (rest : σ) :
    (treeMembers extra).readInto [] other () rest =
      (readOthers other extra rest).map fun rest => ((), rest) := by
  induction extra generalizing rest with
  | nil => rfl
  | cons m extra ih =>
    simp only [treeMembers, Members.readInto, Slots.assign, readOthers]
    cases other rest m.1 (tree m.2) with
    | error e => rfl
    | ok rest => exact ih rest

/-- The members of a record and then others: the fields get their values, the others the rest. -/
theorem readInto_members : ∀ (fs : List Field) (v : Values fs) (extra : List (String × Json))
    (rest : σ), (fs.map Field.name).Nodup → v.Return → (∀ m ∈ extra, m.1 ∉ fs.map Field.name) →
    (treeMembers (Values.members fs v ++ extra)).readInto fs other (Slots.empty fs) rest =
      (readOthers other extra rest).map fun rest => (Slots.filled fs v, rest)
  | [], _, extra, rest, _, _, _ => readInto_nil extra rest
  | f :: fs, (a, more), extra, rest, distinct, returns, apart => by
    obtain ⟨own, others⟩ := returns
    rw [List.map_cons, List.nodup_cons] at distinct
    have missing : ∀ m ∈ Values.members fs more ++ extra, m.1 ≠ f.name := by
      intro m member same
      rcases List.mem_append.mp member with field | outside
      · exact distinct.1 (same ▸ name_of_mem_members fs more m field)
      · exact apart m outside (by rw [same, List.map_cons]; exact List.mem_cons_self)
    have inTail := readInto_members fs more extra rest distinct.2 others
      (fun m outside inside => apart m outside (List.mem_cons_of_mem _ inside))
    have skipped : ∀ slot : Option f.Value,
        (treeMembers (Values.members fs more ++ extra)).readInto (f :: fs) other
          (slot, Slots.empty fs) rest =
        (readOthers other extra rest).map fun rest => ((slot, Slots.filled fs more), rest) := by
      intro slot
      rw [readInto_cons_of_missing f fs _ slot _ rest missing, inTail]
      cases readOthers other extra rest <;> rfl
    rw [Field.Returns] at own
    rw [Values.members, Slots.filled]
    cases written : f.write a with
    | none => exact skipped none
    | some v =>
      rw [written] at own
      simp only [List.cons_append, treeMembers, Members.readInto, Slots.empty, Slots.assign,
        beq_self_eq_true, if_true, Option.isSome_none, Bool.false_eq_true, if_false, own.2]
      exact skipped (some a)

theorem finish_filled : ∀ (fs : List Field) (v : Values fs), v.Return →
    Slots.finish fs (Slots.filled fs v) = .ok v
  | [], _, _ => rfl
  | f :: fs, (a, more), returns => by
    obtain ⟨own, others⟩ := returns
    have found : ((f.write a).map fun _ => a).or f.absent = some a := by
      rw [Field.Returns] at own
      split at own
      · rename_i v written
        rw [written]
        rfl
      · rename_i written
        rw [written, own]
        rfl
    rw [Slots.filled, Slots.finish, found]
    dsimp only
    rw [finish_filled fs more others]
    rfl

/-- A record written as an object reads back. -/
theorem readRecord_members {fs : List Field} (v : Values fs) (distinct : (fs.map Field.name).Nodup)
    (returns : v.Return) : (tree (.object (v.members fs))).readRecord fs = .ok v := by
  have members : (treeMembers (v.members fs ++ [])).readInto fs
      (fun (_ : Unit) _ value => value.skip) (Slots.empty fs) () = .ok (Slots.filled fs v, ()) :=
    readInto_members fs v [] () distinct returns fun _ member => nomatch member
  rw [List.append_nil] at members
  rw [tree, Tree.readRecord, members]
  exact finish_filled fs v returns

theorem isPlain_texts (l : List String) : (texts l).IsPlain := by
  refine .array ?_
  intro v member
  obtain ⟨s, -, rfl⟩ := List.mem_map.mp member
  exact .string s

theorem keep_texts (l : List String) (depth : Nat) :
    (tree (texts l)).keep (depth + 1) = .ok (texts l) := by
  have items : (treeItems (l.map .string)).keep depth = .ok (l.map .string) := by
    induction l with
    | nil => rfl
    | cons s l ih =>
      simp only [List.map_cons, treeItems, tree, Items.keep, Tree.keep, ih]
      rfl
  rw [texts, tree, Tree.keep, items]
  rfl

theorem readInt64_ofInt {n : Int} (least : -9223372036854775808 ≤ n)
    (greatest : n ≤ 9223372036854775807) : readInt64 (tree (ofInt n)) = .ok n := by
  rw [ofInt, tree, readInt64, Tree.readInteger, value?_spelling least (by omega)]
  exact if_pos ⟨least, greatest⟩

theorem returns_text (name s : String) : (textField name).Returns s :=
  ⟨.string s, rfl⟩

theorem returns_int64 (name : String) {n : Int} (least : -9223372036854775808 ≤ n)
    (greatest : n ≤ 9223372036854775807) : (int64Field name).Returns n :=
  ⟨.integer n, readInt64_ofInt least greatest⟩

theorem returns_omittableText (name : String) (s : Option String) :
    (omittableTextField name).Returns s := by
  cases s with
  | none => rfl
  | some s => exact ⟨.string s, rfl⟩

theorem returns_omittableFlag (name : String) (b : Option Bool) :
    (Field.omittable name Tree.readFlag .bool).Returns b := by
  cases b with
  | none => rfl
  | some b => exact ⟨.bool b, rfl⟩

end SessionTokens.Json
