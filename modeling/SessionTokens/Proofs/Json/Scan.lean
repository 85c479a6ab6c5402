import SessionTokens.Proofs.Json.Spelled

set_option autoImplicit false

namespace SessionTokens.Json

/-- A document without doubles. -/
inductive IsPlain : Json → Prop
  | null : IsPlain .null
  | bool (b : Bool) : IsPlain (.bool b)
  | integer (n : Int) : IsPlain (.number (.integer n))
  | string (s : String) : IsPlain (.string s)
  | array {items : List Json} (each : ∀ v ∈ items, IsPlain v) : IsPlain (.array items)
  | object {members : List (String × Json)} (each : ∀ m ∈ members, IsPlain m.2) :
    IsPlain (.object members)

mutual

/-- The tree of a plain document. -/
def tree : Json → Tree
  | .null => .null
  | .bool b => .bool b
  | .number (.integer n) => .number (spelling n)
  | .number (.float _) => .broken
  | .string s => .string (some s)
  | .array items => .array (treeItems items)
  | .object members => .object (treeMembers members)

def treeItems : List Json → Items
  | [] => .closed
  | item :: rest => .cons (tree item) (treeItems rest)

def treeMembers : List (String × Json) → Members
  | [] => .closed
  | member :: rest => .cons (some member.1) (tree member.2) (treeMembers rest)

end

/-- A character that no blank and no closing bracket is. -/
def Opens (c : Char) : Prop :=
  (c == ' ' || c == '\t' || c == '\n' || c == '\r') = false ∧ c ≠ ']'

theorem skipBlank_of_opens {c : Char} (opens : Opens c) (rest : List Unit?) :
    skipBlank (some c :: rest) = some c :: rest := by
  rw [skipBlank, if_neg]
  rw [opens.1]
  exact Bool.false_ne_true

theorem opens_of_isDigit {c : Char} (digit : c.isDigit = true) : Opens c := by
  have other : ∀ d : Char, d.isDigit = false → c ≠ d := by
    rintro d none rfl
    rw [digit] at none
    cases none
  refine ⟨?_, other ']' (by decide)⟩
  simp only [Bool.or_eq_false_iff, beq_eq_false_iff_ne]
  exact ⟨⟨⟨other ' ' (by decide), other '\t' (by decide)⟩, other '\n' (by decide)⟩,
    other '\r' (by decide)⟩

theorem toDigits_eq_cons (n : Nat) : ∃ c cs, Nat.toDigits 10 n = c :: cs ∧ c.isDigit = true := by
  cases digits : Nat.toDigits 10 n with
  | nil => exact absurd digits Nat.toDigits_ne_nil
  | cons c cs =>
    refine ⟨c, cs, rfl, ?_⟩
    apply Nat.isDigit_of_mem_toDigits (b := 10) (n := n) (by omega) (by omega)
    rw [digits]
    exact List.mem_cons_self

theorem write_eq_cons {v : Json} (plain : v.IsPlain) : ∃ c cs, v.write = c :: cs ∧ Opens c := by
  cases plain with
  | null => exact ⟨'n', _, rfl, by decide, by decide⟩
  | bool b => cases b <;> exact ⟨_, _, rfl, by decide, by decide⟩
  | integer n =>
    by_cases negative : n < 0
    · refine ⟨'-', Nat.toDigits 10 n.natAbs, ?_, by decide, by decide⟩
      rw [write, Number.write, writeInteger, if_pos negative]
    · obtain ⟨c, cs, digits, isDigit⟩ := toDigits_eq_cons n.toNat
      refine ⟨c, cs, ?_, opens_of_isDigit isDigit⟩
      rw [write, Number.write, writeInteger, if_neg negative, digits]
  | string s => exact ⟨'"', _, rfl, by decide, by decide⟩
  | @array items _ => cases items <;> exact ⟨'[', _, rfl, by decide, by decide⟩
  | @object members _ => cases members <;> exact ⟨'\x7b', _, rfl, by decide, by decide⟩

theorem length_write_pos {v : Json} (plain : v.IsPlain) : 0 < v.write.length := by
  obtain ⟨c, cs, text, -⟩ := write_eq_cons plain
  rw [text, List.length_cons]
  omega

theorem scanValue_integer (n : Int) (fuel : Nat) {rest : List Unit?} (separate : Separate rest) :
    scanValue (fuel + 1) ((writeInteger n).map some ++ rest) =
      (.number (spelling n), some rest) := by
  by_cases negative : n < 0
  · have sign : skipBlank (some '-' :: ((Nat.toDigits 10 n.natAbs).map some ++ rest)) =
        some '-' :: ((Nat.toDigits 10 n.natAbs).map some ++ rest) := rfl
    rw [writeInteger, if_pos negative, List.map_cons, List.cons_append, scanValue, sign]
    simp only [show ('-' == '"') = false from rfl, show ('-' == '[') = false from rfl,
      show ('-' == '\x7b') = false from rfl, show ('-' == '-') = true from rfl,
      Bool.false_eq_true, if_false, if_true, scanNumber_toDigits true n.natAbs separate]
    rw [treeOr, spelling, decide_eq_true negative]
  · obtain ⟨c, cs, digits, isDigit⟩ := toDigits_eq_cons n.toNat
    have other : ∀ d : Char, d.isDigit = false → (c == d) = false := by
      intro d none
      rw [beq_eq_false_iff_ne]
      rintro rfl
      rw [isDigit] at none
      cases none
    have number := scanNumber_toDigits false n.toNat separate
    rw [digits, List.map_cons, List.cons_append] at number
    rw [writeInteger, if_neg negative, digits, List.map_cons, List.cons_append, scanValue,
      skipBlank_of_opens (opens_of_isDigit isDigit)]
    simp only [other '"' (by decide), other '[' (by decide), other '\x7b' (by decide),
      other '-' (by decide), isDigit, Bool.false_eq_true, if_false, if_true, number]
    rw [treeOr, spelling, decide_eq_false negative, show n.natAbs = n.toNat by omega]

theorem separate_comma (rest : List Unit?) : Separate (some ',' :: rest) :=
  separate_cons rest (by decide)

theorem separate_bracket (rest : List Unit?) : Separate (some ']' :: rest) :=
  separate_cons rest (by decide)

theorem separate_brace (rest : List Unit?) : Separate (some '\x7d' :: rest) :=
  separate_cons rest (by decide)

/-- The items of an array up to its end. -/
theorem scanItems_write (item : Json) (more : List Json) (fuel : Nat) (rest : List Unit?)
    (enough : 2 * (item.write ++ writeItems more).length ≤ fuel)
    (plain : ∀ v ∈ item :: more, IsPlain v)
    (each : ∀ v ∈ item :: more, ∀ fuel rest, 2 * v.write.length ≤ fuel → Separate rest →
      scanValue fuel (v.write.map some ++ rest) = (tree v, some rest)) :
    scanItems fuel ((item.write ++ writeItems more).map some ++ rest) =
      (treeItems (item :: more), some rest) := by
  have positive := length_write_pos (plain item List.mem_cons_self)
  rw [List.length_append] at enough
  obtain ⟨f, rfl⟩ : ∃ f, fuel = f + 1 := ⟨fuel - 1, by omega⟩
  induction more generalizing item f with
  | nil =>
    rw [writeItems, List.length_singleton] at enough
    rw [writeItems, List.map_append, List.append_assoc, List.map_singleton, List.singleton_append,
      scanItems, each item List.mem_cons_self f _ (by omega) (separate_bracket rest)]
    rfl
  | cons next more ih =>
    rw [writeItems, List.cons_append, List.length_cons, List.length_append] at enough
    have positive' := length_write_pos (plain next (List.mem_cons_of_mem _ List.mem_cons_self))
    obtain ⟨g, rfl⟩ : ∃ g, f = g + 1 := ⟨f - 1, by omega⟩
    have inTail := ih next (fun v member => plain v (List.mem_cons_of_mem _ member))
      (fun v member => each v (List.mem_cons_of_mem _ member)) positive' g (by omega)
    rw [writeItems, List.map_append, List.append_assoc, List.cons_append, List.map_cons,
      List.cons_append, scanItems,
      each item List.mem_cons_self (g + 1) _ (by omega) (separate_comma _)]
    simp only [skipBlank_of_opens (show Opens ',' by exact ⟨rfl, by decide⟩), inTail]
    rfl

theorem map_write_member (member : String × Json) (rest : List Unit?) :
    (writeString member.1 ++ ':' :: member.2.write).map some ++ rest =
      some '"' :: ((member.1.toList.flatMap escape ++ ['"']).map some ++
        some ':' :: (member.2.write.map some ++ rest)) := by
  simp only [writeString, List.map_append, List.map_cons, List.map_nil, List.cons_append,
    List.append_assoc, List.nil_append]

/-- A member with more after it. -/
theorem scanMembers_comma {member : String × Json} {fuel : Nat} {rest : List Unit?}
    {members : Members} {r : Option (List Unit?)}
    (value : scanValue fuel (member.2.write.map some ++ some ',' :: rest) =
      (tree member.2, some (some ',' :: rest)))
    (others : scanMembers fuel rest = (members, r)) :
    scanMembers (fuel + 1) ((writeString member.1 ++ ':' :: member.2.write).map some ++
      some ',' :: rest) = (.cons (some member.1) (tree member.2) members, r) := by
  rw [map_write_member, scanMembers, skipBlank_of_opens (show Opens '"' by exact ⟨rfl, by decide⟩)]
  simp only [scanString_write, skipBlank_of_opens (show Opens ':' by exact ⟨rfl, by decide⟩), value,
    skipBlank_of_opens (show Opens ',' by exact ⟨rfl, by decide⟩), others]

/-- The last member. -/
theorem scanMembers_brace {member : String × Json} {fuel : Nat} {rest : List Unit?}
    (value : scanValue fuel (member.2.write.map some ++ some '\x7d' :: rest) =
      (tree member.2, some (some '\x7d' :: rest))) :
    scanMembers (fuel + 1) ((writeString member.1 ++ ':' :: member.2.write).map some ++
      some '\x7d' :: rest) = (.cons (some member.1) (tree member.2) .closed, some rest) := by
  rw [map_write_member, scanMembers, skipBlank_of_opens (show Opens '"' by exact ⟨rfl, by decide⟩)]
  simp only [scanString_write, skipBlank_of_opens (show Opens ':' by exact ⟨rfl, by decide⟩), value,
    skipBlank_of_opens (show Opens '\x7d' by exact ⟨rfl, by decide⟩)]

/-- The members of an object up to its end. -/
theorem scanMembers_write (member : String × Json) (more : List (String × Json)) (fuel : Nat)
    (rest : List Unit?)
    (enough :
      2 * (writeString member.1 ++ ':' :: member.2.write ++ writeMembers more).length ≤ fuel)
    (each : ∀ m ∈ member :: more, ∀ fuel rest, 2 * m.2.write.length ≤ fuel → Separate rest →
      scanValue fuel (m.2.write.map some ++ rest) = (tree m.2, some rest)) :
    scanMembers fuel ((writeString member.1 ++ ':' :: member.2.write ++ writeMembers more).map some
      ++ rest) = (treeMembers (member :: more), some rest) := by
  rw [List.length_append, List.length_append, List.length_cons] at enough
  obtain ⟨f, rfl⟩ : ∃ f, fuel = f + 1 := ⟨fuel - 1, by omega⟩
  induction more generalizing member f with
  | nil =>
    rw [writeMembers, List.length_singleton] at enough
    rw [writeMembers, List.map_append, List.append_assoc, List.map_singleton,
      List.singleton_append]
    exact scanMembers_brace (each member List.mem_cons_self f _ (by omega) (separate_brace rest))
  | cons next more ih =>
    simp only [writeMembers, List.length_append, List.length_cons] at enough
    obtain ⟨g, rfl⟩ : ∃ g, f = g + 1 := ⟨f - 1, by omega⟩
    have inTail := ih next (fun m member => each m (List.mem_cons_of_mem _ member)) g (by omega)
    rw [writeMembers, List.map_append, List.append_assoc, List.append_assoc, List.cons_append,
      List.map_cons, List.cons_append]
    rw [List.append_assoc] at inTail
    exact scanMembers_comma (each member List.mem_cons_self (g + 1) _ (by omega) (separate_comma _))
      inTail

theorem scanValue_bracket {fuel : Nat} {c : Char} {rest : List Unit?} (opens : Opens c) :
    scanValue (fuel + 1) (some '[' :: some c :: rest) =
      (.array (scanItems fuel (some c :: rest)).1, (scanItems fuel (some c :: rest)).2) := by
  rw [scanValue, skipBlank_of_opens (show Opens '[' by exact ⟨rfl, by decide⟩)]
  dsimp only
  rw [if_neg (by decide), if_pos (by decide), skipBlank_of_opens opens]
  split
  · rename_i bracket
    exact absurd (Option.some.inj (List.cons.inj bracket).1) opens.2
  · rfl

theorem scanValue_brace {fuel : Nat} {rest : List Unit?} :
    scanValue (fuel + 1) (some '\x7b' :: some '"' :: rest) =
      (.object (scanMembers fuel (some '"' :: rest)).1,
        (scanMembers fuel (some '"' :: rest)).2) := by
  rw [scanValue, skipBlank_of_opens (show Opens '\x7b' by exact ⟨rfl, by decide⟩)]
  rfl

/-- Two units of fuel for each character are enough. -/
theorem scanValue_write {v : Json} (plain : v.IsPlain) :
    ∀ fuel rest, 2 * v.write.length ≤ fuel → Separate rest →
      scanValue fuel (v.write.map some ++ rest) = (tree v, some rest) := by
  induction plain with
  | null =>
    intro fuel rest enough _
    obtain ⟨f, rfl⟩ : ∃ f, fuel = f + 1 := ⟨fuel - 1, by change 8 ≤ fuel at enough; omega⟩
    rfl
  | bool b =>
    intro fuel rest enough _
    cases b with
    | false =>
      obtain ⟨f, rfl⟩ : ∃ f, fuel = f + 1 := ⟨fuel - 1, by change 10 ≤ fuel at enough; omega⟩
      rfl
    | true =>
      obtain ⟨f, rfl⟩ : ∃ f, fuel = f + 1 := ⟨fuel - 1, by change 8 ≤ fuel at enough; omega⟩
      rfl
  | integer n =>
    intro fuel rest enough separate
    have positive := length_write_pos (.integer n)
    obtain ⟨f, rfl⟩ : ∃ f, fuel = f + 1 := ⟨fuel - 1, by omega⟩
    exact scanValue_integer n f separate
  | string s =>
    intro fuel rest enough _
    have positive := length_write_pos (.string s)
    obtain ⟨f, rfl⟩ : ∃ f, fuel = f + 1 := ⟨fuel - 1, by omega⟩
    have text := scanString_write s rest
    rw [write, writeString, List.cons_append, List.map_cons, List.cons_append, scanValue,
      skipBlank_of_opens (show Opens '"' by exact ⟨rfl, by decide⟩)]
    simp only [text]
    rfl
  | @array items each ih =>
    intro fuel rest enough _
    cases items with
    | nil =>
      obtain ⟨f, rfl⟩ : ∃ f, fuel = f + 1 := ⟨fuel - 1, by change 4 ≤ fuel at enough; omega⟩
      rfl
    | cons item more =>
      rw [write, List.cons_append, List.length_cons] at enough
      obtain ⟨f, rfl⟩ : ∃ f, fuel = f + 1 := ⟨fuel - 1, by omega⟩
      have whole := scanItems_write item more f rest (by omega) each ih
      obtain ⟨c, cs, first, opens⟩ := write_eq_cons (each item List.mem_cons_self)
      rw [first] at whole
      rw [write, first]
      simp only [List.cons_append, List.map_cons] at whole ⊢
      rw [scanValue_bracket opens, whole]
      rfl
  | @object members each ih =>
    intro fuel rest enough _
    cases members with
    | nil =>
      obtain ⟨f, rfl⟩ : ∃ f, fuel = f + 1 := ⟨fuel - 1, by change 4 ≤ fuel at enough; omega⟩
      rfl
    | cons member more =>
      rw [write, List.cons_append, List.cons_append, List.length_cons] at enough
      obtain ⟨f, rfl⟩ : ∃ f, fuel = f + 1 := ⟨fuel - 1, by omega⟩
      have whole := scanMembers_write member more f rest (by omega) ih
      rw [write]
      simp only [writeString, List.cons_append, List.map_cons] at whole ⊢
      rw [scanValue_brace, whole]
      rfl

theorem scan_write {v : Json} (plain : v.IsPlain) :
    Document.scan (v.write.map some) = ⟨tree v, true⟩ := by
  have whole := scanValue_write plain (2 * (v.write.map some).length + 2) []
    (by rw [List.length_map]; omega) separate_nil
  rw [List.append_nil] at whole
  rw [Document.scan, whole]
  rfl

end SessionTokens.Json
