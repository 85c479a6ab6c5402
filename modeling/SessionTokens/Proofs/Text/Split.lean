import SessionTokens.Text.Split

set_option autoImplicit false

namespace SessionTokens.Text

variable {separator : Char} {s : List Char}

theorem splitFirst?_eq_none_iff : splitFirst? separator s = none ↔ separator ∉ s := by
  induction s with
  | nil => simp [splitFirst?]
  | cons c rest ih =>
    rw [splitFirst?, List.mem_cons, not_or]
    by_cases same : c = separator
    · simp [same]
    · rw [if_neg (mt eq_of_beq same), Option.map_eq_none_iff, ih]
      exact (and_iff_right (Ne.symm same)).symm

theorem splitFirst?_eq_some_iff {before after : List Char} :
    splitFirst? separator s = some (before, after) ↔
      s = before ++ separator :: after ∧ separator ∉ before := by
  induction s generalizing before with
  | nil => simp [splitFirst?]
  | cons c rest ih =>
    rw [splitFirst?]
    by_cases same : c = separator
    · subst same
      rw [if_pos (beq_self_eq_true c), Option.some.injEq, Prod.mk.injEq]
      constructor
      · rintro ⟨rfl, rfl⟩
        exact ⟨rfl, List.not_mem_nil⟩
      · rintro ⟨whole, absent⟩
        cases before with
        | nil => exact ⟨rfl, (List.cons.inj whole).2⟩
        | cons b before =>
          rw [(List.cons.inj whole).1] at absent
          exact absurd List.mem_cons_self absent
    · rw [if_neg (mt eq_of_beq same), Option.map_eq_some_iff]
      constructor
      · rintro ⟨⟨front, back⟩, parted, joined⟩
        obtain ⟨rfl, rfl⟩ := Prod.mk.inj joined
        obtain ⟨rfl, absent⟩ := ih.mp parted
        refine ⟨rfl, ?_⟩
        rw [List.mem_cons, not_or]
        exact ⟨Ne.symm same, absent⟩
      · rintro ⟨whole, absent⟩
        cases before with
        | nil => exact absurd (List.cons.inj whole).1 same
        | cons b before =>
          obtain ⟨rfl, rfl⟩ := List.cons.inj whole
          exact ⟨(before, after), ih.mpr ⟨rfl, mt (List.mem_cons_of_mem c) absent⟩, rfl⟩

theorem split_separator (separator : Char) (s : List Char) :
    split separator (separator :: s) = [] :: split separator s := by
  rw [split, if_pos (beq_self_eq_true separator)]

theorem split_ne_nil (separator : Char) (s : List Char) : split separator s ≠ [] := by
  cases s with
  | nil => exact List.cons_ne_nil _ _
  | cons c rest =>
    rw [split]
    split
    · exact List.cons_ne_nil _ _
    · split <;> exact List.cons_ne_nil _ _

/-- Any other character belongs to the first part. -/
theorem split_cons {c : Char} (other : c ≠ separator) :
    ∃ part parts, split separator s = part :: parts ∧
      split separator (c :: s) = (c :: part) :: parts := by
  rw [split, if_neg (mt eq_of_beq other)]
  cases parted : split separator s with
  | nil => exact absurd parted (split_ne_nil separator s)
  | cons part parts => exact ⟨part, parts, rfl, rfl⟩

theorem split_of_not_mem (absent : separator ∉ s) : split separator s = [s] := by
  induction s with
  | nil => rfl
  | cons c rest ih =>
    rw [List.mem_cons, not_or] at absent
    rw [split, if_neg (mt eq_of_beq (Ne.symm absent.1)), ih absent.2]

theorem split_append {part : List Char} (absent : separator ∉ part) (rest : List Char) :
    split separator (part ++ separator :: rest) = part :: split separator rest := by
  induction part with
  | nil => exact split_separator separator rest
  | cons c part ih =>
    rw [List.mem_cons, not_or] at absent
    rw [List.cons_append, split, if_neg (mt eq_of_beq (Ne.symm absent.1)), ih absent.2]

/-- The parts with separators between them are the text. -/
theorem intercalate_split (separator : Char) (s : List Char) :
    [separator].intercalate (split separator s) = s := by
  induction s with
  | nil => rfl
  | cons c rest ih =>
    by_cases same : c = separator
    · subst same
      rw [split_separator, List.intercalate_cons_of_ne_nil (split_ne_nil c rest), ih]
      rfl
    · obtain ⟨part, parts, parted, whole⟩ := split_cons (s := rest) same
      rw [parted] at ih
      rw [whole, ← ih]
      cases parts with
      | nil => rfl
      | cons next parts =>
        rw [List.intercalate_cons_cons, List.intercalate_cons_cons]
        rfl

/-- Parts that do not have the separator in them are found again. -/
theorem split_intercalate {parts : List (List Char)} (filled : parts ≠ [])
    (clean : ∀ part ∈ parts, separator ∉ part) :
    split separator ([separator].intercalate parts) = parts := by
  induction parts with
  | nil => exact absurd rfl filled
  | cons part parts ih =>
    obtain ⟨absent, clean⟩ := List.forall_mem_cons.mp clean
    cases parts with
    | nil =>
      rw [List.intercalate_singleton]
      exact split_of_not_mem absent
    | cons next parts =>
      rw [List.intercalate_cons_cons, List.append_assoc, List.singleton_append,
        split_append absent, ih (List.cons_ne_nil _ _) clean]

theorem mem_intercalate {parts : List (List Char)} {c : Char}
    (inside : c ∈ [separator].intercalate parts) : c = separator ∨ ∃ part ∈ parts, c ∈ part := by
  induction parts with
  | nil => cases inside
  | cons part parts ih =>
    cases parts with
    | nil =>
      rw [List.intercalate_singleton] at inside
      exact Or.inr ⟨part, List.mem_cons_self, inside⟩
    | cons next parts =>
      rw [List.intercalate_cons_cons, List.mem_append, List.mem_append,
        List.mem_singleton] at inside
      rcases inside with (inside | same) | inside
      · exact Or.inr ⟨part, List.mem_cons_self, inside⟩
      · exact Or.inl same
      · rcases ih inside with same | ⟨part', member, inside⟩
        · exact Or.inl same
        · exact Or.inr ⟨part', List.mem_cons_of_mem _ member, inside⟩

end SessionTokens.Text
