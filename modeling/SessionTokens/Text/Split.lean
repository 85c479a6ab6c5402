import SessionTokens.Arithmetic

set_option autoImplicit false

namespace SessionTokens.Text

/-- Whether a text begins with another. -/
def startsWith (start s : String) : Bool :=
  start.toList.isPrefixOf s.toList

/-- The parts between separators; there is always one. -/
def split (separator : Char) : List Char → List (List Char)
  | [] => [[]]
  | c :: rest =>
    if c == separator then [] :: split separator rest
    else
      match split separator rest with
      | part :: parts => (c :: part) :: parts
      | [] => [[c]]

/-- The parts before and after the first separator. -/
def splitFirst? (separator : Char) : List Char → Option (List Char × List Char)
  | [] => none
  | c :: rest =>
    if c == separator then some ([], rest)
    else (splitFirst? separator rest).map fun (before, after) => (c :: before, after)

/-- The parts before and after the last separator. -/
def splitLast? (separator : Char) : List Char → Option (List Char × List Char)
  | [] => none
  | c :: rest =>
    match splitLast? separator rest with
    | some (before, after) => some (c :: before, after)
    | none => if c == separator then some ([], rest) else none

theorem eq_of_splitLast? {separator : Char} {s before after : List Char}
    (h : splitLast? separator s = some (before, after)) : s = before ++ separator :: after := by
  induction s generalizing before with
  | nil => cases h
  | cons c rest ih =>
    unfold splitLast? at h
    split at h
    · rename_i b a hrest
      cases h
      rw [ih hrest, List.cons_append]
    · split at h
      · rename_i hc
        cases h
        rw [eq_of_beq hc, List.nil_append]
      · cases h

theorem not_mem_of_splitLast?_eq_none {separator : Char} {s : List Char}
    (h : splitLast? separator s = none) : separator ∉ s := by
  induction s with
  | nil => exact List.not_mem_nil
  | cons c rest ih =>
    unfold splitLast? at h
    split at h
    · cases h
    · rename_i hrest
      split at h
      · cases h
      · rename_i hc
        intro member
        rcases List.mem_cons.mp member with same | later
        · exact hc (beq_iff_eq.mpr same.symm)
        · exact ih hrest later

/-- There is no separator after the last one. -/
theorem not_mem_of_splitLast? {separator : Char} {s before after : List Char}
    (h : splitLast? separator s = some (before, after)) : separator ∉ after := by
  induction s generalizing before with
  | nil => cases h
  | cons c rest ih =>
    unfold splitLast? at h
    split at h
    · rename_i b a hrest
      cases h
      exact ih hrest
    · rename_i hrest
      split at h
      · cases h
        exact not_mem_of_splitLast?_eq_none hrest
      · cases h

end SessionTokens.Text
