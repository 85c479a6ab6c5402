import SessionTokens.Api.Gate
import SessionTokens.Proofs.Text.Split

set_option autoImplicit false

namespace SessionTokens

open Text

/-- What a request shows of its sender. -/
inductive Credential
  | none
  | unreadable
  | bearer (token : String)
deriving DecidableEq

namespace Credential

/-- What the visible text of an authorization header shows. The first space ends the scheme. -/
inductive IsIn : Credential → List Char → Prop
  | noScheme {text : List Char} (whole : ' ' ∉ text) : IsIn .none text
  | otherScheme {scheme rest : List Char} (first : ' ' ∉ scheme)
      (other : scheme.map Char.toLower ≠ "bearer".toList) : IsIn .none (scheme ++ ' ' :: rest)
  | noToken {scheme rest : List Char} (first : ' ' ∉ scheme)
      (own : scheme.map Char.toLower = "bearer".toList) (empty : trim rest = []) :
      IsIn .unreadable (scheme ++ ' ' :: rest)
  | token {scheme rest : List Char} (first : ' ' ∉ scheme)
      (own : scheme.map Char.toLower = "bearer".toList) (filled : trim rest ≠ []) :
      IsIn (.bearer (String.ofList (trim rest))) (scheme ++ ' ' :: rest)

/-- What the gates make of a credential. -/
def reading : Credential → Except ApiError (Option String)
  | none => .ok .none
  | unreadable => .error (.token .malformed)
  | bearer token => .ok (some token)

theorem reading_injective {c c' : Credential} (same : c.reading = c'.reading) : c = c' := by
  cases c <;> cases c' <;> cases same <;> rfl

end Credential

namespace Request

/-- The characters of a header value. -/
def chars (value : List UInt8) : List Char :=
  value.map fun b => Char.ofNat b.toNat

/-- What the first authorization header of a request shows. -/
inductive Shows (r : Request) : Credential → Prop
  | absent (missing : r.header? "authorization" = none) : Shows r .none
  | invisible {value : List UInt8} {b : UInt8} (present : r.header? "authorization" = some value)
      (inside : b ∈ value) (hidden : isVisible b = false) : Shows r .unreadable
  | visible {value : List UInt8} {c : Credential}
      (present : r.header? "authorization" = some value)
      (visible : ∀ b ∈ value, isVisible b = true) (read : c.IsIn (chars value)) : Shows r c

variable {r : Request} {c c' : Credential}

theorem visible?_of_hidden {value : List UInt8} {b : UInt8} (inside : b ∈ value)
    (hidden : isVisible b = false) : visible? value = none := by
  refine if_neg fun all => ?_
  rw [List.all_eq_true.mp all b inside] at hidden
  cases hidden

theorem visible?_of_visible {value : List UInt8} (visible : ∀ b ∈ value, isVisible b = true) :
    visible? value = some (chars value) :=
  if_pos (List.all_eq_true.mpr visible)

theorem exists_isIn (text : List Char) : ∃ c : Credential, c.IsIn text := by
  cases parted : splitFirst? ' ' text with
  | none => exact ⟨.none, .noScheme (splitFirst?_eq_none_iff.mp parted)⟩
  | some parts =>
    obtain ⟨scheme, rest⟩ := parts
    obtain ⟨rfl, first⟩ := splitFirst?_eq_some_iff.mp parted
    by_cases own : scheme.map Char.toLower = "bearer".toList
    · by_cases empty : trim rest = []
      · exact ⟨.unreadable, .noToken first own empty⟩
      · exact ⟨_, .token first own empty⟩
    · exact ⟨.none, .otherScheme first own⟩

/-- Every request shows something. -/
theorem exists_shows (r : Request) : ∃ c, r.Shows c := by
  cases present : r.header? "authorization" with
  | none => exact ⟨.none, .absent present⟩
  | some value =>
    by_cases visible : ∀ b ∈ value, isVisible b = true
    · obtain ⟨c, read⟩ := exists_isIn (chars value)
      exact ⟨c, .visible present visible read⟩
    · obtain ⟨b, seen⟩ := Classical.not_forall.mp visible
      obtain ⟨inside, hidden⟩ := Classical.not_imp.mp seen
      exact ⟨.unreadable, .invisible present inside (Bool.eq_false_iff.mpr hidden)⟩

theorem Shows.bearer_eq (shows : r.Shows c) : r.bearer = c.reading := by
  cases shows with
  | absent missing =>
    rw [bearer, missing]
    rfl
  | invisible present inside hidden =>
    simp only [bearer, present, visible?_of_hidden inside hidden]
    rfl
  | visible present visible read =>
    simp only [bearer, present, visible?_of_visible visible]
    generalize chars _ = text at read
    cases read with
    | noScheme whole =>
      rw [splitFirst?_eq_none_iff.mpr whole]
      rfl
    | otherScheme first other =>
      rw [splitFirst?_eq_some_iff.mpr ⟨rfl, first⟩]
      exact if_pos other
    | noToken first own empty =>
      rw [splitFirst?_eq_some_iff.mpr ⟨rfl, first⟩]
      dsimp only
      rw [if_neg (not_not_intro own), if_pos (List.isEmpty_iff.mpr empty)]
      rfl
    | token first own filled =>
      rw [splitFirst?_eq_some_iff.mpr ⟨rfl, first⟩]
      dsimp only
      rw [if_neg (not_not_intro own), if_neg (mt List.isEmpty_iff.mp filled)]
      rfl

/-- A request shows one credential, and the gates see this one. -/
theorem shows_iff : r.Shows c ↔ r.bearer = c.reading := by
  refine ⟨Shows.bearer_eq, fun seen => ?_⟩
  obtain ⟨c', shows⟩ := exists_shows r
  rw [Credential.reading_injective (seen.symm.trans shows.bearer_eq)]
  exact shows

theorem Shows.unique (shows : r.Shows c) (shows' : r.Shows c') : c = c' :=
  Credential.reading_injective (shows.bearer_eq.symm.trans shows'.bearer_eq)

end Request

end SessionTokens
