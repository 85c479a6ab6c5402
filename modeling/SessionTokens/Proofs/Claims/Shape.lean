import Mathlib.Logic.Relation
import SessionTokens.Proofs.Claims.Stated
import SessionTokens.Proofs.Json.Order

set_option autoImplicit false

namespace SessionTokens

namespace Json

mutual

/-- How deep the containers of a value are nested. -/
def Tree.nesting : Tree → Nat
  | .array items => items.nesting + 1
  | .object members => members.nesting + 1
  | _ => 0

def Items.nesting : Items → Nat
  | .cons item rest => max item.nesting rest.nesting
  | _ => 0

def Members.nesting : Members → Nat
  | .cons _ value rest => max value.nesting rest.nesting
  | _ => 0

end

mutual

/-- The form is right, strings and names are text, and numbers are within their limits. -/
def Tree.IsSound : Tree → Prop
  | .number n => n.value?.isSome
  | .string s => s.isSome
  | .array items => items.IsSound
  | .object members => members.IsSound
  | .broken => False
  | _ => True

def Items.IsSound : Items → Prop
  | .closed => True
  | .cut => False
  | .cons item rest => item.IsSound ∧ rest.IsSound

def Members.IsSound : Members → Prop
  | .closed => True
  | .cut => False
  | .cons name value rest => name.isSome ∧ value.IsSound ∧ rest.IsSound

end

mutual

/-- A sound value is kept wherever it is not nested too deep. -/
theorem Tree.IsSound.keep : ∀ {depth : Nat} {t : Tree}, t.IsSound → t.nesting ≤ depth →
    ∃ v, t.keep depth = .ok v
  | _, .null, _, _ => ⟨_, by rw [Tree.keep]⟩
  | _, .bool _, _, _ => ⟨_, by rw [Tree.keep]⟩
  | _, .number n, sound, _ => by
    obtain ⟨v, value⟩ := Option.isSome_iff_exists.mp sound
    exact ⟨.number v, by rw [Tree.keep, value]⟩
  | _, .string (some s), _, _ => ⟨.string s, by rw [Tree.keep]⟩
  | _, .string none, sound, _ => nomatch sound
  | 0, .array _, _, shallow => nomatch shallow
  | depth + 1, .array items, sound, shallow => by
    obtain ⟨vs, kept⟩ := Items.IsSound.keep (show items.IsSound from sound)
      (Nat.le_of_succ_le_succ shallow)
    exact ⟨.array vs, by rw [Tree.keep, kept]; rfl⟩
  | 0, .object _, _, shallow => nomatch shallow
  | depth + 1, .object members, sound, shallow => by
    obtain ⟨vs, kept⟩ := Members.IsSound.keep (show members.IsSound from sound)
      (Nat.le_of_succ_le_succ shallow) []
    exact ⟨.object vs, by rw [Tree.keep, kept]; rfl⟩
  | _, .broken, sound, _ => nomatch sound

theorem Items.IsSound.keep : ∀ {depth : Nat} {items : Items}, items.IsSound →
    items.nesting ≤ depth → ∃ vs, items.keep depth = .ok vs
  | _, .closed, _, _ => ⟨[], by rw [Items.keep]⟩
  | _, .cut, sound, _ => nomatch sound
  | depth, .cons item rest, ⟨sound, more⟩, shallow => by
    rw [Items.nesting, Nat.max_le] at shallow
    obtain ⟨v, kept⟩ := sound.keep shallow.1
    obtain ⟨vs, later⟩ := more.keep shallow.2
    exact ⟨v :: vs, by rw [Items.keep, kept, later]; rfl⟩

theorem Members.IsSound.keep : ∀ {depth : Nat} {members : Members}, members.IsSound →
    members.nesting ≤ depth → ∀ before, ∃ vs, members.keep depth before = .ok vs
  | _, .closed, _, _, before => ⟨before, by rw [Members.keep]⟩
  | _, .cut, sound, _, _ => nomatch sound
  | _, .cons none _ _, ⟨sound, _⟩, _, _ => nomatch sound
  | depth, .cons (some name) value rest, ⟨_, sound, more⟩, shallow, before => by
    rw [Members.nesting, Nat.max_le] at shallow
    obtain ⟨v, kept⟩ := sound.keep shallow.1
    obtain ⟨vs, later⟩ := more.keep shallow.2 (insertMember name v before)
    exact ⟨vs, by rw [Members.keep, kept]; exact later⟩

end

end Json

open Json Token

namespace WireClaims

/-- The fields of a payload, and the value where roles are looked for. -/
def glimpse (role : String) (r : Read WireClaims) : Option (Values fields × Option Json) :=
  r.toOption.map fun w => (w.values, w.extra.lookup role)

/-- The value where roles are looked for, after a member beside the fields. -/
def keepRole (role : String) (kept : Option Json) (name : String) (value : Tree) :
    Option (Option Json) :=
  (value.keep innerDepth).toOption.map fun v => if name = role then some v else kept

theorem toOption_keepExtra (role : String) (extra : List (String × Json)) (name : String)
    (value : Tree) : (keepExtra extra name value).toOption.map (·.lookup role) =
      keepRole role (extra.lookup role) name value := by
  rw [keepExtra, keepRole]
  cases value.keep innerDepth with
  | error e => rfl
  | ok v =>
    refine congrArg some ?_
    dsimp only
    split
    · rename_i same
      rw [same, lookup_insertMember_self]
    · rename_i other
      exact lookup_insertMember_other (Ne.symm other) v extra

theorem keepRole_comm (role : String) (kept : Option Json) (name name' : String)
    (value value' : Tree) (apart : name ≠ name') :
    (keepRole role kept name value).bind (keepRole role · name' value') =
      (keepRole role kept name' value').bind (keepRole role · name value) := by
  simp only [keepRole]
  cases value.keep innerDepth with
  | error e => cases value'.keep innerDepth <;> rfl
  | ok v =>
    cases value'.keep innerDepth with
    | error e => rfl
    | ok v' =>
      refine congrArg some ?_
      dsimp only
      by_cases here : name = role
      · have elsewhere : name' ≠ role := fun there => apart (here.trans there.symm)
        rw [if_pos here, if_pos here, if_neg elsewhere]
      · rw [if_neg here, if_neg here]

/-- What has been taken when the members end. -/
def taken (role : String) (ms : List Member) : Option (Slots fields × Option Json) :=
  ms.foldl (take fields (keepRole role)) (some (.empty fields, none))

theorem taken_append (role : String) (ms more : List Member) :
    taken role (ms ++ more) = more.foldl (take fields (keepRole role)) (taken role ms) :=
  List.foldl_append

theorem taken_concat (role : String) (ms : List Member) (m : Member) :
    taken role (ms ++ [m]) = take fields (keepRole role) (taken role ms) m :=
  taken_append role ms [m]

theorem glimpse_read (role : String) (ms : List Member) :
    glimpse role (read (.object (.ofList ms))) =
      (taken role ms).bind fun t => (t.1.finish fields).toOption.map fun v => (v, t.2) := by
  have seen := toOption_readInto fields (keepRole role) _ (toOption_keepExtra role) ms
    (.empty fields) []
  rw [taken, show (none : Option Json) = ([] : List (String × Json)).lookup role from rfl, ← seen,
    glimpse, read]
  cases (Members.ofList ms).readInto fields keepExtra (Slots.empty fields) [] with
  | error e => rfl
  | ok r =>
    obtain ⟨slots, extra⟩ := r
    dsimp only [bind, Except.bind, Except.toOption, Option.map, Option.bind]
    cases slots.finish fields <;> rfl

/-- The claims of a payload follow from what is taken of it. -/
theorem toClaims?_congr {w w' : WireClaims} {rolesClaim : RolesClaim} (same : w.values = w'.values)
    (role : w.extra.lookup rolesClaim.name = w'.extra.lookup rolesClaim.name) :
    w.toClaims? rolesClaim = w'.toClaims? rolesClaim := by
  obtain ⟨subject, issuer, audience, issuedAt, expiresAt, kind, tokenId, s2s, extra⟩ := w
  obtain ⟨subject', issuer', audience', issuedAt', expiresAt', kind', tokenId', s2s', extra'⟩ := w'
  obtain ⟨⟩ := same
  simp only [toClaims?, role]

/-- Names are distinct, and there is no start of validity. -/
def IsOrdinary (ms : List Member) : Prop :=
  AreDistinct ms ∧ some "nbf" ∉ ms.map Prod.fst

/-- One way of another issuer to say the same: members in another order, an audience of one as a
list, `null` for what is absent, or a member of the issuer's own. -/
inductive Respells (role : String) : List Member → List Member → Prop
  | order {ms ms' : List Member} (same : ms.Perm ms') : Respells role ms ms'
  | audience (before after : List Member) (s : Option String) :
      Respells role (before ++ (some "aud", .string s) :: after)
        (before ++ (some "aud", .array (.cons (.string s) .closed)) :: after)
  | null {ms : List Member} {name : String} (optional : name ∈ ["jti", "s2s"])
      (absent : some name ∉ ms.map Prod.fst) : Respells role ms (ms ++ [(some name, .null)])
  | more {ms : List Member} {name : String} {value : Tree} (foreign : name ∉ registeredClaims)
      (other : name ≠ role) (absent : some name ∉ ms.map Prod.fst) (sound : value.IsSound)
      (shallow : value.nesting ≤ innerDepth) : Respells role ms (ms ++ [(some name, value)])

theorem isOrdinary_congr {ms ms' : List Member} (names : ms.map Prod.fst = ms'.map Prod.fst) :
    IsOrdinary ms ↔ IsOrdinary ms' := by
  rw [IsOrdinary, IsOrdinary, areDistinct_iff, areDistinct_iff, names]

theorem isOrdinary_concat {ms : List Member} {name : String} (start : name ≠ "nbf")
    (absent : some name ∉ ms.map Prod.fst) (value : Tree) :
    IsOrdinary (ms ++ [(some name, value)]) ↔ IsOrdinary ms := by
  rw [IsOrdinary, IsOrdinary, areDistinct_concat absent, List.map_append, List.mem_append]
  refine and_congr_right fun _ => not_congr (or_iff_left ?_)
  intro last
  exact start (Option.some.inj (List.mem_singleton.mp last)).symm

variable {role : String} {ms ms' : List Member}

theorem Respells.isOrdinary_iff (step : Respells role ms ms') :
    IsOrdinary ms ↔ IsOrdinary ms' := by
  cases step with
  | order same =>
    have names := same.map Prod.fst
    exact and_congr ⟨fun distinct => distinct.perm same, fun distinct => distinct.perm same.symm⟩
      (not_congr names.mem_iff)
  | audience before after s =>
    apply isOrdinary_congr
    rw [List.map_append, List.map_append, List.map_cons, List.map_cons]
  | null optional absent =>
    refine (isOrdinary_concat ?_ absent _).symm
    rintro rfl
    exact absurd optional (by decide)
  | more foreign other absent sound shallow =>
    refine (isOrdinary_concat ?_ absent _).symm
    rintro rfl
    exact foreign (by decide)

/-- An audience of one is read alike as a text and as a list. -/
theorem toOption_readAudience_one (s : Option String) :
    (readAudience (.string s)).toOption =
      (readAudience (.array (.cons (.string s) .closed))).toOption := by
  cases s <;> rfl

/-- `null` is read as what an optional field is without it. -/
theorem null_is_absence {name : String} (optional : name ∈ ["jti", "s2s"]) :
    (∃ f ∈ fields, f.name = name) ∧
      ∀ f ∈ fields, f.name = name → ∃ a, f.read .null = .ok a ∧ f.absent = some a := by
  simp only [List.mem_cons, List.not_mem_nil, or_false] at optional
  rcases optional with rfl | rfl
  · simp [fields, Tree.readOptional]
  · simp [fields, Tree.readOptional]

theorem glimpse_null {name : String} (optional : name ∈ ["jti", "s2s"])
    (absent : some name ∉ ms.map Prod.fst) :
    glimpse role (read (.object (.ofList (ms ++ [(some name, .null)])))) =
      glimpse role (read (.object (.ofList ms))) := by
  obtain ⟨known, same⟩ := null_is_absence optional
  have present : name ∈ fields.map Field.name := List.mem_map.mpr known
  rw [glimpse_read, glimpse_read, taken_concat]
  cases before : taken role ms with
  | none => rfl
  | some t =>
    obtain ⟨slots, kept⟩ := t
    have free := isFree_foldl_take absent (Slots.isFree_empty name fields) before
    obtain ⟨slots', placed, ended⟩ := Slots.finish_of_absent free known same
    rw [take, if_pos present, placed, Option.map_some, Option.bind_some, Option.bind_some, ended]

theorem glimpse_more {name : String} {value : Tree} (foreign : name ∉ registeredClaims)
    (other : name ≠ role) (sound : value.IsSound) (shallow : value.nesting ≤ innerDepth) :
    glimpse role (read (.object (.ofList (ms ++ [(some name, value)])))) =
      glimpse role (read (.object (.ofList ms))) := by
  obtain ⟨v, kept⟩ := sound.keep shallow
  have unknown : name ∉ fields.map Field.name := fun inside =>
    foreign (name_mem_registered name inside)
  rw [glimpse_read, glimpse_read, taken_concat]
  congr 1
  cases taken role ms with
  | none => rfl
  | some t =>
    obtain ⟨slots, before⟩ := t
    rw [take, if_neg unknown, keepRole, kept]
    exact congrArg (fun kept => some (slots, kept)) (if_neg other)

theorem glimpse_audience (before after : List Member) (s : Option String) :
    glimpse role (read (.object (.ofList (before ++ (some "aud", .string s) :: after)))) =
      glimpse role (read (.object (.ofList
        (before ++ (some "aud", .array (.cons (.string s) .closed)) :: after)))) := by
  have same : ∀ f ∈ fields, f.name = "aud" → (f.read (.string s)).toOption =
      (f.read (.array (.cons (.string s) .closed))).toOption := by
    simp [fields, toOption_readAudience_one]
  rw [glimpse_read, glimpse_read, taken_append, taken_append, List.foldl_cons, List.foldl_cons]
  congr 2
  cases taken role before with
  | none => rfl
  | some t =>
    obtain ⟨slots, kept⟩ := t
    have present : "aud" ∈ fields.map Field.name := by decide
    rw [take, take, if_pos present, if_pos present, Slots.place_congr slots same]

/-- No way of saying the same shows in what is taken. -/
theorem Respells.glimpse_eq (step : Respells role ms ms') (ordinary : IsOrdinary ms) :
    glimpse role (read (.object (.ofList ms))) = glimpse role (read (.object (.ofList ms'))) := by
  cases step with
  | order same =>
    rw [glimpse_read, glimpse_read, taken, taken,
      foldl_take_perm (keepRole_comm role) ordinary.1 same]
  | audience before after s => exact glimpse_audience before after s
  | null optional absent => exact (glimpse_null optional absent).symm
  | more foreign other absent sound shallow => exact (glimpse_more foreign other sound shallow).symm

/-- Whatever ways are taken one after the other, there or back, each leads from an ordinary payload
to an ordinary one that is read alike. -/
theorem glimpse_eq_of_respelt (respelt : Relation.EqvGen (Respells role) ms ms') :
    (IsOrdinary ms ↔ IsOrdinary ms') ∧ (IsOrdinary ms →
      glimpse role (read (.object (.ofList ms))) =
        glimpse role (read (.object (.ofList ms')))) := by
  induction respelt with
  | rel ms ms' step => exact ⟨step.isOrdinary_iff, step.glimpse_eq⟩
  | refl ms => exact ⟨Iff.rfl, fun _ => rfl⟩
  | symm ms ms' _ ih => exact ⟨ih.1.symm, fun ordinary => (ih.2 (ih.1.mpr ordinary)).symm⟩
  | trans ms between ms' _ _ ih ih' =>
    exact ⟨ih.1.trans ih'.1, fun ordinary => (ih.2 ordinary).trans (ih'.2 (ih.1.mp ordinary))⟩

end WireClaims

end SessionTokens
