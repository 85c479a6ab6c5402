import SessionTokens.Proofs.Directory.Names

set_option autoImplicit false

namespace SessionTokens

namespace Directory

variable {d d' : Directory} {a b : Account}

/-- An account is found unchanged, by its identifier and by its username. -/
structure Finds (d : Directory) (a : Account) : Prop where
  byId : d.find? a.id = some a
  byUsername : d.findUsername? a.username = some a

theorem IsDistinct.finds_iff (distinct : d.IsDistinct) : d.Finds a ↔ a ∈ d.accounts :=
  ⟨fun finds => (mem_of_find? finds.byId).1, fun inside =>
    ⟨distinct.find?_of_mem inside, distinct.findUsername?_of_mem inside⟩⟩

theorem findUsername?_eq_none_iff {username : String} :
    d.findUsername? username = none ↔ ¬ d.HasName username := by
  rw [findUsername?, List.find?_eq_none, HasName, not_exists]
  exact forall_congr' fun b => by rw [beq_iff_eq, not_and]

theorem not_hasName_of_insert (stored : d.insert a = .ok d') : ¬ d.HasName a.username := by
  rintro ⟨b, inside, same⟩
  exact ((insert_ok_iff d d' a).mp stored).1 b inside same

theorem hasName_of_refused {e : DirectoryError} (refused : d.insert a = .error e) :
    d.HasName a.username := by
  by_contra free
  have stored := (insert_ok_iff d _ a).mpr ⟨fun b inside same => free ⟨b, inside, same⟩, rfl⟩
  rw [refused] at stored
  cases stored

theorem insert_ok_iff_not_hasName : (∃ d', d.insert a = .ok d') ↔ ¬ d.HasName a.username := by
  constructor
  · rintro ⟨d', stored⟩
    exact not_hasName_of_insert stored
  · intro free
    cases inserted : d.insert a with
    | ok d' => exact ⟨d', rfl⟩
    | error e => exact absurd (hasName_of_refused inserted) free

/-- The new account is found. -/
theorem IsDistinct.finds_insert (distinct : d.IsDistinct) (stored : d.insert a = .ok d') :
    d'.Finds a :=
  (distinct.insert stored).finds_iff.mpr ((mem_insert_iff stored).mpr (Or.inr rfl))

/-- An account stays where it was just when the new one has another identifier. -/
theorem IsDistinct.finds_insert_iff (distinct : d.IsDistinct) (stored : d.insert a = .ok d')
    (finds : d.Finds b) : d'.Finds b ↔ b.id ≠ a.id := by
  have old := distinct.finds_iff.mp finds
  rw [(distinct.insert stored).finds_iff, mem_insert_iff stored]
  constructor
  · rintro (⟨-, other⟩ | rfl)
    · exact other
    · exact absurd ⟨b, old, rfl⟩ (not_hasName_of_insert stored)
  · exact fun other => Or.inl ⟨old, other⟩

/-- The account that the new one replaces is found by nothing any more. -/
theorem IsDistinct.replaced (distinct : d.IsDistinct) (stored : d.insert a = .ok d')
    (finds : d.Finds b) (same : b.id = a.id) :
    d'.find? b.id = some a ∧ d'.findUsername? b.username = none := by
  have old := distinct.finds_iff.mp finds
  refine ⟨same ▸ (distinct.finds_insert stored).byId, findUsername?_eq_none_iff.mpr ?_⟩
  rintro ⟨c, inside, named⟩
  rcases (mem_insert_iff stored).mp inside with ⟨older, other⟩ | rfl
  · exact other (List.inj_on_of_nodup_map distinct.usernames older old named ▸ same)
  · exact not_hasName_of_insert stored ⟨b, old, named.symm⟩

/-- Stores an account where the identifier is a key as well as the username. -/
def insertKeyed (d : Directory) (a : Account) : Except DirectoryError Directory :=
  if d.accounts.any fun b => b.id == a.id || b.username == a.username then
    .error (.usernameTaken a.username)
  else .ok ⟨d.accounts ++ [a]⟩

theorem insertKeyed_eq : d.insertKeyed a =
    if d.find? a.id = none then d.insert a else .error (.usernameTaken a.username) := by
  rw [insertKeyed, insert]
  by_cases new : d.find? a.id = none
  · have apart := find?_eq_none_iff.mp new
    have kept : d.accounts.filter (fun b => b.id != a.id) = d.accounts :=
      List.filter_eq_self.mpr fun b inside => bne_iff_ne.mpr (apart b inside)
    have unused : (d.accounts.any fun b => b.id == a.id || b.username == a.username) =
        d.accounts.any fun b => b.username == a.username := by
      rw [Bool.eq_iff_iff, List.any_eq_true, List.any_eq_true]
      refine exists_congr fun b => and_congr_right fun inside => ?_
      rw [beq_eq_false_iff_ne.mpr (apart b inside), Bool.false_or]
    rw [if_pos new, kept, unused]
  · obtain ⟨b, found⟩ := Option.ne_none_iff_exists'.mp new
    obtain ⟨inside, same⟩ := mem_of_find? found
    rw [if_neg new, if_pos]
    exact List.any_eq_true.mpr ⟨b, inside, Bool.or_eq_true_iff.mpr (Or.inl (beq_iff_eq.mpr same))⟩

theorem insert_eq_insertKeyed_iff :
    d.insert a = d.insertKeyed a ↔ d.find? a.id = none ∨ d.HasName a.username := by
  rw [insertKeyed_eq]
  by_cases new : d.find? a.id = none
  · rw [if_pos new]
    exact iff_of_true rfl (Or.inl new)
  · rw [if_neg new]
    constructor
    · intro refused
      by_contra apart
      obtain ⟨d', stored⟩ := insert_ok_iff_not_hasName.mpr fun taken => apart (Or.inr taken)
      rw [stored] at refused
      cases refused
    · rintro (absent | taken)
      · exact absurd absent new
      · exact insert_of_hasName taken

/-- An insertion that succeeds adds an account and loses none; one that fails changes nothing. -/
def LosesNone (d : Directory) (a : Account) : Prop :=
  match d.answer (.insert a) with
  | (.ok _, d') => d'.Finds a ∧ ∀ b, d.Finds b → d'.Finds b
  | (.error _, d') => d' = d

theorem losesNone_of_ok (stored : d.insert a = .ok d') :
    d.LosesNone a ↔ d'.Finds a ∧ ∀ b, d.Finds b → d'.Finds b := by
  rw [LosesNone, answer, stored, commit]

theorem losesNone_of_error {e : DirectoryError} (refused : d.insert a = .error e) :
    d.LosesNone a := by
  rw [LosesNone, answer, refused, commit]

theorem IsDistinct.losesNone_iff (distinct : d.IsDistinct) (a : Account) :
    d.LosesNone a ↔ d.find? a.id = none ∨ d.HasName a.username := by
  cases stored : d.insert a with
  | ok d' =>
    rw [losesNone_of_ok stored, or_iff_left (not_hasName_of_insert stored), find?_eq_none_iff]
    constructor
    · rintro ⟨-, kept⟩ b inside
      have finds := distinct.finds_iff.mpr inside
      exact (distinct.finds_insert_iff stored finds).mp (kept b finds)
    · exact fun apart => ⟨distinct.finds_insert stored, fun b finds =>
        (distinct.finds_insert_iff stored finds).mpr (apart b (distinct.finds_iff.mp finds))⟩
  | error e =>
    exact iff_of_true (losesNone_of_error stored) (Or.inr (hasName_of_refused stored))

/-- In every directory that insertions bring about, one more loses no account exactly where its
identifier is new or its username taken, which is where a store with both keys answers the same.
Otherwise the account with its identifier is found by nothing any more, and all others are kept. -/
theorem insertion_loses_none_iff (built : d.IsBuiltOf fun _ => True) (a : Account) :
    (d.LosesNone a ↔ d.find? a.id = none ∨ d.HasName a.username) ∧
    (d.LosesNone a ↔ d.insert a = d.insertKeyed a) ∧
    ((d.answer (.insert a)).1 = .ok () ↔ ¬ d.HasName a.username) ∧
    (∀ e, (d.answer (.insert a)).1 = .error e → (d.answer (.insert a)).2 = d) ∧
    (∀ d', d.insert a = .ok d' → d'.Finds a ∧ ∀ b, d.Finds b →
      if b.id = a.id then d'.find? b.id = some a ∧ d'.findUsername? b.username = none
      else d'.Finds b) ∧
    ∀ d', d.insertKeyed a = .ok d' → d'.Finds a ∧ ∀ b, d.Finds b → d'.Finds b := by
  have distinct := built.isDistinct
  refine ⟨distinct.losesNone_iff a, ?_, ?_, ?_, ?_, ?_⟩
  · rw [distinct.losesNone_iff, insert_eq_insertKeyed_iff]
  · rw [← insert_ok_iff_not_hasName, answer]
    cases d.insert a with
    | ok d' => exact iff_of_true rfl ⟨d', rfl⟩
    | error e => exact iff_of_false nofun (fun ⟨_, stored⟩ => nomatch stored)
  · intro e refused
    rw [answer] at refused ⊢
    cases stored : d.insert a with
    | ok d' =>
      rw [stored] at refused
      cases refused
    | error e' => rfl
  · intro d' stored
    refine ⟨distinct.finds_insert stored, fun b finds => ?_⟩
    split
    · rename_i same
      exact distinct.replaced stored finds same
    · rename_i other
      exact (distinct.finds_insert_iff stored finds).mpr other
  · intro d' stored
    rw [insertKeyed_eq] at stored
    split at stored
    · rename_i new
      have kept := (distinct.losesNone_iff a).mpr (Or.inl new)
      exact (losesNone_of_ok stored).mp kept
    · cases stored

namespace Sample

def alice : Account :=
  ⟨⟨⟨1⟩⟩, "alice", "alice@example.org", "hash", [.user], true,
    ⟨1704067200, 250000000, by decide, by decide, by decide⟩⟩

/-- Another account under the same identifier. -/
def alicia : Account :=
  { alice with username := "alicia" }

/-- An account of its own. -/
def bob : Account :=
  { alice with id := ⟨⟨2⟩⟩, username := "bob" }

theorem built_alice : IsBuiltOf (fun _ => True) ⟨[alice]⟩ :=
  .insert .empty trivial rfl

/-- Someone with a new identifier and a new username joins, and both accounts are found. -/
theorem bob_joins_alice :
    IsBuiltOf (fun _ => True) ⟨[alice]⟩ ∧ LosesNone ⟨[alice]⟩ bob ∧
      insert ⟨[alice]⟩ bob = insertKeyed ⟨[alice]⟩ bob ∧
      Finds ⟨[alice, bob]⟩ alice ∧ Finds ⟨[alice, bob]⟩ bob := by
  obtain ⟨lossless, agree, -, -, after, -⟩ := insertion_loses_none_iff built_alice bob
  have none := lossless.mpr (Or.inl (by decide))
  obtain ⟨new, kept⟩ := after ⟨[alice, bob]⟩ rfl
  have old := kept alice ⟨rfl, rfl⟩
  rw [if_neg (by decide)] at old
  exact ⟨built_alice, none, agree.mp none, old, new⟩

/-- The second account is stored in the place of the first, which is lost, where a store with both
keys refuses it. -/
theorem alicia_replaces_alice :
    IsBuiltOf (fun _ => True) ⟨[alice]⟩ ∧ Finds ⟨[alice]⟩ alice ∧
      answer ⟨[alice]⟩ (.insert alicia) = (.ok (), ⟨[alicia]⟩) ∧
      find? ⟨[alicia]⟩ alice.id = some alicia ∧ findUsername? ⟨[alicia]⟩ "alice" = none ∧
      insertKeyed ⟨[alice]⟩ alicia = .error (.usernameTaken "alicia") ∧
      ¬ LosesNone ⟨[alice]⟩ alicia := by
  refine ⟨built_alice, ⟨rfl, rfl⟩, rfl, rfl, rfl, rfl, fun kept => ?_⟩
  have stored : insert ⟨[alice]⟩ alicia = .ok ⟨[alicia]⟩ := rfl
  have lost := (losesNone_of_ok stored).mp kept
  cases (lost.2 alice ⟨rfl, rfl⟩).byUsername

end Sample

end Directory

end SessionTokens
