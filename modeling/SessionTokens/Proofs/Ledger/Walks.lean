import Mathlib.Data.Finset.Card
import Mathlib.Data.Finset.SDiff
import Mathlib.Data.List.Chain
import SessionTokens.Ledger.Lineage

set_option autoImplicit false

/- The walks along links of any shape: links may run in circles, meet, or lead out of the records.
The relations say what a walk does when nothing bounds its steps. Each walk ends, because a step
takes an identifier from those that have not been seen; and the walk on from where the walk back
ended comes by the record it started from. -/
namespace SessionTokens

namespace Lineage

/-- The walk back from a token ends at a root. It stops before what it has seen. -/
inductive GoesBack (records : List Record) : List TokenId → TokenId → TokenId → Prop
  | first {seen : List TokenId} {id : TokenId} (orphan : parent? records id = none) :
      GoesBack records seen id id
  | again {seen : List TokenId} {id p : TokenId} (parent : parent? records id = some p)
      (known : p ∈ seen) : GoesBack records seen id id
  | back {seen : List TokenId} {id p root : TokenId} (parent : parent? records id = some p)
      (new : p ∉ seen) (more : GoesBack records (p :: seen) p root) :
      GoesBack records seen id root

/-- The walk on from a token passes some records. It stops at what it has seen, and at a token
without a record. -/
inductive GoesOn (records : List Record) : List TokenId → TokenId → List Record → Prop
  | again {seen : List TokenId} {id : TokenId} (known : id ∈ seen) : GoesOn records seen id []
  | dangling {seen : List TokenId} {id : TokenId} (new : id ∉ seen)
      (absent : record? records id = none) : GoesOn records seen id []
  | last {seen : List TokenId} {id : TokenId} {r : Record} (new : id ∉ seen)
      (found : record? records id = some r) (unreplaced : r.replacedBy = none) :
      GoesOn records seen id [r]
  | link {seen : List TokenId} {id next : TokenId} {r : Record} {rest : List Record}
      (new : id ∉ seen) (found : record? records id = some r)
      (replaced : r.replacedBy = some next) (more : GoesOn records (id :: seen) next rest) :
      GoesOn records seen id (r :: rest)

/-- Back to a root, and on from there. -/
def Walks (records : List Record) (id : TokenId) (c : List Record) : Prop :=
  ∃ root, GoesBack records [id] id root ∧ GoesOn records [] root c

variable {records c : List Record} {seen : List TokenId} {id root : TokenId} {steps : Nat}

/-- What alone has a property is found by it. -/
theorem find?_of_only {p : Record → Bool} {a : Record} (member : a ∈ records) (holds : p a = true)
    (only : ∀ b ∈ records, p b = true → b = a) : records.reverse.find? p = some a := by
  cases found : records.reverse.find? p with
  | none => exact absurd holds (List.find?_eq_none.mp found a (List.mem_reverse.mpr member))
  | some b =>
    have inside := List.mem_reverse.mp (List.mem_of_find?_eq_some found)
    rw [only b inside (List.find?_some found)]

theorem record?_eq (distinct : ∀ a ∈ records, ∀ b ∈ records, a.tokenId = b.tokenId → a = b)
    {r : Record} (member : r ∈ records) : record? records r.tokenId = some r :=
  find?_of_only member (beq_self_eq_true _) fun b inside same =>
    distinct b inside r member (beq_iff_eq.mp same)

theorem tokenId_of_record? {r : Record} (found : record? records id = some r) :
    r ∈ records ∧ r.tokenId = id := by
  have holds := List.find?_some found
  exact ⟨List.mem_reverse.mp (List.mem_of_find?_eq_some found), beq_iff_eq.mp holds⟩

theorem exists_of_parent? {p : TokenId} (parent : parent? records id = some p) :
    ∃ r ∈ records, r.tokenId = p ∧ r.replacedBy = some id := by
  obtain ⟨r, found, named⟩ := Option.map_eq_some_iff.mp parent
  have holds := List.find?_some found
  exact ⟨r, List.mem_reverse.mp (List.mem_of_find?_eq_some found), named, beq_iff_eq.mp holds⟩

/-- The identifiers of records that a walk has not come by. -/
def unseen (records : List Record) (seen : List TokenId) : Finset TokenId :=
  (records.map Record.tokenId).toFinset \ seen.toFinset

theorem mem_unseen {r : Record} (member : r ∈ records) (new : r.tokenId ∉ seen) :
    r.tokenId ∈ unseen records seen := by
  rw [unseen, Finset.mem_sdiff, List.mem_toFinset, List.mem_toFinset]
  exact ⟨List.mem_map_of_mem member, new⟩

theorem card_unseen_le (records : List Record) (seen : List TokenId) :
    (unseen records seen).card ≤ records.length := by
  calc (unseen records seen).card
      ≤ (records.map Record.tokenId).toFinset.card := Finset.card_le_card Finset.sdiff_subset
    _ ≤ (records.map Record.tokenId).length := List.toFinset_card_le _
    _ = records.length := List.length_map _

theorem card_unseen_cons_lt {r : Record} (member : r ∈ records) (new : r.tokenId ∉ seen) :
    (unseen records (r.tokenId :: seen)).card < (unseen records seen).card := by
  have smaller : unseen records (r.tokenId :: seen) = (unseen records seen).erase r.tokenId := by
    rw [unseen, List.toFinset_cons, Finset.sdiff_insert]
    rfl
  rw [smaller]
  exact Finset.card_erase_lt_of_mem (mem_unseen member new)

/-- The walk back ends within as many steps as there are identifiers left. -/
theorem goesBack_rootFrom (enough : (unseen records seen).card ≤ steps) :
    GoesBack records seen id (rootFrom records steps seen id) := by
  induction steps generalizing seen id with
  | zero =>
    rw [rootFrom]
    cases parent : parent? records id with
    | none => exact .first parent
    | some p =>
      obtain ⟨r, member, rfl, -⟩ := exists_of_parent? parent
      by_cases known : r.tokenId ∈ seen
      · exact .again parent known
      · have positive := Finset.card_pos.mpr ⟨_, mem_unseen member known⟩
        omega
  | succ steps ih =>
    rw [rootFrom]
    cases parent : parent? records id with
    | none => exact .first parent
    | some p =>
      dsimp only
      by_cases known : p ∈ seen
      · rw [if_pos known]
        exact .again parent known
      · rw [if_neg known]
        obtain ⟨r, member, rfl, -⟩ := exists_of_parent? parent
        have fewer := card_unseen_cons_lt member known
        exact .back parent known (ih (by omega))

/-- So does the walk on. -/
theorem goesOn_chainFrom (enough : (unseen records seen).card ≤ steps) :
    GoesOn records seen id (chainFrom records steps seen id) := by
  induction steps generalizing seen id with
  | zero =>
    rw [chainFrom]
    by_cases known : id ∈ seen
    · exact .again known
    · cases found : record? records id with
      | none => exact .dangling known found
      | some r =>
        obtain ⟨member, rfl⟩ := tokenId_of_record? found
        have positive := Finset.card_pos.mpr ⟨_, mem_unseen member known⟩
        omega
  | succ steps ih =>
    rw [chainFrom]
    by_cases known : id ∈ seen
    · rw [if_pos known]
      exact .again known
    · rw [if_neg known]
      cases found : record? records id with
      | none => exact .dangling known found
      | some r =>
        dsimp only
        cases replaced : r.replacedBy with
        | none => exact .last known found replaced
        | some next =>
          obtain ⟨member, rfl⟩ := tokenId_of_record? found
          have fewer := card_unseen_cons_lt member known
          exact .link known found replaced (ih (by omega))

/-- No other walk back is there. -/
theorem GoesBack.eq_rootFrom (walk : GoesBack records seen id root)
    (enough : (unseen records seen).card ≤ steps) : root = rootFrom records steps seen id := by
  induction walk generalizing steps with
  | first orphan =>
    cases steps with
    | zero => rfl
    | succ steps => rw [rootFrom, orphan]
  | again parent known =>
    cases steps with
    | zero => rfl
    | succ steps =>
      rw [rootFrom, parent]
      dsimp only
      rw [if_pos known]
  | back parent new _ ih =>
    obtain ⟨r, member, rfl, -⟩ := exists_of_parent? parent
    have fewer := card_unseen_cons_lt member new
    cases steps with
    | zero => omega
    | succ steps =>
      rw [rootFrom, parent]
      dsimp only
      rw [if_neg new]
      exact ih (by omega)

/-- Nor is there another walk on. -/
theorem GoesOn.eq_chainFrom (walk : GoesOn records seen id c)
    (enough : (unseen records seen).card ≤ steps) : c = chainFrom records steps seen id := by
  induction walk generalizing steps with
  | again known =>
    cases steps with
    | zero => rfl
    | succ steps => rw [chainFrom, if_pos known]
  | dangling new absent =>
    cases steps with
    | zero => rfl
    | succ steps => rw [chainFrom, if_neg new, absent]
  | last new found unreplaced =>
    obtain ⟨member, rfl⟩ := tokenId_of_record? found
    have fewer := card_unseen_cons_lt member new
    cases steps with
    | zero => omega
    | succ steps =>
      rw [chainFrom, if_neg new, found]
      dsimp only
      rw [unreplaced]
  | link new found replaced _ ih =>
    obtain ⟨member, rfl⟩ := tokenId_of_record? found
    have fewer := card_unseen_cons_lt member new
    cases steps with
    | zero => omega
    | succ steps =>
      rw [chainFrom, if_neg new, found]
      dsimp only
      rw [replaced]
      dsimp only
      rw [← ih (by omega)]

/-- The bounds on the steps do not show: what is found is what the walks find. -/
theorem walks_iff : Walks records id c ↔ c = chain records id := by
  have enough (seen : List TokenId) : (unseen records seen).card ≤ records.length + 1 :=
    (card_unseen_le records seen).trans (Nat.le_succ _)
  constructor
  · rintro ⟨root, back, on⟩
    rw [chain, ← back.eq_rootFrom (enough [id]), ← on.eq_chainFrom (enough [])]
  · rintro rfl
    exact ⟨_, goesBack_rootFrom (enough [id]), goesOn_chainFrom (enough [])⟩

/-- The first record names the second as what took its place. -/
def Links (a b : Record) : Prop :=
  a.replacedBy = some b.tokenId

theorem GoesOn.within (walk : GoesOn records seen id c) : ∀ r ∈ c, r ∈ records := by
  induction walk with
  | again _ => exact List.forall_mem_nil _
  | dangling _ _ => exact List.forall_mem_nil _
  | last _ found _ => exact List.forall_mem_singleton.mpr (tokenId_of_record? found).1
  | link _ found _ _ ih => exact List.forall_mem_cons.mpr ⟨(tokenId_of_record? found).1, ih⟩

theorem GoesOn.head (walk : GoesOn records seen id c) : ∀ r ∈ c.head?, r.tokenId = id := by
  intro r first
  cases walk with
  | again _ => cases first
  | dangling _ _ => cases first
  | last _ found _ =>
    obtain rfl := Option.some.inj first
    exact (tokenId_of_record? found).2
  | link _ found _ _ =>
    obtain rfl := Option.some.inj first
    exact (tokenId_of_record? found).2

theorem GoesOn.linked (walk : GoesOn records seen id c) : c.IsChain Links := by
  induction walk with
  | again _ => exact .nil
  | dangling _ _ => exact .nil
  | last _ _ _ => exact .singleton _
  | link _ _ replaced more ih =>
    rw [List.isChain_cons]
    refine ⟨fun b first => ?_, ih⟩
    rw [Links, replaced, more.head b first]

theorem GoesOn.unseen (walk : GoesOn records seen id c) : ∀ r ∈ c, r.tokenId ∉ seen := by
  induction walk with
  | again _ => exact List.forall_mem_nil _
  | dangling _ _ => exact List.forall_mem_nil _
  | last new found _ =>
    intro r inside
    rw [List.mem_singleton.mp inside, (tokenId_of_record? found).2]
    exact new
  | link new found _ _ ih =>
    refine List.forall_mem_cons.mpr ⟨?_, fun a inside again => ?_⟩
    · rw [(tokenId_of_record? found).2]
      exact new
    · exact ih a inside (List.mem_cons_of_mem _ again)

theorem GoesOn.nodup (walk : GoesOn records seen id c) : (c.map Record.tokenId).Nodup := by
  induction walk with
  | again _ => exact List.nodup_nil
  | dangling _ _ => exact List.nodup_nil
  | last _ _ _ => exact List.nodup_singleton _
  | link _ found _ more ih =>
    rw [List.map_cons, List.nodup_cons]
    refine ⟨fun repeated => ?_, ih⟩
    obtain ⟨a, inside, same⟩ := List.mem_map.mp repeated
    apply more.unseen a inside
    rw [same, (tokenId_of_record? found).2]
    exact List.mem_cons_self

/-- The record of one token names another. -/
def Leads (records : List Record) (a b : TokenId) : Prop :=
  ∃ r, record? records a = some r ∧ r.replacedBy = some b

/-- The walk back has come along links that lead from its end to where it began, and by no token
twice. -/
theorem GoesBack.exists_way
    (distinct : ∀ a ∈ records, ∀ b ∈ records, a.tokenId = b.tokenId → a = b)
    (walk : GoesBack records seen id root) {behind : List TokenId}
    (way : (id :: behind).IsChain (Leads records)) (nodup : (id :: behind).Nodup)
    (known : ∀ a ∈ id :: behind, a ∈ seen) :
    ∃ rest, (root :: rest).IsChain (Leads records) ∧ (root :: rest).Nodup ∧
      ∀ a ∈ id :: behind, a ∈ root :: rest := by
  induction walk generalizing behind with
  | first _ => exact ⟨behind, way, nodup, fun _ inside => inside⟩
  | again _ _ => exact ⟨behind, way, nodup, fun _ inside => inside⟩
  | back parent new _ ih =>
    obtain ⟨r, member, rfl, replaced⟩ := exists_of_parent? parent
    have leads : Leads records r.tokenId _ := ⟨r, record?_eq distinct member, replaced⟩
    have fresh : r.tokenId ∉ _ :: behind := fun inside => new (known _ inside)
    obtain ⟨rest, way', nodup', passed⟩ := ih (way.cons_cons leads)
      (List.nodup_cons.mpr ⟨fresh, nodup⟩) (List.forall_mem_cons.mpr
        ⟨List.mem_cons_self, fun a inside => List.mem_cons_of_mem _ (known a inside)⟩)
    exact ⟨rest, way', nodup', fun a inside => passed a (List.mem_cons_of_mem _ inside)⟩

/-- The walk on passes all that a way of links comes by, if nothing of it has been seen. -/
theorem GoesOn.passes {way : List TokenId} (walk : GoesOn records seen id c)
    (leads : (id :: way).IsChain (Leads records)) (nodup : (id :: way).Nodup)
    (new : ∀ a ∈ id :: way, a ∉ seen) :
    ∀ a ∈ id :: way, ∀ r, record? records a = some r → r ∈ c := by
  induction way generalizing seen id c with
  | nil =>
    intro a inside r found
    obtain rfl := List.mem_singleton.mp inside
    cases walk with
    | again known => exact absurd known (new a inside)
    | dangling _ absent => rw [absent] at found; cases found
    | last _ found' _ =>
      obtain rfl := Option.some.inj (found.symm.trans found')
      exact List.mem_cons_self
    | link _ found' _ _ =>
      obtain rfl := Option.some.inj (found.symm.trans found')
      exact List.mem_cons_self
  | cons next way ih =>
    intro a inside r found
    rw [List.isChain_cons_cons] at leads
    obtain ⟨⟨r', here, replaced⟩, later⟩ := leads
    cases walk with
    | again known => exact absurd known (new id List.mem_cons_self)
    | dangling _ absent => rw [absent] at here; cases here
    | last _ found' unreplaced =>
      obtain rfl := Option.some.inj (here.symm.trans found')
      rw [replaced] at unreplaced
      cases unreplaced
    | link _ found' replaced' more =>
      obtain rfl := Option.some.inj (here.symm.trans found')
      obtain rfl := Option.some.inj (replaced.symm.trans replaced')
      rw [List.nodup_cons] at nodup
      rcases List.mem_cons.mp inside with rfl | onward
      · obtain rfl := Option.some.inj (found.symm.trans here)
        exact List.mem_cons_self
      · have unmet : ∀ b ∈ next :: way, b ∉ id :: seen := by
          intro b inWay again
          rcases List.mem_cons.mp again with rfl | old
          · exact nodup.1 inWay
          · exact new b (List.mem_cons_of_mem _ inWay) old
        exact List.mem_cons_of_mem _ (ih more later nodup.2 unmet a onward r found)

/-- What is found of a record, wherever the links lead: records of one owner, this one among them,
of which each names the next and none comes twice. -/
structure IsLineageOf (r : Record) (c : List Record) : Prop where
  nonempty : c ≠ []
  nodup : (c.map Record.tokenId).Nodup
  member : r ∈ c
  owned : ∀ a ∈ c, a.owner = r.owner
  linked : c.IsChain Links

theorem Walks.isLineageOf
    (distinct : ∀ a ∈ records, ∀ b ∈ records, a.tokenId = b.tokenId → a = b) {r : Record}
    (present : r ∈ records) (owned : ∀ a ∈ records, a.owner = r.owner)
    (walk : Walks records r.tokenId c) : IsLineageOf r c := by
  obtain ⟨root, back, on⟩ := walk
  obtain ⟨way, leads, nodup, passed⟩ := back.exists_way distinct (List.isChain_singleton _)
    (List.nodup_singleton _) (fun _ inside => inside)
  have member : r ∈ c := on.passes leads nodup (fun _ _ none => nomatch none) r.tokenId
    (passed r.tokenId List.mem_cons_self) r (record?_eq distinct present)
  exact ⟨List.ne_nil_of_mem member, on.nodup, member, fun a inside => owned a (on.within a inside),
    on.linked⟩

end Lineage

end SessionTokens
