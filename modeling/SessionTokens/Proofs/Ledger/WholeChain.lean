import SessionTokens.Proofs.Ledger.Linkage
import SessionTokens.Proofs.Ledger.Walks

set_option autoImplicit false

namespace SessionTokens

namespace Lineage

/-- Neither two records nor two links lead to one identifier. -/
structure TellsApart (records : List Record) : Prop where
  distinct : ∀ a ∈ records, ∀ b ∈ records, a.tokenId = b.tokenId → a = b
  single : ∀ a ∈ records, ∀ b ∈ records, ∀ id,
    a.replacedBy = some id → b.replacedBy = some id → a = b

/-- A chain that begins where no link leads to. -/
structure IsWhole (records c : List Record) : Prop where
  chain : Ledger.IsChain c
  within : ∀ r ∈ c, r ∈ records
  first : ∀ head ∈ c.head?, ∀ r ∈ records, r.replacedBy ≠ some head.tokenId

variable {records c : List Record}

theorem TellsApart.of_subset {part : List Record} (apart : TellsApart records)
    (subset : ∀ r ∈ part, r ∈ records) : TellsApart part where
  distinct a inA b inB := apart.distinct a (subset a inA) b (subset b inB)
  single a inA b inB := apart.single a (subset a inA) b (subset b inB)

theorem IsWhole.of_subset {part : List Record} (whole : IsWhole records c)
    (subset : ∀ r ∈ part, r ∈ records) (within : ∀ r ∈ c, r ∈ part) : IsWhole part c where
  chain := whole.chain
  within := within
  first head isFirst r inside := whole.first head isFirst r (subset r inside)

theorem parent?_eq (apart : TellsApart records) {r : Record} {id : TokenId} (member : r ∈ records)
    (replaced : r.replacedBy = some id) : parent? records id = some r.tokenId := by
  have found : records.reverse.find? (fun r => r.replacedBy == some id) = some r := by
    refine find?_of_only member (beq_iff_eq.mpr replaced) fun b inside same => ?_
    exact apart.single b inside r member id (beq_iff_eq.mp same) replaced
  rw [parent?, found]
  rfl

theorem parent?_eq_none {id : TokenId} (first : ∀ r ∈ records, r.replacedBy ≠ some id) :
    parent? records id = none := by
  rw [parent?, Option.map_eq_none_iff, List.find?_eq_none]
  intro r member same
  exact first r (List.mem_reverse.mp member) (beq_iff_eq.mp same)

end Lineage

namespace Ledger

variable {l : Ledger}

theorem IsChain.tail {r : Record} {rest : List Record} (chain : IsChain (r :: rest))
    (more : rest ≠ []) : IsChain rest := by
  cases chain with
  | last _ => exact absurd rfl more
  | link _ _ _ tail => exact tail

theorem IsChain.suffix {before after : List Record} (chain : IsChain (before ++ after))
    (more : after ≠ []) : IsChain after := by
  induction before with
  | nil => exact chain
  | cons r before ih => exact ih (chain.tail (List.append_ne_nil_of_right_ne_nil before more))

theorem IsChain.replaced {r next : Record} {rest : List Record}
    (chain : IsChain (r :: next :: rest)) : r.replacedBy = some next.tokenId := by
  cases chain with
  | link _ replaced _ _ => exact replaced

theorem IsChain.reaches {r : Record} {rest : List Record} (chain : IsChain (r :: rest))
    (within : ∀ a ∈ r :: rest, a ∈ l.records) : ∀ a ∈ rest, Relation.TransGen l.Follows r a := by
  induction rest generalizing r with
  | nil => exact fun _ none => nomatch none
  | cons next rest ih =>
    have inTail : ∀ a ∈ next :: rest, a ∈ l.records := fun a inside =>
      within a (List.mem_cons_of_mem r inside)
    have step : l.Follows r next := ⟨inTail next List.mem_cons_self, chain.replaced⟩
    intro a inside
    rcases List.mem_cons.mp inside with rfl | later
    · exact .single step
    · exact .head step (ih (chain.tail (List.cons_ne_nil _ _)) inTail a later)

/-- A chain does not come back to a record. -/
theorem Sound.nodup_of_chain (sound : l.Sound) {c : List Record} (chain : IsChain c)
    (within : ∀ a ∈ c, a ∈ l.records) : (c.map Record.tokenId).Nodup := by
  induction c with
  | nil => exact List.nodup_nil
  | cons r rest ih =>
    rw [List.map_cons, List.nodup_cons]
    refine ⟨fun again => ?_, ?_⟩
    · obtain ⟨a, inside, same⟩ := List.mem_map.mp again
      have present := within r List.mem_cons_self
      obtain rfl := sound.unique (within a (List.mem_cons_of_mem r inside)) present same
      exact (sound.ends present).1 (chain.reaches within a inside)
    · rcases eq_or_ne rest [] with rfl | more
      · exact List.nodup_nil
      · exact ih (chain.tail more) fun a inside => within a (List.mem_cons_of_mem r inside)

end Ledger

namespace Lineage

variable {records c : List Record} {seen : List TokenId}

/-- Going back from a record ends at the first one of its chain. -/
theorem goesBack_of_isWhole (apart : TellsApart records) (whole : IsWhole records c)
    (nodup : (c.map Record.tokenId).Nodup) {before after : List Record} {r head : Record}
    (split : c = before ++ r :: after) (isFirst : head ∈ c.head?)
    (unseen : ∀ a ∈ before, a.tokenId ∉ seen) : GoesBack records seen r.tokenId head.tokenId := by
  induction before using List.reverseRecOn generalizing after r seen with
  | nil =>
    rw [split] at isFirst
    obtain rfl := Option.some.inj isFirst
    exact .first (parent?_eq_none (whole.first r (by rw [split]; rfl)))
  | append_singleton before p ih =>
    rw [List.append_assoc, List.singleton_append] at split
    have member : p ∈ c := by
      rw [split]
      exact List.mem_append_right _ List.mem_cons_self
    have replaced : p.replacedBy = some r.tokenId :=
      ((split ▸ whole.chain).suffix (List.cons_ne_nil _ _)).replaced
    have new : p.tokenId ∉ seen := unseen p (List.mem_append_right _ List.mem_cons_self)
    refine .back (parent?_eq apart (whole.within p member) replaced) new ?_
    apply ih split
    intro a inside
    rw [split, List.map_append, List.nodup_append] at nodup
    rw [List.mem_cons, not_or]
    refine ⟨nodup.2.2 _ (List.mem_map_of_mem inside) _ List.mem_cons_self, ?_⟩
    exact unseen a (List.mem_append_left _ inside)

/-- Going on from the first record of a chain passes all of it. -/
theorem goesOn_of_isChain (apart : TellsApart records) {r : Record} {rest : List Record}
    (chain : Ledger.IsChain (r :: rest)) (within : ∀ a ∈ r :: rest, a ∈ records)
    (nodup : ((r :: rest).map Record.tokenId).Nodup) (unseen : ∀ a ∈ r :: rest, a.tokenId ∉ seen) :
    GoesOn records seen r.tokenId (r :: rest) := by
  have found := record?_eq apart.distinct (within r List.mem_cons_self)
  have new := unseen r List.mem_cons_self
  induction rest generalizing r seen with
  | nil =>
    cases chain with
    | last unreplaced => exact .last new found unreplaced
  | cons next rest ih =>
    rw [List.map_cons, List.nodup_cons] at nodup
    have inTail : ∀ a ∈ next :: rest, a ∈ records := fun a inside => within a (.tail r inside)
    have unmet : ∀ a ∈ next :: rest, a.tokenId ∉ r.tokenId :: seen := by
      intro a inside
      rw [List.mem_cons, not_or]
      refine ⟨fun same => nodup.1 ?_, unseen a (.tail r inside)⟩
      rw [← same]
      exact List.mem_map_of_mem inside
    exact .link new found chain.replaced (ih (chain.tail (List.cons_ne_nil _ _)) inTail nodup.2 unmet
      (record?_eq apart.distinct (inTail next List.mem_cons_self)) (unmet next List.mem_cons_self))

/-- The chain of any record of a whole chain is this one. -/
theorem chain_eq (apart : TellsApart records) (whole : IsWhole records c)
    (nodup : (c.map Record.tokenId).Nodup) {r : Record} (member : r ∈ c) :
    chain records r.tokenId = c := by
  obtain ⟨before, after, split⟩ := List.append_of_mem member
  have unseen : ∀ a ∈ before, a.tokenId ∉ [r.tokenId] := by
    intro a inside same
    rw [split, List.map_append, List.nodup_append] at nodup
    exact nodup.2.2 _ (List.mem_map_of_mem inside) _ List.mem_cons_self (List.mem_singleton.mp same)
  cases c with
  | nil => cases member
  | cons head rest =>
    have walks : Walks records r.tokenId (head :: rest) :=
      ⟨head.tokenId, goesBack_of_isWhole apart whole nodup split rfl unseen,
        goesOn_of_isChain apart whole.chain whole.within nodup fun _ _ none => nomatch none⟩
    exact (walks_iff.mp walks).symm

end Lineage

namespace Ledger

variable {l : Ledger}

/-- The chain of a record, as it is found in the history of its owner. -/
def chainOf (l : Ledger) (r : Record) : List Record :=
  Lineage.chain (l.history r.owner) r.tokenId

theorem mem_history {user : UserId} {r : Record} :
    r ∈ l.history user ↔ r ∈ l.records ∧ r.owner = user := by
  rw [history, byAge, List.mem_mergeSort, List.mem_filter, beq_iff_eq]

theorem Sound.tellsApart (sound : l.Sound) : Lineage.TellsApart l.records where
  distinct _ inA _ inB same := sound.unique inA inB same
  single := sound.single

/-- From the record that going back ends at, a chain leads to each record. -/
theorem Sound.exists_whole (sound : l.Sound) {r : Record} (member : r ∈ l.records) :
    ∃ c, Lineage.IsWhole l.records c ∧ r ∈ c := by
  obtain ⟨first, inside, reaches, least⟩ := sound.exists_first member
  obtain ⟨c, chain, inChain, within⟩ := sound.chain_of_mem inside
  obtain ⟨before, after, rfl⟩ := List.append_of_mem inChain
  have suffix := chain.suffix (List.cons_ne_nil first after)
  have present : ∀ a ∈ first :: after, a ∈ l.records := fun a inSuffix =>
    within a (List.mem_append_right before inSuffix)
  refine ⟨first :: after, ⟨suffix, present, ?_⟩, ?_⟩
  · intro head isFirst
    rw [← Option.some.inj isFirst]
    exact least
  · clear member
    induction reaches with
    | refl => exact List.mem_cons_self
    | tail _ step ih =>
      obtain ⟨-, next, inSuffix, same, -⟩ := suffix.linked _ ih _ step.2
      obtain rfl := sound.unique (present next inSuffix) step.1 same
      exact inSuffix

/-- A whole chain is found from each of its records, in whatever order the history is. -/
theorem Sound.chain_eq (sound : l.Sound) {c : List Record} (whole : Lineage.IsWhole l.records c)
    {r : Record} (member : r ∈ c) {h : List Record} (all : h.Perm (l.history r.owner)) :
    Lineage.chain h r.tokenId = c := by
  have known {a : Record} : a ∈ h ↔ a ∈ l.records ∧ a.owner = r.owner :=
    all.mem_iff.trans mem_history
  have subset : ∀ a ∈ h, a ∈ l.records := fun a inside => (known.mp inside).1
  refine Lineage.chain_eq (sound.tellsApart.of_subset subset) (whole.of_subset subset ?_)
    (sound.nodup_of_chain whole.chain whole.within) member
  intro a inside
  exact known.mpr ⟨whole.within a inside, whole.chain.owner_eq a inside r member⟩

theorem Sound.chainOf_eq (sound : l.Sound) {c : List Record} (whole : Lineage.IsWhole l.records c)
    {r : Record} (member : r ∈ c) : l.chainOf r = c :=
  sound.chain_eq whole member (.refl _)

theorem Sound.isWhole_chainOf (sound : l.Sound) {r : Record} (member : r ∈ l.records) :
    Lineage.IsWhole l.records (l.chainOf r) ∧ r ∈ l.chainOf r := by
  obtain ⟨c, whole, inside⟩ := sound.exists_whole member
  rw [sound.chainOf_eq whole inside]
  exact ⟨whole, inside⟩

theorem Sound.chainOf_of_mem (sound : l.Sound) {r a : Record} (member : r ∈ l.records)
    (inside : a ∈ l.chainOf r) : l.chainOf a = l.chainOf r :=
  sound.chainOf_eq (sound.isWhole_chainOf member).1 inside

/-- Two chains that meet are one. -/
theorem Sound.chainOf_eq_or_disjoint (sound : l.Sound) {a b : Record} (inA : a ∈ l.records)
    (inB : b ∈ l.records) :
    l.chainOf a = l.chainOf b ∨ (l.chainOf a).Disjoint (l.chainOf b) := by
  by_cases apart : (l.chainOf a).Disjoint (l.chainOf b)
  · exact Or.inr apart
  · simp only [List.disjoint_left, not_forall, not_not] at apart
    obtain ⟨r, ofA, ofB⟩ := apart
    exact Or.inl ((sound.chainOf_of_mem inA ofA).symm.trans (sound.chainOf_of_mem inB ofB))

/-- The chains of a user's records are the user's history. -/
theorem Sound.mem_history_iff (sound : l.Sound) (user : UserId) (r : Record) :
    r ∈ l.history user ↔ ∃ a ∈ l.records, a.owner = user ∧ r ∈ l.chainOf a := by
  rw [mem_history]
  constructor
  · rintro ⟨member, own⟩
    exact ⟨r, member, own, (sound.isWhole_chainOf member).2⟩
  · rintro ⟨a, member, own, inside⟩
    obtain ⟨whole, self⟩ := sound.isWhole_chainOf member
    exact ⟨whole.within r inside, (whole.chain.owner_eq r inside a self).trans own⟩

/-- The order in which a ledger keeps its records makes no difference. -/
theorem Sound.chainOf_of_perm (sound : l.Sound) {l' : Ledger} (perm : l'.records.Perm l.records)
    {r : Record} (member : r ∈ l.records) :
    l'.find? r.tokenId = some r ∧ l'.chainOf r = l.chainOf r := by
  obtain ⟨whole, self⟩ := sound.isWhole_chainOf member
  refine ⟨?_, sound.chain_eq whole self ?_⟩
  · exact find?_of_mem ((perm.map Record.tokenId).nodup_iff.mpr sound.distinct)
      (perm.mem_iff.mpr member)
  · refine (List.mergeSort_perm _ _).trans (.trans ?_ (List.mergeSort_perm _ _).symm)
    exact perm.filter _

end Ledger

end SessionTokens
