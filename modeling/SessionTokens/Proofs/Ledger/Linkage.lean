import Mathlib.Data.Fintype.EquivFin
import Mathlib.Data.Fintype.Sets
import Mathlib.Logic.Relation
import Mathlib.Order.WellFounded
import SessionTokens.Proofs.Ledger.Lookup

set_option autoImplicit false

/- The links between the records of a ledger. `Change` lists what a step of a request can do to a
ledger, and `Sound` says that the ledger falls apart into chains: every change keeps it. -/
namespace SessionTokens

/-- Neither revoked nor replaced. -/
def Record.IsNew (r : Record) : Prop :=
  r.revoked = false ∧ r.replacedBy = none

namespace Ledger

/-- What one step of a request can do to a ledger. -/
inductive Change : Ledger → Ledger → Prop
  | same (l : Ledger) : Change l l
  | insert {l l' : Ledger} {r : Record} (new : r.IsNew) (inserted : l.insert r = .ok l') :
      Change l l'
  | rotate {l l' : Ledger} {old : TokenId} {record child : Record} (new : child.IsNew)
      (found : l.find? old = some record) (own : child.owner = record.owner)
      (rotated : l.rotate old child = .ok l') : Change l l'
  | revokeAll (l : Ledger) (user : UserId) : Change l (l.revokeAll user).2

/-- Records of one user, each revoked in favour of the next, the last one in favour of none. -/
inductive IsChain : List Record → Prop
  | last {r : Record} (unreplaced : r.replacedBy = none) : IsChain [r]
  | link {r next : Record} {rest : List Record} (revoked : r.revoked = true)
      (replaced : r.replacedBy = some next.tokenId) (own : next.owner = r.owner)
      (tail : IsChain (next :: rest)) : IsChain (r :: next :: rest)

/-- The second record took the place of the first. -/
def Follows (l : Ledger) (r next : Record) : Prop :=
  next ∈ l.records ∧ r.replacedBy = some next.tokenId

/-- The chains share no record because identifiers are distinct. -/
structure Sound (l : Ledger) : Prop where
  distinct : (l.records.map Record.tokenId).Nodup
  single : ∀ a ∈ l.records, ∀ b ∈ l.records, ∀ id,
    a.replacedBy = some id → b.replacedBy = some id → a = b
  chained : ∃ chains : List (List Record),
    (∀ c ∈ chains, IsChain c) ∧ chains.flatten.Perm l.records

theorem IsChain.owner_eq {c : List Record} (chain : IsChain c) :
    ∀ a ∈ c, ∀ b ∈ c, a.owner = b.owner := by
  induction chain with
  | last _ => simp
  | @link r next rest _ _ own _ ih =>
    have first : ∀ a ∈ r :: next :: rest, a.owner = next.owner := by
      intro a member
      rcases List.mem_cons.mp member with rfl | inTail
      · exact own.symm
      · exact ih a inTail next List.mem_cons_self
    intro a memberA b memberB
    rw [first a memberA, first b memberB]

theorem IsChain.linked {c : List Record} (chain : IsChain c) :
    ∀ r ∈ c, ∀ id, r.replacedBy = some id →
      r.revoked = true ∧ ∃ next ∈ c, next.tokenId = id ∧ next.owner = r.owner := by
  induction chain with
  | last unreplaced =>
    intro r member id replaced
    rw [List.mem_singleton.mp member, unreplaced] at replaced
    cases replaced
  | link revoked replaced own _ ih =>
    intro r member id link
    rcases List.mem_cons.mp member with rfl | inTail
    · rw [replaced] at link
      exact ⟨revoked, _, List.mem_cons_of_mem _ List.mem_cons_self, Option.some.inj link, own⟩
    · obtain ⟨spent, next, inside, same, owned⟩ := ih r inTail id link
      exact ⟨spent, next, List.mem_cons_of_mem _ inside, same, owned⟩

theorem IsChain.revoked_of_mem_dropLast {c : List Record} (chain : IsChain c) :
    ∀ r ∈ c.dropLast, r.revoked = true := by
  induction chain with
  | last _ => simp
  | link revoked _ _ _ ih =>
    intro r member
    rw [List.dropLast_cons_cons] at member
    rcases List.mem_cons.mp member with rfl | inTail
    · exact revoked
    · exact ih r inTail

theorem IsChain.map_revoke (user : UserId) {c : List Record} (chain : IsChain c) :
    IsChain (c.map (revoke user)) := by
  induction chain with
  | last unreplaced => exact .last (by rw [replacedBy_revoke, unreplaced])
  | @link r next rest revoked replaced own _ ih =>
    simp only [List.map_cons, revoke_of_revoked user revoked]
    exact .link revoked (by rw [tokenId_revoke, replaced]) (by rw [owner_revoke, own]) ih

/-- The unrevoked record of a chain is its last, so its child lengthens the chain. -/
theorem IsChain.extend {c : List Record} (chain : IsChain c)
    (distinct : (c.map Record.tokenId).Nodup) {old child : Record} (member : old ∈ c)
    (active : old.revoked = false) (new : child.IsNew) (own : child.owner = old.owner) :
    IsChain (c.map (replace old.tokenId child.tokenId) ++ [child]) := by
  induction chain with
  | last _ =>
    obtain rfl := List.mem_singleton.mp member
    simp only [List.map_cons, List.map_nil, List.cons_append, List.nil_append,
      replace_same child.tokenId rfl]
    exact .link rfl rfl own (.last new.2)
  | @link r next rest revoked replaced owned tail ih =>
    rcases List.mem_cons.mp member with rfl | inTail
    · rw [active] at revoked
      cases revoked
    · rw [List.map_cons, List.nodup_cons] at distinct
      have other : r.tokenId ≠ old.tokenId := by
        intro same
        exact distinct.1 (same ▸ List.mem_map_of_mem inTail)
      have extended := ih distinct.2 inTail
      simp only [List.map_cons, List.cons_append] at extended ⊢
      rw [replace_other child.tokenId other]
      exact .link revoked (by rw [tokenId_replace, replaced]) (by rw [owner_replace, owned])
        extended

namespace Sound

variable {l : Ledger}

theorem keyed (sound : l.Sound) {r : Record} (member : r ∈ l.records) :
    l.find? r.tokenId = some r :=
  find?_of_mem sound.distinct member

/-- One identifier, one record. -/
theorem unique (sound : l.Sound) {a b : Record} (memberA : a ∈ l.records)
    (memberB : b ∈ l.records) (same : a.tokenId = b.tokenId) : a = b := by
  have found := sound.keyed memberA
  rw [same, sound.keyed memberB] at found
  exact (Option.some.inj found).symm

/-- Every record stands in a chain of the ledger. -/
theorem chain_of_mem (sound : l.Sound) {r : Record} (member : r ∈ l.records) :
    ∃ c, IsChain c ∧ r ∈ c ∧ ∀ a ∈ c, a ∈ l.records := by
  obtain ⟨chains, areChains, whole⟩ := sound.chained
  obtain ⟨c, isOne, inside⟩ := List.mem_flatten.mp (whole.mem_iff.mpr member)
  refine ⟨c, areChains c isOne, inside, ?_⟩
  intro a inChain
  exact whole.mem_iff.mp (List.mem_flatten.mpr ⟨c, isOne, inChain⟩)

theorem linked (sound : l.Sound) {r : Record} (member : r ∈ l.records) {id : TokenId}
    (replaced : r.replacedBy = some id) :
    r.revoked = true ∧ ∃ next, l.find? id = some next ∧ next.owner = r.owner := by
  obtain ⟨c, chain, inside, whole⟩ := sound.chain_of_mem member
  obtain ⟨revoked, next, inChain, same, own⟩ := chain.linked r inside id replaced
  exact ⟨revoked, next, same ▸ sound.keyed (whole next inChain), own⟩

/-- Going from each record of a chain to the next leads to the last and never back. -/
theorem ends_of_chain (sound : l.Sound) {c : List Record} (chain : IsChain c)
    (whole : ∀ a ∈ c, a ∈ l.records) :
    ∀ r ∈ c, ¬ Relation.TransGen l.Follows r r ∧
      ∃ last, Relation.ReflTransGen l.Follows r last ∧ last.replacedBy = none := by
  induction chain with
  | @last r unreplaced =>
    intro a member
    obtain rfl := List.mem_singleton.mp member
    refine ⟨?_, a, .refl, unreplaced⟩
    intro cycle
    obtain ⟨_, step, _⟩ := Relation.TransGen.head'_iff.mp cycle
    rw [step.2] at unreplaced
    cases unreplaced
  | @link r next rest _ replaced _ _ ih =>
    have inTail := ih (fun a member => whole a (List.mem_cons_of_mem r member))
    have present : next ∈ l.records := whole next (List.mem_cons_of_mem r List.mem_cons_self)
    have step : l.Follows r next := ⟨present, replaced⟩
    intro a member
    rcases List.mem_cons.mp member with rfl | inside
    · obtain ⟨acyclic, last, path, unreplaced⟩ := inTail next List.mem_cons_self
      refine ⟨?_, last, path.head step, unreplaced⟩
      -- A walk from the first record back to it starts with the step to the next one.
      intro cycle
      obtain ⟨second, first, back⟩ := Relation.TransGen.head'_iff.mp cycle
      have same : second = next := by
        apply sound.unique first.1 present
        rw [← Option.some.injEq, ← first.2, replaced]
      subst same
      exact acyclic (Relation.TransGen.tail' back step)
    · exact inTail a inside

theorem ends (sound : l.Sound) {r : Record} (member : r ∈ l.records) :
    ¬ Relation.TransGen l.Follows r r ∧
      ∃ last, Relation.ReflTransGen l.Follows r last ∧ last.replacedBy = none := by
  obtain ⟨c, chain, inside, whole⟩ := sound.chain_of_mem member
  exact sound.ends_of_chain chain whole r inside

/-- Among finitely many records that never lead back to themselves, going back ends. -/
theorem exists_first (sound : l.Sound) {r : Record} (member : r ∈ l.records) :
    ∃ first ∈ l.records, Relation.ReflTransGen l.Follows first r ∧
      ∀ parent ∈ l.records, parent.replacedBy ≠ some first.tokenId := by
  let Before (a b : {r // r ∈ l.records}) : Prop := Relation.TransGen l.Follows a.1 b.1
  have trans : IsTrans _ Before := ⟨fun _ _ _ => Relation.TransGen.trans⟩
  have irrefl : Std.Irrefl Before := ⟨fun a => (sound.ends a.2).1⟩
  obtain ⟨first, reaches, least⟩ := (Finite.wellFounded_of_trans_of_irrefl Before).has_min
    {a | Relation.ReflTransGen l.Follows a.1 r} ⟨⟨r, member⟩, .refl⟩
  refine ⟨first, first.2, reaches, ?_⟩
  intro parent inside replaced
  have step : l.Follows parent first := ⟨first.2, replaced⟩
  exact least ⟨parent, inside⟩ (reaches.head step) (.single step)

theorem owner_eq_of_reaches (sound : l.Sound) {a b : Record} (member : a ∈ l.records)
    (path : Relation.ReflTransGen l.Follows a b) : b ∈ l.records ∧ b.owner = a.owner := by
  induction path with
  | refl => exact ⟨member, rfl⟩
  | tail _ step ih =>
    obtain ⟨-, next, found, own⟩ := sound.linked ih.1 step.2
    rw [sound.keyed step.1] at found
    obtain rfl := Option.some.inj found
    exact ⟨step.1, own.trans ih.2⟩

theorem nil : Ledger.empty.Sound where
  distinct := List.nodup_nil
  single := fun a member => by cases member
  chained := ⟨[], by simp, .nil⟩

theorem insert (sound : l.Sound) {l' : Ledger} {r : Record} (new : r.IsNew)
    (inserted : l.insert r = .ok l') : l'.Sound := by
  obtain ⟨fresh, rfl⟩ := (insert_ok_iff l l' r).mp inserted
  rw [find?_eq_none_iff] at fresh
  refine ⟨?_, ?_, ?_⟩
  · rw [List.map_append, List.nodup_append]
    refine ⟨sound.distinct, by simp, ?_⟩
    intro id present id' isNew
    obtain ⟨a, member, rfl⟩ := List.mem_map.mp present
    simp only [List.map_cons, List.map_nil, List.mem_singleton] at isNew
    rw [isNew]
    exact fresh a member
  · have old : ∀ a ∈ l.records ++ [r], ∀ id, a.replacedBy = some id → a ∈ l.records := by
      intro a member id replaced
      rcases List.mem_append.mp member with inside | isNew
      · exact inside
      · rw [List.mem_singleton.mp isNew, new.2] at replaced
        cases replaced
    intro a memberA b memberB id linkA linkB
    exact sound.single a (old a memberA id linkA) b (old b memberB id linkB) id linkA linkB
  · obtain ⟨chains, areChains, whole⟩ := sound.chained
    refine ⟨chains ++ [[r]], ?_, ?_⟩
    · intro c member
      rcases List.mem_append.mp member with inside | isNew
      · exact areChains c inside
      · rw [List.mem_singleton.mp isNew]
        exact .last new.2
    · rw [List.flatten_append]
      exact whole.append_right _

theorem map_tokenIds (l : Ledger) (f : Record → Record) (keeps : ∀ r, (f r).tokenId = r.tokenId) :
    (l.records.map f).map Record.tokenId = l.records.map Record.tokenId := by
  rw [List.map_map]
  exact List.map_congr_left (fun r _ => keeps r)

theorem revokeAll (sound : l.Sound) (user : UserId) : (l.revokeAll user).2.Sound := by
  refine ⟨?_, ?_, ?_⟩
  · change ((l.records.map (revoke user)).map Record.tokenId).Nodup
    rw [map_tokenIds l _ (tokenId_revoke user)]
    exact sound.distinct
  · intro a memberA b memberB id linkA linkB
    obtain ⟨a, insideA, rfl⟩ := List.mem_map.mp memberA
    obtain ⟨b, insideB, rfl⟩ := List.mem_map.mp memberB
    rw [replacedBy_revoke] at linkA linkB
    rw [sound.single a insideA b insideB id linkA linkB]
  · obtain ⟨chains, areChains, whole⟩ := sound.chained
    refine ⟨chains.map (List.map (revoke user)), ?_, ?_⟩
    · intro c member
      obtain ⟨c, inside, rfl⟩ := List.mem_map.mp member
      exact (areChains c inside).map_revoke user
    · rw [← List.map_flatten]
      exact whole.map _

/-- Replacing the record of one chain leaves the other chains as they are. -/
theorem map_replace_chains {before after : List (List Record)} {c : List Record} {old : Record}
    (child : TokenId) (distinct : ((before ++ c :: after).flatten.map Record.tokenId).Nodup)
    (member : old ∈ c) :
    (before ++ c :: after).flatten.map (replace old.tokenId child) =
      before.flatten ++ c.map (replace old.tokenId child) ++ after.flatten := by
  simp only [List.flatten_append, List.flatten_cons, List.map_append] at distinct ⊢
  rw [List.nodup_append, List.nodup_append] at distinct
  obtain ⟨-, ⟨-, -, apartAfter⟩, apartBefore⟩ := distinct
  have inside := List.mem_map_of_mem (f := Record.tokenId) member
  have keepBefore : before.flatten.map (replace old.tokenId child) = before.flatten := by
    apply map_replace_other
    intro a present
    exact apartBefore _ (List.mem_map_of_mem present) _ (List.mem_append_left _ inside)
  have keepAfter : after.flatten.map (replace old.tokenId child) = after.flatten := by
    apply map_replace_other
    intro a present
    exact (apartAfter _ inside _ (List.mem_map_of_mem present)).symm
  rw [keepBefore, keepAfter, List.append_assoc]

theorem rotate (sound : l.Sound) {l' : Ledger} {old : TokenId} {record child : Record}
    (new : child.IsNew) (found : l.find? old = some record) (own : child.owner = record.owner)
    (rotated : l.rotate old child = .ok l') : l'.Sound := by
  obtain ⟨fresh, ⟨r, found', active⟩, rfl⟩ := (rotate_ok_iff l l' old child).mp rotated
  rw [found] at found'
  cases found'
  have member := mem_of_find? found
  obtain rfl := tokenId_of_find? found
  have untaken := (find?_eq_none_iff l child.tokenId).mp fresh
  refine ⟨?_, ?_, ?_⟩
  · change ((l.records.map (replace record.tokenId child.tokenId) ++ [child]).map
      Record.tokenId).Nodup
    rw [List.map_append, map_tokenIds l _ (tokenId_replace record.tokenId child.tokenId),
      List.nodup_append]
    refine ⟨sound.distinct, by simp, ?_⟩
    intro id present id' isNew
    obtain ⟨a, inside, rfl⟩ := List.mem_map.mp present
    simp only [List.map_cons, List.map_nil, List.mem_singleton] at isNew
    rw [isNew]
    exact untaken a inside
  · -- A link to the child is the one just made, any other was there before.
    have link : ∀ a ∈ l.records.map (replace record.tokenId child.tokenId) ++ [child], ∀ id,
        a.replacedBy = some id →
          (id = child.tokenId ∧ a = replace record.tokenId child.tokenId record) ∨
          (id ≠ child.tokenId ∧ a ∈ l.records) := by
      intro a inside id replaced
      rcases List.mem_append.mp inside with kept | isNew
      · obtain ⟨b, present, rfl⟩ := List.mem_map.mp kept
        by_cases same : b.tokenId = record.tokenId
        · obtain rfl := sound.unique present member same
          rw [replace_same child.tokenId rfl] at replaced
          exact Or.inl ⟨(Option.some.inj replaced).symm, rfl⟩
        · rw [replace_other child.tokenId same] at replaced ⊢
          refine Or.inr ⟨?_, present⟩
          rintro rfl
          obtain ⟨_, next, target, _⟩ := sound.linked present replaced
          rw [fresh] at target
          cases target
      · rw [List.mem_singleton.mp isNew, new.2] at replaced
        cases replaced
    intro a memberA b memberB id linkA linkB
    rcases link a memberA id linkA with ⟨isChild, rfl⟩ | ⟨notChild, insideA⟩
    · rcases link b memberB id linkB with ⟨_, rfl⟩ | ⟨notChild, _⟩
      · rfl
      · exact absurd isChild notChild
    · rcases link b memberB id linkB with ⟨isChild, _⟩ | ⟨_, insideB⟩
      · exact absurd isChild notChild
      · exact sound.single a insideA b insideB id linkA linkB
  · obtain ⟨chains, areChains, whole⟩ := sound.chained
    obtain ⟨c, isOne, inside⟩ := List.mem_flatten.mp (whole.mem_iff.mpr member)
    obtain ⟨before, after, rfl⟩ := List.append_of_mem isOne
    have distinct : ((before ++ c :: after).flatten.map Record.tokenId).Nodup :=
      (whole.map Record.tokenId).nodup_iff.mpr sound.distinct
    have ownDistinct : (c.map Record.tokenId).Nodup := by
      refine distinct.sublist (List.Sublist.map Record.tokenId ?_)
      exact List.sublist_flatten_of_mem isOne
    refine ⟨before ++ (c.map (replace record.tokenId child.tokenId) ++ [child]) :: after, ?_, ?_⟩
    · intro d present
      rcases List.mem_append.mp present with earlier | here
      · exact areChains d (List.mem_append_left _ earlier)
      · rcases List.mem_cons.mp here with rfl | later
        · exact (areChains c isOne).extend ownDistinct inside active new own
        · exact areChains d (List.mem_append_right _ (List.mem_cons_of_mem _ later))
    · have kept := whole.map (replace record.tokenId child.tokenId)
      rw [map_replace_chains child.tokenId distinct inside] at kept
      refine List.Perm.trans ?_ (kept.append_right [child])
      simp only [List.flatten_append, List.flatten_cons, List.append_assoc]
      refine List.Perm.append_left _ (List.Perm.append_left _ ?_)
      exact List.perm_append_comm

end Sound

/-- Every change keeps the ledger a disjoint union of chains. -/
theorem Change.sound {l l' : Ledger} (change : Change l l') (sound : l.Sound) : l'.Sound := by
  cases change with
  | same => exact sound
  | insert new inserted => exact sound.insert new inserted
  | rotate new found own rotated => exact sound.rotate new found own rotated
  | revokeAll user => exact sound.revokeAll user

end Ledger

end SessionTokens
