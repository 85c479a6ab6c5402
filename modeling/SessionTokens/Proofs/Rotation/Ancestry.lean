import SessionTokens.Proofs.Ledger.Distinct
import SessionTokens.Proofs.Ledger.WholeChain
import SessionTokens.Proofs.Rotation.Dates
import SessionTokens.Proofs.Rotation.Opening

set_option autoImplicit false

namespace SessionTokens.Rotation

open Lineage (IsLineageOf Walks)

theorem run_lineage (w : World) (id : TokenId) :
    (lineage id).run.run World.answer w =
      match w.ledger.find? id with
      | none => (.error (.refused .unknownToken), w)
      | some r => (.ok (w.ledger.chainOf r), w) := by
  rw [lineage, Action.run_bind, Action.run_mapCause, Action.run_ledger]
  simp only [World.answer, Ledger.answer, mapError_ok]
  rw [Action.run_bind, Action.run_require]
  cases w.ledger.find? id with
  | none => rfl
  | some r =>
    dsimp only
    rw [Action.run_bind, Action.run_mapCause, Action.run_ledger]
    rfl

/-- The lineage of a token is the whole chain of replacements that its record stands in, whatever
requests there have been and in whatever order their effects came. All of a chain have one lineage,
chains that differ share nothing, and the chains of a user make up the user's history. The order in
which records are kept or listed makes no difference. If the clock was never set back, the chain is
dated in its order. -/
theorem lineage_is_whole_chain (codec : Codec) (moment : Moment) (supply : Supply)
    (events : List (Event Request)) :
    let w := ((Traffic.start moment supply : Service).run (program codec) events).world
    let l := w.ledger
    (∀ r ∈ l.records,
      (lineage r.tokenId).run.run World.answer w = (.ok (l.chainOf r), w) ∧
      Lineage.IsWhole l.records (l.chainOf r) ∧ r ∈ l.chainOf r ∧
      (∀ a ∈ l.chainOf r, l.chainOf a = l.chainOf r) ∧
      (∀ l' : Ledger, l'.records.Perm l.records →
        (lineage r.tokenId).run.run World.answer { w with ledger := l' } =
          (.ok (l.chainOf r), { w with ledger := l' })) ∧
      (∀ listed, listed.Perm (l.history r.owner) →
        Lineage.chain listed r.tokenId = l.chainOf r) ∧
      (Traffic.NeverBack moment.now events →
        (l.chainOf r).Pairwise fun a b => a.createdAt ≤ b.createdAt)) ∧
    (∀ a ∈ l.records, ∀ b ∈ l.records,
      l.chainOf a = l.chainOf b ∨ (l.chainOf a).Disjoint (l.chainOf b)) ∧
    ∀ user r, r ∈ l.history user ↔ ∃ a ∈ l.records, a.owner = user ∧ r ∈ l.chainOf a := by
  intro w l
  have sound : l.Sound := sound_run moment supply events
  refine ⟨fun r member => ?_, fun a inA b inB => sound.chainOf_eq_or_disjoint inA inB,
    sound.mem_history_iff⟩
  obtain ⟨whole, self⟩ := sound.isWhole_chainOf member
  refine ⟨?_, whole, self, fun a inside => sound.chainOf_of_mem member inside, ?_, ?_, ?_⟩
  · rw [run_lineage, sound.keyed member]
  · intro l' perm
    obtain ⟨found, same⟩ := sound.chainOf_of_perm perm member
    rw [run_lineage, found]
    dsimp only
    rw [same]
  · exact fun listed all => sound.chain_eq whole self all
  · intro steady
    exact whole.chain.pairwise sound (inOrder_run moment supply steady).2 whole.within

/-- After an exchange the token that was presented and the one that was returned have one lineage.
-/
theorem exchanged_have_one_lineage :
    ∃ (token : String) (spent child : Record) (chain : List Record),
      let events := opening Sample.directory Sample.user token ++ [.step 1]
      let w := ((Traffic.start Sample.moment .counting : Service).run (program Sample.codec)
        events).world
      Traffic.NeverBack Sample.moment.now events ∧ w.ledger.records = [spent, child] ∧
      (lineage spent.tokenId).run.run World.answer w = (.ok chain, w) ∧
      (lineage child.tokenId).run.run World.answer w = (.ok chain, w) ∧
      spent ∈ chain ∧ child ∈ chain ∧ chain.Pairwise fun a b => a.createdAt ≤ b.createdAt := by
  obtain ⟨token, _, r, child, _, -, -, -, other, -, after⟩ :=
    exists_first_exchange Sample.made Sample.paired Sample.user Sample.moment Sample.directory
      .counting ⟨_, rfl, rfl⟩ Sample.mintable (by decide) (by decide) (by decide)
  let spent : Record := { r with revoked := true, replacedBy := some child.tokenId }
  have steady : Traffic.NeverBack Sample.moment.now
      (opening Sample.directory Sample.user token ++ [.step 1]) := List.pairwise_singleton _ _
  obtain ⟨lineages, -⟩ := lineage_is_whole_chain Sample.codec Sample.moment .counting
    (opening Sample.directory Sample.user token ++ [.step 1])
  rw [Ledger.replace_same child.tokenId rfl] at after
  rw [Traffic.run_append, Traffic.run_cons, Traffic.run_nil, after] at lineages
  obtain ⟨found, whole, self, same, -, -, dated⟩ := lineages spent List.mem_cons_self
  obtain ⟨-, next, inside, named, -⟩ := whole.chain.linked spent self child.tokenId rfl
  obtain rfl : next = child := by
    rcases List.mem_cons.mp (whole.within next inside) with rfl | last
    · exact absurd named.symm other
    · exact List.mem_singleton.mp last
  have successor := (lineages next (.tail spent (.head _))).1
  rw [same next inside] at successor
  refine ⟨token, spent, next, Ledger.chainOf ⟨[spent, next]⟩ spent, ?_⟩
  dsimp only
  rw [Traffic.run_append, Traffic.run_cons, Traffic.run_nil, after]
  exact ⟨steady, rfl, found, successor, self, inside, dated steady⟩

/-- Whatever links there are, in circles, to one record from several, to none or to a record of
someone else, the lineage of any token that has a record is answered. It is a list of records of
one owner, that record among them, of which each names the next and none comes twice; and it is
what walks without a bound on their steps find. All this holds in whatever order the records of the
owner are listed, though the list may be another. -/
theorem lineage_on_any_ledger (w : World) (distinct : w.ledger.IsDistinct) {id : TokenId}
    {r : Record} (found : w.ledger.find? id = some r) :
    (∃ c, (lineage id).run.run World.answer w = (.ok c, w) ∧ IsLineageOf r c ∧
      ∀ c', Walks (w.ledger.history r.owner) id c' ↔ c' = c) ∧
    ∀ listed, listed.Perm (w.ledger.history r.owner) →
      IsLineageOf r (Lineage.chain listed id) ∧
      ∀ c, Walks listed id c ↔ c = Lineage.chain listed id := by
  obtain rfl := Ledger.tokenId_of_find? found
  have present := Ledger.mem_of_find? found
  have every : ∀ listed, listed.Perm (w.ledger.history r.owner) →
      IsLineageOf r (Lineage.chain listed r.tokenId) := by
    intro listed all
    have known {a : Record} : a ∈ listed ↔ a ∈ w.ledger.records ∧ a.owner = r.owner :=
      all.mem_iff.trans Ledger.mem_history
    have apart : ∀ a ∈ listed, ∀ b ∈ listed, a.tokenId = b.tokenId → a = b := fun a inA b inB =>
      distinct.eq_of_tokenId a (known.mp inA).1 b (known.mp inB).1
    exact Walks.isLineageOf apart (known.mpr ⟨present, rfl⟩) (fun a inside => (known.mp inside).2)
      (Lineage.walks_iff.mpr rfl)
  refine ⟨⟨w.ledger.chainOf r, ?_, every _ (.refl _), fun _ => Lineage.walks_iff⟩,
    fun listed all => ⟨every listed all, fun _ => Lineage.walks_iff⟩⟩
  rw [run_lineage, found]

namespace Sample

/-- A record of a user, with a link. -/
def linked (owner : Nat) (id next : String) : Record :=
  { Record.active ⟨⟨0⟩⟩ ⟨⟨.ofNat 128 owner⟩⟩ ⟨id⟩ moment.now moment.now with
    replacedBy := some ⟨next⟩ }

/-- A link to itself, a circle of three that another link leads to, a link to no record, and one to
the record of someone else. -/
def tangled : List Record :=
  [linked 0 "self" "self", linked 0 "one" "two", linked 0 "two" "three", linked 0 "three" "one",
    linked 0 "aside" "two", linked 0 "loose" "nothing", linked 0 "across" "other",
    linked 1 "other" "across"]

end Sample

example : (Lineage.chain Sample.tangled ⟨"two"⟩).map (fun r => r.tokenId.text) =
    ["aside", "two", "three", "one"] := by decide

/-- The lineage of a record on a circle, to which another link leads from outside. -/
theorem lineage_on_circle_is_found :
    ∃ (w : World) (r : Record) (c : List Record),
      Sample.tangled.foldlM Ledger.insert .empty = .ok w.ledger ∧
      w.ledger.find? ⟨"two"⟩ = some r ∧ r.replacedBy = some ⟨"three"⟩ ∧
      (lineage ⟨"two"⟩).run.run World.answer w = (.ok c, w) ∧ IsLineageOf r c := by
  let w : World := { World.start Sample.moment .counting with ledger := ⟨Sample.tangled⟩ }
  have distinct : w.ledger.IsDistinct := by
    change (Sample.tangled.map Record.tokenId).Nodup
    decide
  obtain ⟨⟨c, answered, isLineage, -⟩, -⟩ := lineage_on_any_ledger w distinct
    (rfl : w.ledger.find? ⟨"two"⟩ = some (Sample.linked 0 "two" "three"))
  exact ⟨w, Sample.linked 0 "two" "three", c, Ledger.isDistinct_iff.mp distinct, rfl, rfl, answered,
    isLineage⟩

end SessionTokens.Rotation
