import SessionTokens.Proofs.Rotation.Lineages
import SessionTokens.Proofs.Traffic.Results

set_option autoImplicit false

namespace SessionTokens

/-- The record as it was added. -/
def Record.original (r : Record) : Record :=
  { r with revoked := false, replacedBy := none }

theorem Record.IsNew.original_eq {r : Record} (new : r.IsNew) : r.original = r := by
  obtain ⟨unrevoked, unreplaced⟩ := new
  rw [original, ← unrevoked, ← unreplaced]

@[simp] theorem Ledger.original_replace (old child : TokenId) (r : Record) :
    (replace old child r).original = r.original := by
  unfold replace
  split <;> rfl

@[simp] theorem Ledger.original_revoke (user : UserId) (r : Record) :
    (revoke user r).original = r.original := by
  unfold revoke
  split <;> rfl

namespace Rotation

variable {codec : Codec}

/-- The token that a result returns, with its record. -/
def handed : Request × Outcome → Option Issued
  | (_, .ok (.issued made)) => some made
  | (_, .ok (.rotated made)) => some ⟨made.token, made.record⟩
  | _ => none

/-- The tokens that requests have returned. -/
def handedOut (t : Service) : List Issued :=
  t.results.filterMap handed

/-- The records of a ledger, as they were added, are those of the tokens. -/
structure Kept (codec : Codec) (tokens : List Issued) (l : Ledger) : Prop where
  records : (tokens.map Issued.record).Perm (l.records.map Record.original)
  minted : ∀ x ∈ tokens, Minted codec x.record.owner x.token x.record

variable {tokens tokens' : List Issued} {l l' : Ledger}

theorem Kept.perm (kept : Kept codec tokens l) (same : tokens'.Perm tokens) :
    Kept codec tokens' l where
  records := (same.map _).trans kept.records
  minted := fun x member => kept.minted x (same.mem_iff.mp member)

/-- A change that adds no record leaves what the records were. -/
theorem Kept.mark (kept : Kept codec tokens l) {f : Record → Record}
    (marks : ∀ r, (f r).original = r.original) : Kept codec tokens ⟨l.records.map f⟩ where
  records := by
    have same : Record.original ∘ f = Record.original := funext marks
    rw [List.map_map, same]
    exact kept.records
  minted := kept.minted

theorem Kept.add (kept : Kept codec tokens l) {x : Issued}
    (minted : Minted codec x.record.owner x.token x.record) :
    Kept codec (x :: tokens) ⟨l.records ++ [x.record]⟩ where
  records := by
    rw [List.map_cons, List.map_append, List.map_singleton, minted.isNew.1.original_eq]
    exact (kept.records.cons x.record).trans (List.perm_append_singleton _ _).symm
  minted := by
    rw [List.forall_mem_cons]
    exact ⟨minted, kept.minted⟩

theorem Deed.kept {request : Request} {rest : Program Outcome}
    (deed : Deed codec request l l' rest) (kept : Kept codec tokens l) :
    Kept codec (((Traffic.ended ⟨request, rest⟩).toList.filterMap handed) ++ tokens) l' := by
  cases deed with
  | nothing unfinished =>
    cases rest with
    | perform e next => exact kept
    | done outcome =>
      cases outcome with
      | ok reply => exact absurd rfl (unfinished reply)
      | error fault => exact kept
  | @issue user token record _ _ minted stored =>
    obtain ⟨-, rfl⟩ := (Ledger.insert_ok_iff _ _ _).mp stored
    obtain rfl := minted.isNew.2
    exact kept.add (x := ⟨token, record⟩) minted
  | @rotate _ id _ account successor child _ _ _ _ _ minted stored =>
    obtain ⟨-, -, rfl⟩ := (Ledger.rotate_ok_iff _ _ _ _).mp stored
    have marked := kept.mark (Ledger.original_replace id child.tokenId)
    rw [← minted.isNew.2] at minted
    exact marked.add (x := ⟨successor, child⟩) minted
  | revokeAll => exact kept.mark (Ledger.original_revoke _)

theorem kept_run (codec : Codec) (moment : Moment) (supply : Supply)
    (events : List (Event Request)) :
    let t := (Traffic.start moment supply : Service).run (program codec) events
    Kept codec (handedOut t) t.ledger := by
  refine (orderly_start moment supply).run_induction
    (P := fun t => Kept codec (handedOut t) t.ledger) ⟨.refl _, fun _ member => nomatch member⟩ ?_
    events
  intro t event t' _ moved kept
  rcases moved.results program_ne_done with ⟨same, results⟩ | ⟨request, rest, deed, grown⟩
  · rw [same, handedOut, results]
    exact kept
  · apply (deed.kept kept).perm
    rw [handedOut, handedOut, ← List.filterMap_append]
    exact grown.filterMap handed

/-- A token that was handed out has its record in the ledger. -/
theorem Kept.exists_record (kept : Kept codec tokens l) (sound : l.Sound) {x : Issued}
    (member : x ∈ tokens) :
    ∃ r, x.record = r.original ∧ l.find? r.tokenId = some r ∧
      Minted codec r.owner x.token r.original := by
  have inside := kept.records.mem_iff.mp (List.mem_map_of_mem member)
  obtain ⟨r, present, same⟩ := List.mem_map.mp inside
  have minted := kept.minted x member
  rw [← same] at minted
  exact ⟨r, same.symm, sound.keyed present, minted⟩

/-- Tokens that were handed out have identifiers of their own. -/
theorem Kept.distinct (kept : Kept codec tokens l) (sound : l.Sound) :
    (tokens.map fun x => x.record.tokenId).Nodup := by
  have same : (tokens.map fun x => x.record.tokenId) =
      (tokens.map Issued.record).map Record.tokenId := by
    rw [List.map_map]
    rfl
  have ids : (l.records.map Record.original).map Record.tokenId =
      l.records.map Record.tokenId := by
    rw [List.map_map]
    rfl
  rw [same, (kept.records.map Record.tokenId).nodup_iff, ids]
  exact sound.distinct

/-- What is asked of the token of every record can be asked of the record. -/
theorem Kept.countP_eq (kept : Kept codec tokens l) (sound : l.Sound) {p : Issued → Bool}
    {q : Record → Bool}
    (agree : ∀ x ∈ tokens, ∀ r, x.record = r.original → l.find? r.tokenId = some r → p x = q r) :
    tokens.countP p = l.records.countP q := by
  let asked (r : Record) : Bool := (l.find? r.tokenId).any q
  have ofTokens : tokens.countP p = (tokens.map Issued.record).countP asked := by
    rw [List.countP_map]
    refine List.countP_congr fun x member => ?_
    obtain ⟨r, same, found, -⟩ := kept.exists_record sound member
    have named : l.find? x.record.tokenId = some r := by
      rw [same]
      exact found
    simp only [Function.comp_apply, asked, named, Option.any_some, agree x member r same found]
  have ofRecords : (l.records.map Record.original).countP asked = l.records.countP q := by
    rw [List.countP_map]
    refine List.countP_congr fun r member => ?_
    have found : l.find? r.original.tokenId = some r := sound.keyed member
    simp only [Function.comp_apply, asked, found, Option.any_some]
  rw [ofTokens, kept.records.countP_eq, ofRecords]

end Rotation

end SessionTokens
