import SessionTokens.Proofs.Ledger.Linkage
import SessionTokens.Proofs.Traffic

set_option autoImplicit false

namespace SessionTokens

namespace Ledger

variable {l : Ledger}

/-- No two records have one identifier. -/
def IsDistinct (l : Ledger) : Prop :=
  (l.records.map Record.tokenId).Nodup

theorem isDistinct_append {records : List Record} {r : Record} (distinct : IsDistinct ⟨records⟩)
    (fresh : find? ⟨records⟩ r.tokenId = none) : IsDistinct ⟨records ++ [r]⟩ := by
  rw [find?_eq_none_iff] at fresh
  unfold IsDistinct at *
  rw [List.map_append, List.nodup_append]
  refine ⟨distinct, by simp, ?_⟩
  intro id present id' new
  obtain ⟨a, member, rfl⟩ := List.mem_map.mp present
  simp only [List.map_cons, List.map_nil, List.mem_singleton] at new
  rw [new]
  exact fresh a member

theorem isDistinct_map (distinct : l.IsDistinct) (f : Record → Record)
    (keeps : ∀ r, (f r).tokenId = r.tokenId) : IsDistinct ⟨l.records.map f⟩ := by
  rw [IsDistinct, Sound.map_tokenIds l f keeps]
  exact distinct

theorem isDistinct_commit {changed : Except LedgerError Ledger} (distinct : l.IsDistinct)
    (after : ∀ l', changed = .ok l' → l'.IsDistinct) : (commit l changed).2.IsDistinct := by
  cases changed with
  | error e => exact distinct
  | ok l' => exact after l' rfl

theorem IsDistinct.answer (distinct : l.IsDistinct) (call : LedgerCall) :
    (l.answer call).2.IsDistinct := by
  cases call with
  | insert r =>
    refine isDistinct_commit distinct fun l' inserted => ?_
    obtain ⟨fresh, rfl⟩ := (insert_ok_iff l l' r).mp inserted
    exact isDistinct_append distinct fresh
  | rotate old child =>
    refine isDistinct_commit distinct fun l' rotated => ?_
    obtain ⟨fresh, -, rfl⟩ := (rotate_ok_iff l l' old child).mp rotated
    have keeps := tokenId_replace old child.tokenId
    refine isDistinct_append (isDistinct_map distinct _ keeps) ?_
    rw [find?_map l _ keeps, fresh, Option.map_none]
  | revokeAll user => exact isDistinct_map distinct _ (tokenId_revoke user)
  | _ => exact distinct

theorem find?_eq_none_of_isDistinct {before after : List Record} {r : Record}
    (distinct : IsDistinct ⟨before ++ r :: after⟩) : find? ⟨before⟩ r.tokenId = none := by
  rw [find?_eq_none_iff]
  intro a earlier same
  rw [IsDistinct, List.map_append, List.nodup_append] at distinct
  exact distinct.2.2 _ (List.mem_map_of_mem earlier) _ List.mem_cons_self same

theorem insertAll_of_isDistinct {before after : List Record}
    (distinct : IsDistinct ⟨before ++ after⟩) :
    after.foldlM insert (⟨before⟩ : Ledger) = .ok ⟨before ++ after⟩ := by
  induction after generalizing before with
  | nil =>
    rw [List.append_nil]
    rfl
  | cons r after ih =>
    have inserted : insert ⟨before⟩ r = .ok ⟨before ++ [r]⟩ :=
      (insert_ok_iff _ _ r).mpr ⟨find?_eq_none_of_isDistinct distinct, rfl⟩
    rw [List.append_cons before r after] at distinct ⊢
    rw [List.foldlM_cons, inserted]
    exact ih distinct

theorem isDistinct_of_inserted {start : Ledger} {records : List Record}
    (distinct : start.IsDistinct) (inserted : records.foldlM insert start = .ok l) :
    l.IsDistinct := by
  induction records generalizing start with
  | nil =>
    obtain rfl := Except.ok.inj inserted
    exact distinct
  | cons r records ih =>
    rw [List.foldlM_cons] at inserted
    cases first : insert start r with
    | error e =>
      rw [first] at inserted
      cases inserted
    | ok next =>
      rw [first] at inserted
      obtain ⟨fresh, rfl⟩ := (insert_ok_iff _ _ _).mp first
      exact ih (isDistinct_append distinct fresh) inserted

/-- Nothing but different identifiers is asked of records that are inserted one by one. -/
theorem isDistinct_iff : l.IsDistinct ↔ l.records.foldlM insert empty = .ok l := by
  constructor
  · exact fun distinct => insertAll_of_isDistinct distinct
  · have distinct : empty.IsDistinct := List.nodup_nil
    exact isDistinct_of_inserted distinct

theorem IsDistinct.eq_of_tokenId (distinct : l.IsDistinct) :
    ∀ a ∈ l.records, ∀ b ∈ l.records, a.tokenId = b.tokenId → a = b :=
  fun _ inA _ inB same => List.inj_on_of_nodup_map distinct inA inB same

end Ledger

theorem World.isDistinct_answer {w : World} (distinct : w.ledger.IsDistinct) (e : Effect) :
    (w.answer e).2.ledger.IsDistinct := by
  cases e with
  | ledger call => exact distinct.answer call
  | password call => cases call <;> exact distinct
  | _ => exact distinct

/-- What runs to its end keeps identifiers apart. -/
theorem Program.isDistinct_run {α : Type} (p : Program α) {w : World}
    (distinct : w.ledger.IsDistinct) : (p.run World.answer w).2.ledger.IsDistinct := by
  induction p generalizing w with
  | done a => exact distinct
  | perform e next ih => exact ih _ (World.isDistinct_answer distinct e)

namespace Traffic

variable {ρ α : Type}

theorem isDistinct_next (program : ρ → Program α) {t : Traffic ρ α}
    (distinct : t.ledger.IsDistinct) (event : Event ρ) :
    (t.next program event).ledger.IsDistinct := by
  cases event with
  | step i =>
    rcases advance_cases t i with same | ⟨request, e, rest, -, moved⟩
    · change (t.advance i).ledger.IsDistinct
      rw [same]
      exact distinct
    · change (t.advance i).ledger.IsDistinct
      rw [moved]
      exact World.isDistinct_answer distinct e
  | _ => exact distinct

/-- So do requests under way at once. -/
theorem isDistinct_run (program : ρ → Program α) (moment : Moment) (supply : Supply)
    (events : List (Event ρ)) :
    ((start moment supply : Traffic ρ α).run program events).ledger.IsDistinct := by
  suffices later : ∀ t : Traffic ρ α, t.ledger.IsDistinct → (t.run program events).ledger.IsDistinct
    from later _ List.nodup_nil
  induction events with
  | nil => exact fun t distinct => distinct
  | cons event events ih => exact fun t distinct => ih _ (isDistinct_next program distinct event)

end Traffic

end SessionTokens
