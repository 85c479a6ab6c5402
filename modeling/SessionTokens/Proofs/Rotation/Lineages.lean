import SessionTokens.Proofs.Rotation.Deeds

set_option autoImplicit false

namespace SessionTokens.Rotation

variable {codec : Codec}

theorem sound_of_move {t t' : Service} {event : Event Request}
    (moved : t.Move (program codec) (Deed codec) event t') (sound : t.ledger.Sound) :
    t'.ledger.Sound := by
  cases moved with
  | idle ledger _ =>
    rw [ledger]
    exact sound
  | arrive _ => exact sound
  | act _ deed _ => exact deed.change.sound sound

theorem Orderly.sound_run {t : Service} (orderly : Orderly codec t) (sound : t.ledger.Sound)
    (events : List (Event Request)) : (t.run (program codec) events).ledger.Sound :=
  orderly.run_induction (P := fun t => t.ledger.Sound) sound
    (fun _ _ _ _ moved sound => sound_of_move moved sound) events

theorem sound_run (moment : Moment) (supply : Supply) (events : List (Event Request)) :
    ((Traffic.start moment supply : Service).run (program codec) events).ledger.Sound :=
  (orderly_start moment supply).sound_run Ledger.Sound.nil events

/-- Whatever the requests, their tokens, the order of their effects, the clocks, the directory and
the identifiers drawn, the ledger is a disjoint union of chains. Each chain belongs to one user, and
all of it but its last record is revoked. -/
theorem ledger_is_union_of_chains (codec : Codec) (moment : Moment) (supply : Supply)
    (events : List (Event Request)) :
    let l := ((Traffic.start moment supply : Service).run (program codec) events).ledger
    ((l.records.map Record.tokenId).Nodup ∧ ∀ r ∈ l.records, l.find? r.tokenId = some r) ∧
    (∀ r ∈ l.records, ∀ child, r.replacedBy = some child →
      r.revoked = true ∧ ∃ next, l.find? child = some next ∧ next.owner = r.owner) ∧
    (∀ a ∈ l.records, ∀ b ∈ l.records, ∀ child,
      a.replacedBy = some child → b.replacedBy = some child → a = b) ∧
    (∀ r ∈ l.records, ¬ Relation.TransGen l.Follows r r ∧
      ∃ last, Relation.ReflTransGen l.Follows r last ∧ last.replacedBy = none) ∧
    ∃ chains : List (List Record), chains.flatten.Perm l.records ∧
      ∀ chain ∈ chains, Ledger.IsChain chain ∧
        (∀ a ∈ chain, ∀ b ∈ chain, a.owner = b.owner) ∧
        ∀ r ∈ chain.dropLast, r.revoked = true := by
  intro l
  have sound : l.Sound := sound_run moment supply events
  obtain ⟨chains, areChains, whole⟩ := sound.chained
  refine ⟨⟨sound.distinct, fun r member => sound.keyed member⟩,
    fun r member child replaced => sound.linked member replaced, sound.single,
    fun r member => sound.ends member, chains, whole, ?_⟩
  intro chain isOne
  have isChain := areChains chain isOne
  exact ⟨isChain, isChain.owner_eq, isChain.revoked_of_mem_dropLast⟩

end SessionTokens.Rotation
