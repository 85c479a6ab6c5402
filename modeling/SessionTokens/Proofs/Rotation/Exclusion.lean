import SessionTokens.Proofs.Rotation.Deeds

set_option autoImplicit false

namespace SessionTokens.Rotation

variable {codec : Codec}

/-- An exchange of a token that states the identifier has succeeded. -/
def Succeeded (codec : Codec) (id : TokenId) (t : Service) (i : Nat) : Prop :=
  ∃ token reply, ReadsOnly codec token id ∧ t.threads[i]? = some ⟨.rotate token, .done (.ok reply)⟩

/-- One exchange at most has succeeded, and only with its record revoked. -/
structure Exclusive (codec : Codec) (id : TokenId) (t : Service) : Prop where
  spent : ∀ i, Succeeded codec id t i → ∃ r, t.ledger.find? id = some r ∧ r.revoked = true
  unique : ∀ i k, Succeeded codec id t i → Succeeded codec id t k → i = k

/-- Only an exchange of an unrevoked record succeeds, and it revokes the record. -/
theorem Deed.succeeds {token : String} {id : TokenId} {reply : Reply} {l l' : Ledger}
    (only : ReadsOnly codec token id)
    (deed : Deed codec (.rotate token) l l' (.done (.ok reply))) :
    (∃ r, l.find? id = some r ∧ r.revoked = false) ∧
      ∃ r, l'.find? id = some r ∧ r.revoked = true := by
  cases deed with
  | nothing unfinished => exact absurd rfl (unfinished reply)
  | @rotate _ id' _ _ _ child _ _ reads found _ _ stored =>
    obtain rfl := only id' reads
    obtain ⟨fresh, ⟨r, present, active⟩, -⟩ := (Ledger.rotate_ok_iff _ _ _ _).mp stored
    refine ⟨⟨r, present, active⟩, ?_⟩
    have other : child.tokenId ≠ id' := by
      intro same
      rw [same, present] at fresh
      cases fresh
    refine ⟨Ledger.replace id' child.tokenId r, ?_, ?_⟩
    · rw [Ledger.find?_rotate stored, if_neg other, present, Option.map_some]
    · rw [Ledger.replace_same _ (Ledger.tokenId_of_find? present)]

theorem Exclusive.move {id : TokenId} {t t' : Service} {event : Event Request}
    (moved : t.Move (program codec) (Deed codec) event t') (exclusive : Exclusive codec id t) :
    Exclusive codec id t' := by
  -- A success seen after the move is an old one, or that of the thread that acted.
  have seen : ∀ i, Succeeded codec id t' i → Succeeded codec id t i ∨
      (event = .step i ∧ (∃ r, t.ledger.find? id = some r ∧ r.revoked = false) ∧
        ∃ r, t'.ledger.find? id = some r ∧ r.revoked = true) := by
    rintro i ⟨token, reply, only, present⟩
    rcases moved.thread present with old | ⟨-, arrived⟩ | ⟨stepped, -, deed⟩
    · exact Or.inl ⟨token, reply, only, old⟩
    · exact absurd arrived.symm (program_ne_done _ _)
    · exact Or.inr ⟨stepped, deed.succeeds only⟩
  have settled : ∀ i, Succeeded codec id t i →
      ¬ ∃ r, t.ledger.find? id = some r ∧ r.revoked = false := by
    rintro i succeeded ⟨r, found, active⟩
    obtain ⟨r', found', revoked⟩ := exclusive.spent i succeeded
    rw [found] at found'
    obtain rfl := Option.some.inj found'
    rw [active] at revoked
    cases revoked
  refine ⟨?_, ?_⟩
  · intro i succeeded
    rcases seen i succeeded with old | ⟨-, -, spent⟩
    · obtain ⟨r, found, revoked⟩ := exclusive.spent i old
      exact ⟨r, (keeps_of_move moved).find?_revoked found revoked, revoked⟩
    · exact spent
  · intro i k first second
    rcases seen i first with old | ⟨stepped, active, -⟩
    · rcases seen k second with old' | ⟨-, active, -⟩
      · exact exclusive.unique i k old old'
      · exact absurd active (settled i old)
    · rcases seen k second with old' | ⟨stepped', -, -⟩
      · exact absurd active (settled k old')
      · rw [stepped] at stepped'
        exact Event.step.inj stepped'

theorem exclusive_run (codec : Codec) (id : TokenId) (moment : Moment) (supply : Supply)
    (events : List (Event Request)) :
    Exclusive codec id ((Traffic.start moment supply : Service).run (program codec) events) := by
  have begins : Exclusive codec id (Traffic.start moment supply) := by
    refine ⟨?_, ?_⟩
    · rintro i ⟨token, reply, -, present⟩
      cases present
    · rintro i k ⟨token, reply, -, present⟩ -
      cases present
  refine (orderly_start moment supply).run_induction begins ?_ events
  intro t event t' _ moved exclusive
  exact .move moved exclusive

end SessionTokens.Rotation
