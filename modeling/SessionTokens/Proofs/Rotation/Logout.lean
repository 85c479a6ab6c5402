import SessionTokens.Proofs.Rotation.Lineages
import SessionTokens.Proofs.Rotation.Undisturbed

set_option autoImplicit false

namespace SessionTokens.Rotation

variable {codec : Codec}

theorem bounded_run (codec : Codec) (moment : Moment) (supply : Supply)
    (events : List (Event Request)) :
    ∀ thread ∈ ((Traffic.start moment supply : Service).run (program codec) events).threads,
      thread.rest.EndsWithin 8 := by
  refine Traffic.endsWithin_run program_endsWithin ?_ events
  intro thread inside
  cases inside

/-- A request to exchange a token whose record is revoked never succeeds. -/
theorem barred_run {t : Service} (orderly : Orderly codec t) {token : String} {id : TokenId}
    {r : Record} {k : Nat} (only : ReadsOnly codec token id) (found : t.ledger.find? id = some r)
    (revoked : r.revoked = true)
    (uncommitted : ∀ reply, t.threads[k]? ≠ some ⟨.rotate token, .done (.ok reply)⟩)
    (events : List (Event Request)) (reply : Reply) :
    (t.run (program codec) events).threads[k]? ≠ some ⟨.rotate token, .done (.ok reply)⟩ := by
  revert reply
  refine (orderly.run_induction (P := fun t => t.ledger.find? id = some r ∧
    ∀ reply, t.threads[k]? ≠ some ⟨.rotate token, .done (.ok reply)⟩)
      ⟨found, uncommitted⟩ ?_ events).2
  rintro t event t' - moved ⟨found, uncommitted⟩
  refine ⟨(keeps_of_move moved).find?_revoked found revoked, ?_⟩
  intro reply finished
  rcases moved.thread finished with old | ⟨-, arrived⟩ | ⟨-, -, deed⟩
  · exact uncommitted reply old
  · exact program_ne_done _ _ arrived.symm
  · exact (deed.nothing_of_revoked only found revoked).2 reply rfl

/-- Every record of the user is revoked. -/
def LoggedOut (user : UserId) (l : Ledger) : Prop :=
  ∀ id r, l.find? id = some r → r.owner = user → r.revoked = true

theorem loggedOut_revokeAll (user : UserId) (l : Ledger) : LoggedOut user (l.revokeAll user).2 := by
  intro id r found own
  rw [Ledger.find?_revokeAll] at found
  obtain ⟨before, -, rfl⟩ := Option.map_eq_some_iff.mp found
  rw [Ledger.owner_revoke] at own
  exact Ledger.revoked_revoke own

/-- The one effect of a logout. -/
theorem step_revokeAll {s : Service} {i : Nat} {user : UserId}
    (pending : s.threads[i]? = some ⟨.revokeAll user, program codec (.revokeAll user)⟩) :
    s.next (program codec) (.step i) = ⟨{ s.world with ledger := (s.ledger.revokeAll user).2 },
      s.threads.set i
        ⟨.revokeAll user, .done (.ok (.revoked (s.ledger.revokeAll user).1))⟩⟩ := by
  rw [program_revokeAll] at pending
  exact Traffic.advance_eq pending

theorem step_of_revoked {t : Service} (orderly : Orderly codec t) {token : String} {id : TokenId}
    {r : Record} {k : Nat} {rest : Program Outcome} (only : ReadsOnly codec token id)
    (found : t.ledger.find? id = some r) (revoked : r.revoked = true)
    (present : t.threads[k]? = some ⟨.rotate token, rest⟩) :
    (t.next (program codec) (.step k)).ledger = t.ledger := by
  cases (orderly.next (.step k)).1 with
  | idle ledger _ => exact ledger
  | act stepped deed _ =>
    rw [present, Option.some.injEq, Thread.mk.injEq] at stepped
    obtain ⟨rfl, -⟩ := stepped
    exact (deed.nothing_of_revoked only found revoked).1

/-- What took the place of a revoked record before a logout was revoked by it. -/
theorem found_of_reaches {user : UserId} {before after : Ledger} (out : LoggedOut user before)
    (sound : before.Sound) (keeps : before.Keeps after) (keyed : after.Sound) {first r : Record}
    (old : ∃ a, before.find? first.tokenId = some a ∧ a.owner = user)
    (member : first ∈ after.records) (path : Relation.ReflTransGen after.Follows first r) :
    ∃ a, before.find? r.tokenId = some a ∧ a.owner = user := by
  induction path with
  | refl => exact old
  | @tail x z reaches step ih =>
    obtain ⟨a, found, own⟩ := ih
    have revoked := out _ a found own
    have inside := (keyed.owner_eq_of_reaches member reaches).1
    have same := keeps.find?_revoked found revoked
    rw [keyed.keyed inside] at same
    obtain rfl := Option.some.inj same
    obtain ⟨-, next, present, owned⟩ := sound.linked (Ledger.mem_of_find? found) step.2
    exact ⟨next, present, owned.trans own⟩

/-- An unfinished exchange of a revoked record's token ends in an error, and all steps on the way
leave the ledger. -/
theorem exchange_fails {s : Service} (orderly : Orderly codec s) {token : String} {id : TokenId}
    {r : Record} {k : Nat} (only : ReadsOnly codec token id) (found : s.ledger.find? id = some r)
    (revoked : r.revoked = true)
    (uncommitted : ∀ reply, s.threads[k]? ≠ some ⟨.rotate token, .done (.ok reply)⟩)
    (bounded : ∀ thread ∈ s.threads, thread.rest.EndsWithin 8) (after : List (Event Request))
    {rest : Program Outcome}
    (present : (s.run (program codec) after).threads[k]? = some ⟨.rotate token, rest⟩) :
    ((s.run (program codec) after).next (program codec) (.step k)).ledger =
        (s.run (program codec) after).ledger ∧
      ∀ more : List (Event Request), 8 ≤ more.countP (Event.isStep k) → ∃ fault,
        ((s.run (program codec) after).run (program codec) more).threads[k]? =
          some ⟨.rotate token, .done (.error fault)⟩ := by
  have found' := (orderly.keeps_run after).find?_revoked found revoked
  refine ⟨step_of_revoked (orderly.run after) only found' revoked present, ?_⟩
  intro more enough
  have ends := Traffic.endsWithin_run program_endsWithin bounded after _
    (List.mem_of_getElem? present)
  obtain ⟨last, at_, ended⟩ := Traffic.ends_run (program codec) present ends more
  rw [Nat.sub_eq_zero_of_le enough] at ended
  obtain ⟨result, rfl⟩ := ended.exists_done
  cases result with
  | error fault => exact ⟨fault, at_⟩
  | ok reply =>
    have barred := barred_run orderly only found revoked uncommitted (after ++ more) reply
    rw [Traffic.run_append] at barred
    exact absurd at_ barred

/-- What the user holds after a logout goes back to a record that the ledger before it did not
have. -/
theorem exists_young_first {user : UserId} {before at_ after : Ledger} (out : LoggedOut user at_)
    (sound : at_.Sound) (sound' : after.Sound) (keeps : before.Keeps at_) (later : at_.Keeps after)
    {r : Record} (member : r ∈ after.records) (own : r.owner = user) (active : r.revoked = false) :
    ∃ first ∈ after.records, Relation.ReflTransGen after.Follows first r ∧
      (∀ parent ∈ after.records, parent.replacedBy ≠ some first.tokenId) ∧
      before.find? first.tokenId = none := by
  obtain ⟨first, inside, path, alone⟩ := sound'.exists_first member
  refine ⟨first, inside, path, alone, ?_⟩
  rw [← Option.not_isSome_iff_eq_none, Option.isSome_iff_exists]
  rintro ⟨old, found⟩
  obtain ⟨known, found', ages⟩ := keeps _ old found
  obtain ⟨last, found'', ages'⟩ := later _ known found'
  rw [sound'.keyed inside] at found''
  obtain rfl := Option.some.inj found''
  have same := (sound'.owner_eq_of_reaches inside path).2
  have owned : known.owner = user := by rw [← ages'.owner, ← same, own]
  obtain ⟨final, present, owned'⟩ :=
    found_of_reaches out sound later sound' ⟨known, found', owned⟩ inside path
  have revoked := out _ final present owned'
  have kept := later.find?_revoked present revoked
  rw [sound'.keyed member] at kept
  obtain rfl := Option.some.inj kept
  rw [revoked] at active
  cases active

/-- From the step of a logout on, in every state `t` reached later: the records that the user had
are revoked; a request to exchange a token of such a record that has not succeeded by then leaves
the ledger as it is and, stepped often enough, ends in an error; and an unrevoked record of the
user goes back to one that is younger than the logout and replaced none. -/
theorem logout_is_a_barrier (codec : Codec) (moment : Moment) (supply : Supply)
    (before after : List (Event Request)) (i : Nat) (user : UserId) :
    let s := (Traffic.start moment supply : Service).run (program codec) before
    let t := (s.next (program codec) (.step i)).run (program codec) after
    s.threads[i]? = some ⟨.revokeAll user, program codec (.revokeAll user)⟩ →
    (∀ r ∈ s.ledger.records, r.owner = user →
      ∃ r', t.ledger.find? r.tokenId = some r' ∧ r'.owner = user ∧ r'.revoked = true) ∧
    (∀ r ∈ s.ledger.records, r.owner = user → ∀ token, ReadsOnly codec token r.tokenId → ∀ k,
      (∀ reply, s.threads[k]? ≠ some ⟨.rotate token, .done (.ok reply)⟩) →
      ∀ rest, t.threads[k]? = some ⟨.rotate token, rest⟩ →
        (t.next (program codec) (.step k)).ledger = t.ledger ∧
        ∀ more : List (Event Request), 8 ≤ more.countP (Event.isStep k) → ∃ fault,
          (t.run (program codec) more).threads[k]? =
            some ⟨.rotate token, .done (.error fault)⟩) ∧
    ∀ r ∈ t.ledger.records, r.owner = user → r.revoked = false →
      ∃ first ∈ t.ledger.records, Relation.ReflTransGen t.ledger.Follows first r ∧
        (∀ parent ∈ t.ledger.records, parent.replacedBy ≠ some first.tokenId) ∧
        s.ledger.find? first.tokenId = none := by
  intro s t pending
  have orderly : Orderly codec s := (orderly_start moment supply).run before
  have lands := step_revokeAll pending
  have orderly₁ : Orderly codec (s.next (program codec) (.step i)) := (orderly.next _).2
  have out : LoggedOut user (s.next (program codec) (.step i)).ledger := by
    rw [lands]
    exact loggedOut_revokeAll user s.ledger
  have sound : s.ledger.Sound := sound_run moment supply before
  have sound₁ : (s.next (program codec) (.step i)).ledger.Sound := by
    rw [lands]
    exact sound.revokeAll user
  have soundT : t.ledger.Sound := orderly₁.sound_run sound₁ after
  have keeps : s.ledger.Keeps (s.next (program codec) (.step i)).ledger :=
    keeps_of_move (orderly.next (.step i)).1
  have later : (s.next (program codec) (.step i)).ledger.Keeps t.ledger := orderly₁.keeps_run after
  have revoked : ∀ r ∈ s.ledger.records, r.owner = user →
      ∃ r', (s.next (program codec) (.step i)).ledger.find? r.tokenId = some r' ∧
        r'.owner = user ∧ r'.revoked = true := by
    intro r member own
    obtain ⟨r', found, ages⟩ := keeps _ r (sound.keyed member)
    have owned := ages.owner.trans own
    exact ⟨r', found, owned, out _ r' found owned⟩
  refine ⟨?_, ?_, ?_⟩
  · intro r member own
    obtain ⟨r', found, owned, spent⟩ := revoked r member own
    exact ⟨r', later.find?_revoked found spent, owned, spent⟩
  · intro r member own token only k uncommitted rest present
    obtain ⟨r', found, -, spent⟩ := revoked r member own
    have uncommitted₁ : ∀ reply, (s.next (program codec) (.step i)).threads[k]? ≠
        some ⟨.rotate token, .done (.ok reply)⟩ := by
      intro reply finished
      rw [lands] at finished
      rcases Traffic.of_getElem?_set finished with ⟨-, acted⟩ | ⟨-, old⟩
      · cases acted
      · exact uncommitted reply old
    have bounded := bounded_run codec moment supply (before ++ [.step i])
    rw [Traffic.run_append] at bounded
    exact exchange_fails orderly₁ only found spent uncommitted₁ bounded after present
  · intro r member own active
    exact exists_young_first out sound₁ soundT keeps later member own active

/-- A logout that lands between the check and the write of an exchange, and a first token issued
after it. -/
theorem logout_before_write :
    let secret : List UInt8 := List.replicate 32 7
    let codec : Codec := ⟨.secret secret, [.secret secret], ⟨"login", .standard, .standard⟩⟩
    let user : UserId := ⟨⟨7⟩⟩
    let moment : Moment := ⟨⟨0, 0, by decide, by decide, by decide⟩, 0⟩
    let directory : Directory := ⟨[⟨user, "alice", "alice@example.org", "", [], true, moment.now⟩]⟩
    ∃ token : String,
      let before : List (Event Request) :=
        [.enroll directory, .arrive (.issue user), .step 0, .step 0, .step 0] ++ (.step 0 ::
          (.arrive (.rotate token) :: List.replicate 7 (.step 1)) ++ [.arrive (.revokeAll user)])
      let after : List (Event Request) :=
        [.arrive (.issue user), .step 3, .step 3, .step 3, .step 3]
      let s := (Traffic.start moment .counting : Service).run (program codec) before
      let t := (s.next (program codec) (.step 2)).run (program codec) after
      s.threads[2]? = some ⟨.revokeAll user, program codec (.revokeAll user)⟩ ∧
      (∃ r ∈ s.ledger.records, ∃ r', t.ledger.find? r.tokenId = some r' ∧ r'.owner = user ∧
        r'.revoked = true) ∧
      (∃ fault, (t.run (program codec) (List.replicate 8 (.step 1))).threads[1]? =
        some ⟨.rotate token, .done (.error fault)⟩) ∧
      ∃ r ∈ t.ledger.records, r.owner = user ∧ r.revoked = false ∧
        ∃ first ∈ t.ledger.records, Relation.ReflTransGen t.ledger.Follows first r ∧
          (∀ parent ∈ t.ledger.records, parent.replacedBy ≠ some first.tokenId) ∧
          s.ledger.find? first.tokenId = none := by
  intro secret codec user moment directory
  let keys : KeyMaterial := ⟨secret, none, none, none⟩
  have made : Codec.make keys ⟨"login", .standard, .standard⟩ = .ok codec := rfl
  have paired : keys.IsPaired := fun _ _ _ signing => nomatch signing
  have mintable : ∀ id, ∃ token claims, codec.mintRefresh moment.now user.toText id =
      .ok (token, claims) ∧ claims.expiresAt = ⟨604800, 0, by decide, by decide, by decide⟩ :=
    Codec.exists_mintRefresh (fun _ => ⟨_, rfl⟩) (by decide) (by decide) (by decide) (by decide) rfl
  obtain ⟨token, r, named, own, minted, only, calm, -, issued⟩ :=
    exists_first_token made paired user moment directory .counting ⟨_, rfl, rfl⟩ mintable
      (by decide) (by decide)
  let drawn (n : Nat) : TokenId := TokenId.random (Supply.counting.source n)
  have distinct : drawn 0 ≠ drawn 2 ∧ drawn 0 ≠ drawn 4 := by decide
  let w (n : Nat) (l : Ledger) : World := ⟨l, directory, moment, ⟨Supply.counting.source, n⟩⟩
  let x : Thread Request Outcome := ⟨.issue user, .done (.ok (.issued ⟨token, r⟩))⟩
  have found : Ledger.find? ⟨[r]⟩ r.tokenId = some r := by rw [find?_singleton, if_pos rfl]
  have free : Ledger.find? ⟨[r]⟩ (drawn 2) = none := by
    rw [find?_singleton, named]
    exact if_neg distinct.1
  have quiet : ∀ thread ∈ [x], ¬ thread.rest.Holds (drawn 2) := by
    intro thread member
    rw [List.mem_singleton.mp member]
    exact not_false
  have calm₂ : Calm codec r (w 2 ⟨[r]⟩) := calm _ rfl rfl
  obtain ⟨account, successor, child, -, checked⟩ :=
    reaches_check made paired minted calm₂ found free quiet
  let writing : Thread Request Outcome :=
    ⟨.rotate token, committing r.tokenId account successor child⟩
  let logout : Thread Request Outcome := ⟨.revokeAll user, program codec (.revokeAll user)⟩
  obtain ⟨token', claims, mints, -⟩ := mintable (drawn 4)
  let young : Record := .active ⟨(w 5 ⟨[r]⟩).drawTimed.1⟩ user (drawn 4) claims.issuedAt
    claims.expiresAt
  let out : Thread Request Outcome :=
    ⟨.revokeAll user, .done (.ok (.revoked (Ledger.revokeAll ⟨[r]⟩ user).1))⟩
  let renewed : Thread Request Outcome := ⟨.issue user, .done (.ok (.issued ⟨token', young⟩))⟩
  let l : Ledger := ⟨[Ledger.revoke user r]⟩
  refine ⟨token, ?_⟩
  intro before after
  have first : (Traffic.start moment .counting : Service).run (program codec) before =
      ⟨w 4 ⟨[r]⟩, [x, writing, logout]⟩ := by
    change Traffic.run _ _ (_ ++ _) = _
    rw [Traffic.run_append, List.cons_append, Traffic.run_cons, issued, Traffic.run_append]
    change Traffic.run _ (Traffic.run (program codec) ⟨w 2 ⟨[r]⟩, [x]⟩
      (.arrive (.rotate token) :: List.replicate 7 (.step [x].length))) _ = _
    rw [checked.ends]
    rfl
  have stored : l.insert young = .ok ⟨[Ledger.revoke user r, young]⟩ := by
    refine (Ledger.insert_ok_iff _ _ _).mpr ⟨?_, rfl⟩
    rw [find?_singleton, Ledger.tokenId_revoke, named]
    exact if_neg distinct.2
  have last : Traffic.run (program codec) (Traffic.next (program codec)
      ⟨w 4 ⟨[r]⟩, [x, writing, logout]⟩ (.step 2)) after =
        ⟨w 6 ⟨[Ledger.revoke user r, young]⟩, [x, writing, out, renewed]⟩ := by
    have landed : Traffic.next (program codec) ⟨w 4 ⟨[r]⟩, [x, writing, logout]⟩ (.step 2) =
        ⟨w 4 l, [x, writing, out]⟩ := step_revokeAll rfl
    change Traffic.run (program codec) _ (.arrive (.issue user) ::
      List.replicate 4 (.step [x, writing, out].length)) = _
    rw [landed]
    exact run_issued [x, writing, out] (w := w 4 l) mints stored
  have barrier := logout_is_a_barrier codec moment .counting before after 2 user
  dsimp only at barrier ⊢
  rw [first, last] at barrier
  rw [first, last]
  obtain ⟨revoked, failing, younger⟩ := barrier rfl
  have uncommitted : ∀ reply, [x, writing, logout][1]? ≠
      some ⟨.rotate token, .done (.ok reply)⟩ := by
    intro reply present
    have same := congrArg Thread.rest (Option.some.inj present)
    cases same
  have held : r ∈ [r] := List.mem_singleton_self r
  have member : young ∈ [Ledger.revoke user r, young] := List.mem_cons_of_mem _ List.mem_cons_self
  have fails := (failing r held own token only 1 uncommitted _ rfl).2
  exact ⟨rfl, ⟨r, held, revoked r held own⟩, fails (List.replicate 8 (.step 1)) (by decide), young,
    member, rfl, rfl, younger young member rfl rfl⟩

end SessionTokens.Rotation
