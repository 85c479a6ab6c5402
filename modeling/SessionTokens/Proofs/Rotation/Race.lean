import SessionTokens.Proofs.Rotation.Exclusion
import SessionTokens.Proofs.Rotation.Opening

set_option autoImplicit false

namespace SessionTokens.Rotation

variable {codec : Codec} {token : String} {r : Record} {l l' : Ledger} {request : Request}
  {t t' : Service} {event : Event Request} {keys : KeyMaterial} {settings : CodecSettings}

/-- The records that exchanges of the token add in a run. -/
abbrev added (codec : Codec) (token : String) : Service → List (Event Request) → List Record :=
  Traffic.added (program codec) fun request => request = .rotate token

theorem added_cons (codec : Codec) (token : String) (t : Service) (event : Event Request)
    (events : List (Event Request)) :
    added codec token t (event :: events) = addedBy token event t (t.next (program codec) event) ++
      added codec token (t.next (program codec) event) events := rfl

theorem Racing.next_of_favours (racing : Racing codec token r t)
    (made : Codec.make keys settings = .ok codec) (paired : keys.IsPaired)
    (minted : Minted codec r.owner token r) {events : List (Event Request)}
    (favours : Favours codec token r t (event :: events)) :
    t.Move (program codec) (Exchanging codec token r) event (t.next (program codec) event) ∧
      Racing codec token r (t.next (program codec) event) := by
  apply racing.next made paired minted event favours.calm.1 favours.unused.1
  intro request arrived
  apply favours.harmless
  rw [arrived]
  exact List.mem_cons_self

theorem Decided.run {k : Nat} {w : Rotated} (decided : Decided token r k w t)
    (racing : Racing codec token r t) (made : Codec.make keys settings = .ok codec)
    (paired : keys.IsPaired) (minted : Minted codec r.owner token r)
    {events : List (Event Request)} (favours : Favours codec token r t events) :
    Decided token r k w (t.run (program codec) events) ∧ added codec token t events = [] := by
  induction events generalizing t with
  | nil => exact ⟨decided, rfl⟩
  | cons event events ih =>
    obtain ⟨moved, racing'⟩ := racing.next_of_favours made paired minted favours
    obtain ⟨decided', nothing⟩ := decided.move moved
    obtain ⟨final, none⟩ := ih decided' racing' favours.tail
    refine ⟨final, ?_⟩
    rw [added_cons, nothing, none, List.append_nil]

theorem Undecided.run (undecided : Undecided token r t) (racing : Racing codec token r t)
    (active : r.revoked = false) (made : Codec.make keys settings = .ok codec)
    (paired : keys.IsPaired) (minted : Minted codec r.owner token r)
    {events : List (Event Request)} (favours : Favours codec token r t events) :
    Undecided token r (t.run (program codec) events) ∨
      ∃ k w, Decided token r k w (t.run (program codec) events) ∧
        added codec token t events = [w.record] := by
  induction events generalizing t with
  | nil => exact Or.inl undecided
  | cons event events ih =>
    obtain ⟨moved, racing'⟩ := racing.next_of_favours made paired minted favours
    rcases undecided.move racing active moved with ⟨still, nothing⟩ | ⟨k, w, decided, one⟩
    · rcases ih still racing' favours.tail with final | ⟨k, w, final, one⟩
      · exact Or.inl final
      · refine Or.inr ⟨k, w, final, ?_⟩
        rw [added_cons, nothing, one, List.nil_append]
    · obtain ⟨final, none⟩ := decided.run racing' made paired minted favours.tail
      refine Or.inr ⟨k, w, final, ?_⟩
      rw [added_cons, one, none, List.append_nil]

/-- A token that nobody has presented before. -/
theorem racing_of_returned (orderly : Orderly codec t) (found : t.ledger.find? r.tokenId = some r)
    (unpresented : ∀ thread ∈ t.threads, ∀ other, thread.request = .rotate other →
      other ≠ token ∧ ¬ Reads codec other r.tokenId)
    (standing : ∀ thread ∈ t.threads, thread.request = .revokeAll r.owner →
      ∃ outcome, thread.rest = .done outcome) :
    Racing codec token r t ∧ Undecided token r t := by
  refine ⟨⟨?_, ?_, ⟨r, found, .refl r⟩, ?_⟩, found, ?_⟩
  · intro thread member
    have other : thread.request ≠ .rotate token := by
      intro same
      exact (unpresented thread member token same).1 rfl
    have settling : thread.rest.Upholds (eased codec token r thread.request)
        (fun l l' rest => thread.request = .rotate token → Settling r l l' rest) t.ledger := by
      apply Program.Upholds.of_forall
      intro l l' rest same
      exact absurd same other
    exact (orderly thread member).and settling (fun _ _ kept => kept) (fun _ _ _ _ both => both.1)
  · intro k thread present own
    exact absurd rfl (unpresented thread (List.mem_of_getElem? present) token own).1
  · intro thread member
    by_cases logout : thread.request = .revokeAll r.owner
    · exact Or.inr (standing thread member logout)
    · refine Or.inl ⟨?_, logout⟩
      intro other presents
      exact Or.inr (unpresented thread member other presents).2
  · intro k outcome present
    exact (unpresented _ (List.mem_of_getElem? present) token rfl).1 rfl

/-- Of the requests to exchange tokens that state one identifier at most one ever succeeds. If all
of them present the token that the service returned with the identifier, and nothing else stands in
the way, then once they have ended one has succeeded, the others lost to it, and the one record that
they added has taken the place of the token's. -/
theorem one_exchange_succeeds (codec : Codec) (moment : Moment) (supply : Supply)
    (past : List (Event Request)) :
    let s := (Traffic.start moment supply : Service).run (program codec) past
    (∀ (id : TokenId) (a b : String) (i k : Nat) (x y : Reply),
      ReadsOnly codec a id → ReadsOnly codec b id →
      s.threads[i]? = some ⟨.rotate a, .done (.ok x)⟩ →
      s.threads[k]? = some ⟨.rotate b, .done (.ok y)⟩ → i = k) ∧
    ∀ (keys : KeyMaterial) (settings : CodecSettings) (i : Nat) (token : String) (r : Record)
      (future : List (Event Request)),
      let s₁ := s.next (program codec) (.step i)
      let t := s₁.run (program codec) future
      Codec.make keys settings = .ok codec → keys.IsPaired → Returns s s₁ i token r →
      (∀ thread ∈ s₁.threads, ∀ other, thread.request = .rotate other →
        other ≠ token ∧ ¬ Reads codec other r.tokenId) →
      (∀ thread ∈ s₁.threads, thread.request = .revokeAll r.owner →
        ∃ outcome, thread.rest = .done outcome) →
      Favours codec token r s₁ future →
      (∃ thread ∈ t.threads, thread.request = .rotate token) →
      (∀ thread ∈ t.threads, thread.request = .rotate token →
        ∃ outcome, thread.rest = .done outcome) →
      ∃ (k : Nat) (w : Rotated) (parent child : Record),
        t.threads[k]? = some ⟨.rotate token, .done (.ok (.rotated w))⟩ ∧
        (∀ (j : Nat) (rest : Program Outcome), j ≠ k → t.threads[j]? = some ⟨.rotate token, rest⟩ →
          rest = .done (.error (.refused .tokenReplayed)) ∨
          rest = .done (.error (.refused .concurrentRotation))) ∧
        added codec token s₁ future = [w.record] ∧
        t.ledger.find? r.tokenId = some parent ∧ parent.replacedBy = some w.record.tokenId ∧
        t.ledger.find? w.record.tokenId = some child ∧ w.record.Ages child := by
  intro s
  refine ⟨?_, ?_⟩
  · intro id a b i k x y onlyA onlyB first second
    exact (exclusive_run codec id moment supply past).unique i k ⟨a, x, onlyA, first⟩
      ⟨b, y, onlyB, second⟩
  · intro keys settings i token r future s₁ t made paired returns unpresented standing favours some_
      all
    have orderly : Orderly codec s := (orderly_start moment supply).run past
    have moved := orderly.next (.step i)
    obtain ⟨minted, found⟩ := returns.minted moved.1
    have active : r.revoked = false := minted.isNew.1.1
    obtain ⟨racing, undecided⟩ := racing_of_returned moved.2 found unpresented standing
    rcases undecided.run racing active made paired minted favours with none | ⟨k, w, decided, one⟩
    · obtain ⟨thread, member, own⟩ := some_
      obtain ⟨outcome, done⟩ := all thread member own
      obtain ⟨j, present⟩ := List.mem_iff_getElem?.mp member
      have ended : thread = ⟨.rotate token, .done outcome⟩ := by
        rw [← own, ← done]
      rw [ended] at present
      exact absurd present (none.running j outcome)
    · obtain ⟨parent, place, -, replaced⟩ := decided.parent
      obtain ⟨child, childPlace, ages⟩ := decided.child
      refine ⟨k, w, parent, child, decided.winner, ?_, one, place, replaced, childPlace, ages⟩
      intro j rest other present
      obtain ⟨outcome, done⟩ := all _ (List.mem_of_getElem? present) rfl
      obtain rfl : rest = .done outcome := done
      rcases decided.losers j other outcome present with replayed | concurrent
      · exact Or.inl (congrArg _ replayed)
      · exact Or.inr (congrArg _ concurrent)

/-- Two exchanges that both find the record unrevoked. -/
theorem one_of_two_exchanges_succeeds :
    let secret : List UInt8 := List.replicate 32 7
    let codec : Codec := ⟨.secret secret, [.secret secret], ⟨"login", .standard, .standard⟩⟩
    let user : UserId := ⟨⟨7⟩⟩
    let moment : Moment := ⟨⟨0, 0, by decide, by decide, by decide⟩, 0⟩
    let directory : Directory := ⟨[⟨user, "alice", "alice@example.org", "", [], true, moment.now⟩]⟩
    let past : List (Event Request) :=
      [.enroll directory, .arrive (.issue user), .step 0, .step 0, .step 0]
    let s := (Traffic.start moment .counting : Service).run (program codec) past
    let s₁ := s.next (program codec) (.step 0)
    ∃ token r, Returns s s₁ 0 token r ∧
      let t := s₁.run (program codec) (race token)
      ∃ (k : Nat) (w : Rotated), t.threads[k]? = some ⟨.rotate token, .done (.ok (.rotated w))⟩ ∧
        added codec token s₁ (race token) = [w.record] ∧
        ∀ (i : Nat) (reply : Reply),
          t.threads[i]? = some ⟨.rotate token, .done (.ok reply)⟩ → i = k := by
  intro secret codec user moment directory past s s₁
  let keys : KeyMaterial := ⟨secret, none, none, none⟩
  have made : Codec.make keys ⟨"login", .standard, .standard⟩ = .ok codec := rfl
  have paired : keys.IsPaired := fun _ _ _ signing => nomatch signing
  have mintable : ∀ id, ∃ token claims, codec.mintRefresh moment.now user.toText id =
      .ok (token, claims) ∧ claims.expiresAt = ⟨604800, 0, by decide, by decide, by decide⟩ :=
    Codec.exists_mintRefresh (fun _ => ⟨_, rfl⟩) (by decide) (by decide) (by decide) (by decide) rfl
  obtain ⟨token, r, named, -, minted, only, calm, before, after⟩ :=
    exists_first_token made paired user moment directory .counting ⟨_, rfl, rfl⟩ mintable
      (by decide) (by decide)
  change s = _ at before
  change s₁ = ⟨⟨⟨[r]⟩, directory, moment, ⟨Supply.counting.source, 2⟩⟩,
    [⟨.issue user, .done (.ok (.issued ⟨token, r⟩))⟩]⟩ at after
  have returns : Returns s s₁ 0 token r := by
    rw [after, before]
    exact ⟨_, _, _, _, rfl, rfl, Or.inl rfl⟩
  let drawn (n : Nat) : TokenId := TokenId.random (Supply.counting.source n)
  have distinct : drawn 0 ≠ drawn 2 ∧ drawn 0 ≠ drawn 4 ∧ drawn 2 ≠ drawn 4 := by decide
  have free : ∀ id, drawn 0 ≠ id → Ledger.find? ⟨[r]⟩ id = none := by
    intro id other
    rw [find?_singleton, named]
    exact if_neg other
  have found : Ledger.find? ⟨[r]⟩ r.tokenId = some r := by rw [find?_singleton, if_pos rfl]
  obtain ⟨w, a, b, reaches⟩ := reaches_race (x := ⟨.issue user, .done (.ok (.issued ⟨token, r⟩))⟩)
    (w := ⟨⟨[r]⟩, directory, moment, ⟨Supply.counting.source, 2⟩⟩) made paired minted calm found
    (fun _ => not_false) rfl (free _ distinct.1) (free _ distinct.2.1) distinct.2.2
  have threads : s₁.threads = [⟨.issue user, .done (.ok (.issued ⟨token, r⟩))⟩] :=
    congrArg Traffic.threads after
  rw [← after] at reaches
  refine ⟨token, r, returns, ?_⟩
  intro t
  have ends : t.threads = _ := congrArg Traffic.threads reaches.ends
  have unpresented : ∀ thread ∈ s₁.threads, ∀ other, thread.request = .rotate other →
      other ≠ token ∧ ¬ Reads codec other r.tokenId := by
    rw [threads]
    intro thread member other same
    rw [List.mem_singleton.mp member] at same
    cases same
  have standing : ∀ thread ∈ s₁.threads, thread.request = .revokeAll r.owner →
      ∃ outcome, thread.rest = .done outcome := by
    rw [threads]
    intro thread member _
    rw [List.mem_singleton.mp member]
    exact ⟨_, rfl⟩
  have present : ∃ thread ∈ t.threads, thread.request = .rotate token := by
    rw [ends]
    exact ⟨_, List.mem_cons_of_mem _ List.mem_cons_self, rfl⟩
  have done : ∀ thread ∈ t.threads, thread.request = .rotate token →
      ∃ outcome, thread.rest = .done outcome := by
    rw [ends]
    simp only [List.forall_mem_cons]
    exact ⟨fun _ => ⟨_, rfl⟩, fun _ => ⟨_, rfl⟩, fun _ => ⟨_, rfl⟩, fun _ member => nomatch member⟩
  obtain ⟨k, w, -, -, winner, -, one, -⟩ :=
    (one_exchange_succeeds codec moment .counting past).2 keys _ 0 token r (race token) made paired
      returns unpresented standing reaches.favours present done
  refine ⟨k, w, winner, one, ?_⟩
  intro i reply succeeded
  have exclusive := (one_exchange_succeeds codec moment .counting (past ++ .step 0 :: race token)).1
  rw [Traffic.run_append, Traffic.run_cons] at exclusive
  exact exclusive r.tokenId token token i k reply (.rotated w) only only succeeded winner

/-- Without a matching pair of keys an exchange can fail although nothing stands in its way and it is
the only one. -/
theorem first_exchange_with_unpaired_key :
    let codec : Codec := Sample.unpairedCodec
    let past : List (Event Request) :=
      [.enroll Sample.directory, .arrive (.issue Sample.user), .step 0, .step 0, .step 0]
    let s := (Traffic.start Sample.moment .counting : Service).run (program codec) past
    let s₁ := s.next (program codec) (.step 0)
    Codec.make (Unpaired.keys Sample.keys.secret) Sample.settings = .ok codec ∧
    ∃ token r e, Returns s s₁ 0 token r ∧
      let future : List (Event Request) := [.arrive (.rotate token), .step 1]
      s₁.threads.map Thread.request = [.issue Sample.user] ∧ Favours codec token r s₁ future ∧
      (s₁.run (program codec) future).threads =
        s₁.threads ++ [⟨.rotate token, .done (.error (.refused e))⟩] := by
  intro codec past s s₁
  obtain ⟨token, r, -, -, -, unread, calm, before, after⟩ := Sample.exists_first_unread
  obtain ⟨e, refused⟩ := unread Sample.moment
  let issued : Thread Request Outcome := ⟨.issue Sample.user, .done (.ok (.issued ⟨token, r⟩))⟩
  let w : World := ⟨⟨[r]⟩, Sample.directory, Sample.moment, ⟨Supply.counting.source, 2⟩⟩
  change s.threads = _ at before
  change s₁ = ⟨w, [issued]⟩ at after
  have threads : s₁.threads = [issued] := congrArg Traffic.threads after
  have returns : Returns s s₁ 0 token r := by
    rw [Returns, before, threads]
    exact ⟨_, _, _, _, rfl, rfl, Or.inl rfl⟩
  have reaches : Reaches codec token r ⟨w, [issued]⟩ [.arrive (.rotate token), .step 1]
      ⟨w, [issued] ++ [⟨.rotate token, .done (.error (.refused e))⟩]⟩ :=
    reaches_refused (calm w rfl rfl) refused
  rw [← after] at reaches
  refine ⟨Sample.made_unpaired, token, r, e, returns, ?_, reaches.favours, ?_⟩
  · rw [threads]
    rfl
  · rw [threads]
    exact congrArg Traffic.threads reaches.ends

end SessionTokens.Rotation
