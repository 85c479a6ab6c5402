import SessionTokens.Proofs.Rotation.Contest

set_option autoImplicit false

namespace SessionTokens.Rotation

variable {codec : Codec} {token : String} {r : Record} {keys : KeyMaterial}
  {settings : CodecSettings}

/-- A request for a first token that arrives and is left to itself comes to its write in three
steps. -/
theorem run_storing (threads : List (Thread Request Outcome)) {w : World} {user : UserId}
    {claims : Claims} (mints : codec.mintRefresh w.moment.now user.toText
      (TokenId.random w.draw.1) = .ok (token, claims)) :
    (⟨w, threads⟩ : Service).run (program codec) (.arrive (.issue user) ::
        List.replicate 3 (.step threads.length)) =
      ⟨w.draw.2.drawTimed.2, threads ++ [⟨.issue user, storing token
        (.active ⟨w.draw.2.drawTimed.1⟩ user (TokenId.random w.draw.1) claims.issuedAt
          claims.expiresAt)⟩]⟩ := by
  have arrived : Traffic.next (program codec) ⟨w, threads⟩ (.arrive (.issue user)) =
      ⟨w, threads ++ [⟨.issue user, minting codec user storing⟩]⟩ := by
    rw [← program_issue]
    rfl
  change Traffic.run _ _ [_, .step threads.length, .step threads.length, .step threads.length] = _
  have mints' : codec.mintRefresh w.draw.2.moment.now user.toText (TokenId.random w.draw.1) =
      .ok (token, claims) := mints
  rw [Traffic.run_cons, arrived, minting, Traffic.run_cons, Traffic.next_last, Traffic.run_cons,
    Traffic.next_last]
  simp only [World.answer, mints']
  rw [Traffic.run_cons, Traffic.next_last]
  rfl

theorem next_storing (codec : Codec) (token : String) (user : UserId)
    (threads : List (Thread Request Outcome)) {w : World} {l : Ledger}
    (stored : w.ledger.insert r = .ok l) :
    Traffic.next (program codec) ⟨w, threads ++ [⟨.issue user, storing token r⟩]⟩
        (.step threads.length) =
      ⟨{ w with ledger := l }, threads ++ [⟨.issue user, .done (.ok (.issued ⟨token, r⟩))⟩]⟩ := by
  rw [storing, Traffic.next_last]
  simp only [World.answer, Ledger.answer, stored, commit]

/-- With its write it ends. -/
theorem run_issued (threads : List (Thread Request Outcome)) {w : World} {user : UserId}
    {claims : Claims} {l : Ledger} (mints : codec.mintRefresh w.moment.now user.toText
      (TokenId.random w.draw.1) = .ok (token, claims))
    (stored : w.draw.2.drawTimed.2.ledger.insert (.active ⟨w.draw.2.drawTimed.1⟩ user
      (TokenId.random w.draw.1) claims.issuedAt claims.expiresAt) = .ok l) :
    (⟨w, threads⟩ : Service).run (program codec) (.arrive (.issue user) ::
        List.replicate 4 (.step threads.length)) =
      ⟨{ w.draw.2.drawTimed.2 with ledger := l }, threads ++ [⟨.issue user, .done (.ok (.issued
        ⟨token, .active ⟨w.draw.2.drawTimed.1⟩ user (TokenId.random w.draw.1) claims.issuedAt
          claims.expiresAt⟩))⟩]⟩ := by
  have stages : (.arrive (.issue user) :: List.replicate 4 (.step threads.length) :
      List (Event Request)) = (.arrive (.issue user) :: List.replicate 3 (.step threads.length)) ++
        [.step threads.length] := rfl
  rw [stages, Traffic.run_append, run_storing threads mints, Traffic.run_cons,
    next_storing codec token user threads stored]
  rfl

/-- Undisturbed, the events lead from one state to the other. -/
structure Reaches (codec : Codec) (token : String) (r : Record) (t : Service)
    (events : List (Event Request)) (t' : Service) : Prop where
  favours : Favours codec token r t events
  ends : t.run (program codec) events = t'

theorem Reaches.nil (t : Service) : Reaches codec token r t [] t :=
  ⟨⟨trivial, trivial, fun _ member => nomatch member⟩, rfl⟩

theorem Reaches.cons {t t' : Service} {event : Event Request} {events : List (Event Request)}
    (calm : ∀ i, event = .step i → Calm codec r t.world)
    (unused : ∀ i, event = .step i → t.DrawsUnused i)
    (harmless : ∀ request, event = .arrive request → Harmless codec token r request)
    (later : Reaches codec token r (t.next (program codec) event) events t') :
    Reaches codec token r t (event :: events) t' := by
  refine ⟨⟨⟨calm, later.favours.calm⟩, ⟨unused, later.favours.unused⟩, ?_⟩, later.ends⟩
  intro request member
  rcases List.mem_cons.mp member with same | inside
  · exact harmless request same.symm
  · exact later.favours.harmless request inside

theorem Reaches.append {t u v : Service} {first second : List (Event Request)}
    (reaches : Reaches codec token r t first u) (further : Reaches codec token r u second v) :
    Reaches codec token r t (first ++ second) v := by
  induction first generalizing t with
  | nil =>
    obtain rfl : t = u := reaches.ends
    exact further
  | cons event first ih =>
    refine .cons reaches.favours.calm.1 reaches.favours.unused.1 ?_
      (ih ⟨reaches.favours.tail, reaches.ends⟩)
    intro request arrived
    apply reaches.favours.harmless
    rw [arrived]
    exact List.mem_cons_self

variable {threads : List (Thread Request Outcome)} {i : Nat} {w : World} {t' : Service}
  {events : List (Event Request)}

theorem Reaches.step (inside : i < threads.length) (calm : Calm codec r w) {request : Request}
    {e : Effect} {next : e.Answer → Program Outcome}
    (unused : e = .newTokenId → Traffic.Unused ⟨w, threads.set i ⟨request, .perform e next⟩⟩
      (TokenId.random w.draw.1))
    (later : Reaches codec token r
      ⟨(w.answer e).2, threads.set i ⟨request, next (w.answer e).1⟩⟩ events t') :
    Reaches codec token r ⟨w, threads.set i ⟨request, .perform e next⟩⟩ (.step i :: events) t' := by
  have present : (threads.set i ⟨request, .perform e next⟩)[i]? =
      some ⟨request, .perform e next⟩ := List.getElem?_set_self inside
  refine .cons (fun _ _ => calm) ?_ (fun _ same => nomatch same) ?_
  · intro j stepped asked draw present'
    rw [← Event.step.inj stepped, present] at present'
    have same := congrArg Thread.rest (Option.some.inj present')
    exact unused (Program.perform.inj same).1
  · rw [Traffic.next_set (program codec) inside]
    exact later

theorem Reaches.arrive (later : Reaches codec token r
      ⟨w, threads ++ [⟨.rotate token, presenting codec token⟩]⟩ events t') :
    Reaches codec token r ⟨w, threads⟩ (.arrive (.rotate token) :: events) t' := by
  refine .cons (fun _ same => nomatch same) (fun _ same => nomatch same) ?_ ?_
  · intro request same
    rw [← Event.arrive.inj same]
    exact ⟨fun _ other => Or.inl (Request.rotate.inj other).symm, fun other => nomatch other⟩
  · change Reaches codec token r ⟨w, threads ++ [⟨_, program codec (.rotate token)⟩]⟩ _ _
    rw [program_rotate]
    exact later

/-- An exchange on its own comes to its write in seven steps. -/
theorem reaches_committing (made : Codec.make keys settings = .ok codec) (paired : keys.IsPaired)
    (minted : Minted codec r.owner token r) (inside : i < threads.length) (calm : Calm codec r w)
    (found : w.ledger.find? r.tokenId = some r)
    (unused : w.ledger.find? (TokenId.random w.draw.1) = none ∧ ∀ thread ∈ threads,
      ¬ thread.rest.Holds (TokenId.random w.draw.1)) :
    ∃ account successor child, child.tokenId = TokenId.random w.draw.1 ∧
      Reaches codec token r ⟨w, threads.set i ⟨.rotate token, presenting codec token⟩⟩
        (List.replicate 7 (.step i)) ⟨w.draw.2.drawTimed.2,
          threads.set i ⟨.rotate token, committing r.tokenId account successor child⟩⟩ := by
  obtain ⟨subject, stated, read⟩ := presented_of_minted made paired minted calm.future calm.host
  obtain ⟨account, present, enabled⟩ := calm.enabled
  have own : account.id = r.owner := Directory.id_of_find? present
  have active : r.revoked = false := minted.isNew.1.1
  obtain ⟨⟨successor, claims⟩, mints⟩ := calm.mintable (TokenId.random w.draw.1)
  have current : ¬ r.expiresAt ≤ w.moment.now := Instant.not_le.mpr calm.future
  have mints' : codec.mintRefresh w.draw.2.moment.now r.owner.toText (TokenId.random w.draw.1) =
      .ok (successor, claims) := mints
  have calm' : Calm codec r w.draw.2 := ⟨calm.future, calm.host, calm.enabled, calm.mintable⟩
  refine ⟨account, successor, .active ⟨w.draw.2.drawTimed.1⟩ account.id (TokenId.random w.draw.1)
    claims.issuedAt claims.expiresAt, rfl, ?_⟩
  refine .step inside calm (by simp) ?_
  simp only [World.answer, stated]
  rw [resolving, read]
  refine .step inside calm (by simp) ?_
  simp only [World.answer, Directory.answer, present, Option.filter_some, enabled, if_true]
  refine .step inside calm (by simp) ?_
  simp only [World.answer, Ledger.answer, found, usable_of_stands own, active, Bool.false_eq_true,
    if_false]
  refine .step inside calm (by simp) ?_
  simp only [World.answer, current, if_false]
  refine .step inside calm (fun _ => ⟨unused.1, ?_⟩) ?_
  · intro thread member
    rcases List.mem_or_eq_of_mem_set member with old | rfl
    · exact unused.2 thread old
    · exact not_holds_minting fun _ _ => tokenId_of_holds_committing
  simp only [World.answer]
  refine .step inside calm' (by simp) ?_
  simp only [World.answer, own, mints']
  refine .step inside calm' (by simp) ?_
  exact .nil _

/-- So an exchange that arrives and is left to itself is checked and comes to its write. -/
theorem reaches_check (made : Codec.make keys settings = .ok codec) (paired : keys.IsPaired)
    (minted : Minted codec r.owner token r) (calm : Calm codec r w)
    (found : w.ledger.find? r.tokenId = some r)
    (free : w.ledger.find? (TokenId.random w.draw.1) = none)
    (quiet : ∀ thread ∈ threads, ¬ thread.rest.Holds (TokenId.random w.draw.1)) :
    ∃ account successor child, child.tokenId = TokenId.random w.draw.1 ∧
      Reaches codec token r ⟨w, threads⟩ (.arrive (.rotate token) ::
        List.replicate 7 (.step threads.length)) ⟨w.draw.2.drawTimed.2,
          threads ++ [⟨.rotate token, committing r.tokenId account successor child⟩]⟩ := by
  let waiting : Thread Request Outcome := ⟨.rotate token, presenting codec token⟩
  have inside : threads.length < (threads ++ [waiting]).length := by
    rw [List.length_append]
    exact Nat.lt_succ_self _
  have quiet' : ∀ thread ∈ threads ++ [waiting], ¬ thread.rest.Holds (TokenId.random w.draw.1) := by
    intro thread member
    rcases List.mem_append.mp member with old | new
    · exact quiet thread old
    · rw [List.mem_singleton.mp new]
      exact not_holds_presenting token _
  obtain ⟨account, successor, child, named, reaches⟩ :=
    reaches_committing made paired minted inside calm found ⟨free, quiet'⟩
  refine ⟨account, successor, child, named, ?_⟩
  rw [Traffic.set_last, Traffic.set_last] at reaches
  exact .arrive reaches

/-- An exchange of a token that is not read ends when it has asked for the time. -/
theorem reaches_refused (calm : Calm codec r w) {e : RotationError}
    (unread : presented codec w.moment token = .error e) :
    Reaches codec token r ⟨w, threads⟩ [.arrive (.rotate token), .step threads.length]
      ⟨w, threads ++ [⟨.rotate token, .done (.error (.refused e))⟩]⟩ := by
  let waiting : Thread Request Outcome := ⟨.rotate token, presenting codec token⟩
  have inside : threads.length < (threads ++ [waiting]).length := by
    rw [List.length_append]
    exact Nat.lt_succ_self _
  have ended : Reaches codec token r
      ⟨w, (threads ++ [waiting]).set threads.length ⟨.rotate token, presenting codec token⟩⟩
      [.step threads.length] ⟨w, (threads ++ [waiting]).set threads.length
        ⟨.rotate token, .done (.error (.refused e))⟩⟩ := by
    refine .step inside calm (fun same => nomatch same) ?_
    simp only [World.answer, unread]
    exact .nil _
  rw [Traffic.set_last, Traffic.set_last] at ended
  exact .arrive ended

/-- The write ends an exchange. -/
theorem reaches_done (token : String) (inside : i < threads.length) (calm : Calm codec r w)
    (old : TokenId) (account : Account) (successor : String) (child : Record) :
    ∃ outcome, Reaches codec token r
      ⟨w, threads.set i ⟨.rotate token, committing old account successor child⟩⟩ [.step i]
      ⟨(w.answer (.ledger (.rotate old child))).2,
        threads.set i ⟨.rotate token, .done outcome⟩⟩ := by
  obtain ⟨outcome, done⟩ := (committing_endsWithin old account successor child
    (w.answer (.ledger (.rotate old child))).1).exists_done
  refine ⟨outcome, .step inside calm (fun same => nomatch same) ?_⟩
  dsimp only at done
  rw [done]
  exact .nil _

/-- Two exchanges that are both checked before either writes. -/
def race (token : String) : List (Event Request) :=
  (.arrive (.rotate token) :: List.replicate 7 (.step 1)) ++
    ((.arrive (.rotate token) :: List.replicate 7 (.step 2)) ++ ([.step 1] ++ [.step 2]))

/-- When nothing stands in the way of them, both end. -/
theorem reaches_race (made : Codec.make keys settings = .ok codec) (paired : keys.IsPaired)
    (minted : Minted codec r.owner token r)
    (calm : ∀ w', w'.moment = w.moment → w'.directory = w.directory → Calm codec r w')
    (found : w.ledger.find? r.tokenId = some r) {x : Thread Request Outcome}
    (idle : ∀ c, ¬ x.rest.Holds c) {w' : World} (later : w.draw.2.drawTimed.2 = w')
    (free : w.ledger.find? (TokenId.random w.draw.1) = none)
    (free' : w.ledger.find? (TokenId.random w'.draw.1) = none)
    (distinct : TokenId.random w.draw.1 ≠ TokenId.random w'.draw.1) :
    ∃ w'' a b, Reaches codec token r ⟨w, [x]⟩ (race token)
      ⟨w'', [x, ⟨.rotate token, .done a⟩, ⟨.rotate token, .done b⟩]⟩ := by
  subst later
  let w₁ : World := w.draw.2.drawTimed.2
  let w₂ : World := w₁.draw.2.drawTimed.2
  have quiet : ∀ thread ∈ [x], ¬ thread.rest.Holds (TokenId.random w.draw.1) := by
    intro thread member
    rw [List.mem_singleton.mp member]
    exact idle _
  obtain ⟨account, successor, child, named, first⟩ :=
    reaches_check made paired minted (calm w rfl rfl) found free quiet
  let writing : Thread Request Outcome :=
    ⟨.rotate token, committing r.tokenId account successor child⟩
  have quiet' : ∀ thread ∈ [x, writing], ¬ thread.rest.Holds (TokenId.random w₁.draw.1) := by
    simp only [List.forall_mem_cons]
    refine ⟨idle _, ?_, fun _ member => nomatch member⟩
    intro holds
    rw [← tokenId_of_holds_committing holds, named] at distinct
    exact distinct rfl
  obtain ⟨account', successor', child', -, second⟩ :=
    reaches_check made paired minted (calm w₁ rfl rfl) found free' quiet'
  let writing' : Thread Request Outcome :=
    ⟨.rotate token, committing r.tokenId account' successor' child'⟩
  have inside : 1 < [x, writing, writing'].length := by simp
  obtain ⟨a, third⟩ := reaches_done token inside (calm w₂ rfl rfl) r.tokenId account successor child
  let w₃ : World := (w₂.answer (.ledger (.rotate r.tokenId child))).2
  have inside' : 2 < [x, ⟨.rotate token, .done a⟩, writing'].length := by simp
  obtain ⟨b, fourth⟩ := reaches_done token inside' (calm w₃ rfl rfl) r.tokenId account' successor'
    child'
  exact ⟨_, a, b, first.append (second.append (third.append fourth))⟩

/-- The first request of all is for a first token: the states before its write and after it, and a
calm world for the exchange of the token. -/
theorem exists_first_issue (codec : Codec) (user : UserId) (moment : Moment) (directory : Directory)
    (supply : Supply)
    (enabled : ∃ account, directory.find? user = some account ∧ account.enabled = true)
    {expiresAt : Instant}
    (mintable : ∀ id, ∃ token claims, codec.mintRefresh moment.now user.toText id =
      .ok (token, claims) ∧ claims.expiresAt = expiresAt)
    (future : moment.now < expiresAt)
    (host : 0 ≤ moment.host ∧ moment.host ≤ expiresAt.seconds) :
    let w : World := ⟨.empty, directory, moment, supply⟩
    let s := (Traffic.start moment supply : Service).run (program codec)
      [.enroll directory, .arrive (.issue user), .step 0, .step 0, .step 0]
    ∃ token r, r.tokenId = TokenId.random w.draw.1 ∧ r.owner = user ∧
      (∃ claims, codec.mintRefresh moment.now user.toText (TokenId.random w.draw.1) =
        .ok (token, claims)) ∧
      Minted codec r.owner token r ∧
      (∀ w' : World, w'.moment = moment → w'.directory = directory → Calm codec r w') ∧
      s = ⟨w.draw.2.drawTimed.2, [⟨.issue user, storing token r⟩]⟩ ∧
      s.next (program codec) (.step 0) =
        ⟨⟨⟨[r]⟩, directory, moment, ⟨supply.source, supply.drawn + 2⟩⟩,
          [⟨.issue user, .done (.ok (.issued ⟨token, r⟩))⟩]⟩ := by
  intro w s
  obtain ⟨token, claims, mints, rfl⟩ := mintable (TokenId.random w.draw.1)
  let r : Record := .active ⟨w.draw.2.drawTimed.1⟩ user (TokenId.random w.draw.1) claims.issuedAt
    claims.expiresAt
  have minted : Minted codec r.owner token r := ⟨moment, _, _, claims, mints, rfl⟩
  have calm : ∀ w' : World, w'.moment = moment → w'.directory = directory → Calm codec r w' := by
    rintro ⟨l, _, _, supply⟩ rfl rfl
    refine ⟨future, host, enabled, ?_⟩
    intro id
    obtain ⟨token, claims, mints, -⟩ := mintable id
    exact ⟨_, mints⟩
  have before : s = ⟨w.draw.2.drawTimed.2, [⟨.issue user, storing token r⟩]⟩ :=
    run_storing [] mints
  have stored : Ledger.insert .empty r = .ok ⟨[r]⟩ := rfl
  refine ⟨token, r, rfl, rfl, ⟨claims, mints⟩, minted, calm, before, ?_⟩
  rw [before]
  exact next_storing codec token user [] stored

/-- With a matching pair of keys the token states the identifier of its record and no other. -/
theorem exists_first_token (made : Codec.make keys settings = .ok codec) (paired : keys.IsPaired)
    (user : UserId) (moment : Moment) (directory : Directory) (supply : Supply)
    (enabled : ∃ account, directory.find? user = some account ∧ account.enabled = true)
    {expiresAt : Instant}
    (mintable : ∀ id, ∃ token claims, codec.mintRefresh moment.now user.toText id =
      .ok (token, claims) ∧ claims.expiresAt = expiresAt)
    (future : moment.now < expiresAt)
    (host : 0 ≤ moment.host ∧ moment.host ≤ expiresAt.seconds) :
    let w : World := ⟨.empty, directory, moment, supply⟩
    let s := (Traffic.start moment supply : Service).run (program codec)
      [.enroll directory, .arrive (.issue user), .step 0, .step 0, .step 0]
    ∃ token r, r.tokenId = TokenId.random w.draw.1 ∧ r.owner = user ∧
      Minted codec r.owner token r ∧ ReadsOnly codec token r.tokenId ∧
      (∀ w' : World, w'.moment = moment → w'.directory = directory → Calm codec r w') ∧
      s = ⟨w.draw.2.drawTimed.2, [⟨.issue user, storing token r⟩]⟩ ∧
      s.next (program codec) (.step 0) =
        ⟨⟨⟨[r]⟩, directory, moment, ⟨supply.source, supply.drawn + 2⟩⟩,
          [⟨.issue user, .done (.ok (.issued ⟨token, r⟩))⟩]⟩ := by
  intro w s
  obtain ⟨token, r, named, own, -, minted, calm, states⟩ :=
    exists_first_issue codec user moment directory supply enabled mintable future host
  have calmly := calm w rfl rfl
  obtain ⟨subject, stated, -⟩ := presented_of_minted made paired minted calmly.future calmly.host
  exact ⟨token, r, named, own, minted, Reads.only made ⟨moment, subject, stated⟩, calm, states⟩

/-- What is found in a ledger of one record. -/
theorem find?_singleton (r : Record) (id : TokenId) :
    Ledger.find? ⟨[r]⟩ id = if r.tokenId = id then some r else none := by
  rw [Ledger.find?, List.find?_cons, List.find?_nil]
  by_cases same : r.tokenId = id
  · rw [beq_iff_eq.mpr same, if_pos same]
  · rw [beq_eq_false_iff_ne.mpr same, if_neg same]

end SessionTokens.Rotation
