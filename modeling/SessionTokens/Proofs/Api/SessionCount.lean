import SessionTokens.Api.UserService
import SessionTokens.Proofs.Api.Gate
import SessionTokens.Proofs.Ledger.Census
import SessionTokens.Proofs.Rotation.Acceptance
import SessionTokens.Proofs.Rotation.Opening

set_option autoImplicit false

namespace SessionTokens

namespace Ledger

theorem mem_active {l : Ledger} {user : UserId} {now : Instant} {r : Record} :
    r ∈ l.active user now ↔ r ∈ l.records ∧ r.owner = user ∧ r.isActiveAt now = true := by
  simp [active, byAge]

theorem length_active (l : Ledger) (user : UserId) (now : Instant) :
    (l.active user now).length =
      l.records.countP fun r => r.owner == user && r.isActiveAt now := by
  rw [active, byAge, List.length_mergeSort, List.countP_eq_length_filter]

/-- With distinct identifiers a record is the only one under its own. -/
theorem filter_tokenId {l : Ledger} (distinct : (l.records.map Record.tokenId).Nodup) {id : TokenId}
    {r : Record} (found : l.find? id = some r) :
    l.records.filter (fun a => a.tokenId == id) = [r] := by
  obtain ⟨before, after, whole, others⟩ := split_of_find? distinct found
  rw [List.forall_mem_append] at others
  have none : ∀ rest : List Record, (∀ a ∈ rest, a.tokenId ≠ id) →
      rest.filter (fun a => a.tokenId == id) = [] := by
    intro rest apart
    rw [List.filter_eq_nil_iff]
    intro a member same
    exact apart a member (eq_of_beq same)
  have own : (r.tokenId == id) = true := beq_iff_eq.mpr (tokenId_of_find? found)
  simp only [whole, List.filter_append, List.filter_cons, own, none before others.1,
    none after others.2, if_true, List.nil_append]

end Ledger

namespace Rotation

variable {codec : Codec} {keys : KeyMaterial} {settings : CodecSettings} {tokens : List Issued}
  {w : World} {user : UserId} {account : Account}

/-- The tokens of a user that an exchange would accept. -/
def accepted (codec : Codec) (w : World) (user : UserId) (tokens : List Issued) : List Issued :=
  tokens.filter fun x => x.record.owner == user && accepts codec w x.token

/-- They are as many as the active records of the user. -/
theorem Kept.length_accepted (made : Codec.make keys settings = .ok codec) (paired : keys.IsPaired)
    (kept : Kept codec tokens w.ledger) (sound : w.ledger.Sound)
    (owner : w.directory.find? user = some account) (enabled : account.enabled = true)
    (mintable : Mintable codec w user) (since : 0 ≤ w.moment.host)
    (host : ∀ r ∈ w.ledger.active user w.moment.now, w.moment.host ≤ r.expiresAt.seconds) :
    (accepted codec w user tokens).length = (w.ledger.active user w.moment.now).length := by
  rw [accepted, ← List.countP_eq_length_filter, Ledger.length_active]
  refine kept.countP_eq sound ?_
  intro x member r same found
  have minted := kept.minted x member
  rw [same] at minted ⊢
  change Minted codec r.owner x.token r.original at minted
  change (r.owner == user && _) = _
  by_cases own : r.owner = user
  · subst own
    have agree : accepts codec w x.token = true ↔ r.isActiveAt w.moment.now = true := by
      refine accepts_iff_active made paired minted found owner enabled mintable fun active => ?_
      exact ⟨since, host r (Ledger.mem_active.mpr ⟨Ledger.mem_of_find? found, rfl, active⟩)⟩
    rw [Bool.eq_iff_iff.mpr agree]
  · rw [beq_eq_false_iff_ne.mpr own, Bool.false_and, Bool.false_and]

/-- Beside a record that is alone in the ledger a successor can be made, under any other identifier.
-/
theorem Calm.isMintable {r : Record} (calm : Calm codec r w) (alone : w.ledger = ⟨[r]⟩)
    (other : r.tokenId ≠ TokenId.random w.draw.1) : Mintable codec w r.owner := by
  refine ⟨calm.mintable _, ?_⟩
  rw [alone, find?_singleton]
  exact if_neg other

/-- No two of them are the same token. -/
theorem Kept.nodup_accepted (made : Codec.make keys settings = .ok codec) (paired : keys.IsPaired)
    (kept : Kept codec tokens w.ledger) (sound : w.ledger.Sound) :
    ((accepted codec w user tokens).map Issued.token).Nodup := by
  have distinct := kept.distinct sound
  refine List.Nodup.map_on ?_ ((List.Nodup.of_map _ distinct).filter _)
  intro x memberX y memberY same
  obtain ⟨insideX, passes⟩ := List.mem_filter.mp memberX
  have insideY := (List.mem_filter.mp memberY).1
  have mintedX := kept.minted x insideX
  have mintedY := kept.minted y insideY
  rw [← same] at mintedY
  have named := tokenId_of_accepts made paired mintedX mintedY (Bool.and_eq_true_iff.mp passes).2
  exact List.inj_on_of_nodup_map distinct insideX insideY named

end Rotation

namespace UserService

variable {w : World} {user : UserId} {account : Account}

theorem run_loadAccount {id : String} (read : UserId.read? id = some user)
    (found : w.directory.find? user = some account) :
    (loadAccount id).run.run World.answer w = (.ok account, w) := by
  have asked : ((Action.directory (.find user)).mapCause ApiError.ofDirectory).run.run
      World.answer w = (.ok (w.directory.find? user), w) := rfl
  simp only [loadAccount, read]
  rw [Action.run_bind, Action.require]
  change Program.run _ (Action.mapCause _ _ >>= _).run w = _
  rw [Action.run_bind, asked, found]
  rfl

theorem run_summary {id : String} (read : UserId.read? id = some user)
    (found : w.directory.find? user = some account) :
    (summary id).run.run World.answer w = (.ok (.json 200 (UserSummary.ofAccount account
      (w.ledger.active account.id w.moment.now).length).toJson), w) := by
  rw [summary, Action.run_bind, run_loadAccount read found]
  rfl

/-- The answer to a request for the internal view of an account. -/
theorem run_account {s : UserService} {r : Request} {segment id : String}
    {verified : Option Claims} (admits : s.gate.Admits r w verified) (method : r.method = "GET")
    (path : Endpoint.ofSegments? r.segments = some (.account segment))
    (decoded : Text.Percent.decodeText? segment.toList = some id)
    (read : UserId.read? id = some user) (found : w.directory.find? user = some account) :
    (s.handle r).run World.answer w = (some (.json 200 (UserSummary.ofAccount account
      (w.ledger.active user w.moment.now).length).toJson), w) := by
  obtain rfl : account.id = user := Directory.id_of_find? found
  have other : r.method ≠ "HEAD" := by
    rw [method]
    decide
  rw [handle, path, Routing.run_handle admits method other, handler, Routing.withSegment, decoded]
  dsimp only
  rw [run_summary read found]
  rfl

open Rotation in
/-- In every ledger that a run leaves and at every instant: a token that was ever handed out has one
record, which says what the token states, and an exchange of the token succeeds just when the record
is active, provided that its owner is enabled, a successor can be made and the host's clock is not
past the expiry. So the sessions that the internal view of an account reports are the tokens of the
user that an exchange would accept. -/
theorem sessions_are_accepted_tokens {keys : KeyMaterial} {settings : CodecSettings} {codec : Codec}
    (made : Codec.make keys settings = .ok codec) (paired : keys.IsPaired) (moment : Moment)
    (supply : Supply) (events : List (Event Rotation.Request)) (directory : Directory)
    (now : Moment) (since : 0 ≤ now.host) (supply' : Supply) :
    let t := (Traffic.start moment supply : Service).run (program codec) events
    let w : World := ⟨t.ledger, directory, now, supply'⟩
    (∀ x ∈ handedOut t, ∃ (r : Record) (claims : Claims),
      t.ledger.records.filter (fun a => a.tokenId == x.record.tokenId) = [r] ∧
      codec.encode claims = .ok x.token ∧ claims.tokenId = some r.tokenId ∧
      UserId.read? claims.subject = some r.owner ∧ claims.issuedAt = r.createdAt ∧
      claims.expiresAt = r.expiresAt ∧
      (∀ (host : Int) (instant : Instant), 0 ≤ host → host ≤ r.expiresAt.seconds →
        codec.decode host instant x.token =
          if r.expiresAt ≤ instant then .error .expired else .ok claims) ∧
      ∀ account, directory.find? r.owner = some account → account.enabled = true →
        Mintable codec w r.owner → now.host ≤ r.expiresAt.seconds →
        (accepts codec w x.token = true ↔ r ∈ t.ledger.active r.owner now.now)) ∧
    ∀ user account, directory.find? user = some account → account.enabled = true →
      Mintable codec w user →
      (∀ r ∈ t.ledger.active user now.now, now.host ≤ r.expiresAt.seconds) →
      let tokens := (accepted codec w user (handedOut t)).map Issued.token
      tokens.Nodup ∧
      ∀ (s : UserService) (r : Request) (segment id : String) (verified : Option Claims),
        s.gate.Admits r w verified → r.method = "GET" →
        Endpoint.ofSegments? r.segments = some (.account segment) →
        Text.Percent.decodeText? segment.toList = some id → UserId.read? id = some user →
        (s.handle r).run World.answer w =
          (some (.json 200 (UserSummary.ofAccount account tokens.length).toJson), w) := by
  intro t w
  have kept : Kept codec (handedOut t) w.ledger := kept_run codec moment supply events
  have sound : w.ledger.Sound := sound_run moment supply events
  refine ⟨?_, ?_⟩
  · intro x member
    obtain ⟨r, same, found, minted⟩ := kept.exists_record sound member
    rw [same]
    obtain ⟨claims, encoded, -, named, owner, issued, expires, decodes⟩ :=
      minted.exists_claims made paired
    refine ⟨r, claims, Ledger.filter_tokenId sound.distinct found, encoded, named, owner, issued,
      expires, ?_, ?_⟩
    · intro host instant from_ until_
      have after : ¬ r.expiresAt.seconds < 0 := by omega
      have reached : ¬ r.expiresAt.seconds < host := by omega
      rw [decodes, Record.original, if_neg after, if_neg reached]
    · intro account found' enabled mintable host
      rw [accepts_iff_active made paired minted found found' enabled mintable
        fun _ => ⟨since, host⟩, Ledger.mem_active]
      exact ⟨fun active => ⟨Ledger.mem_of_find? found, rfl, active⟩, fun listed => listed.2.2⟩
  · intro user account found enabled mintable host tokens
    refine ⟨kept.nodup_accepted made paired sound, ?_⟩
    intro s r segment id verified admits method path decoded read
    have count := kept.length_accepted made paired sound found enabled mintable since host
    rw [run_account admits method path decoded read found, List.length_map, count]

open Rotation in
/-- One token is handed out, and the internal view of its user reports one session. -/
theorem first_session_is_reported :
    let text : String := "00000000-0000-0000-0000-000000000007"
    let s : UserService := ⟨⟨Sample.codec, "users", []⟩, Password.standardCosts⟩
    let r : Request := ⟨"GET", "/internal/users/" ++ text, [], []⟩
    let events : List (Event Rotation.Request) :=
      .enroll Sample.directory :: .arrive (.issue Sample.user) :: List.replicate 4 (.step 0)
    let t := (Traffic.start Sample.moment .counting : Service).run (program Sample.codec) events
    let w : World := ⟨t.ledger, Sample.directory, Sample.moment, ⟨Supply.counting.source, 2⟩⟩
    ∃ x account, handedOut t = [x] ∧ accepts Sample.codec w x.token = true ∧
      Sample.directory.find? Sample.user = some account ∧
      (s.handle r).run World.answer w =
        (some (.json 200 (UserSummary.ofAccount account 1).toJson), w) := by
  intro text s r events t w
  obtain ⟨token, record, named, own, minted, -, calm, before, after⟩ :=
    exists_first_token Sample.made Sample.paired Sample.user Sample.moment Sample.directory
      .counting ⟨_, rfl, rfl⟩ Sample.mintable (by decide) (by decide)
  let x : Issued := ⟨token, record⟩
  have reached : t = ⟨⟨⟨[record]⟩, Sample.directory, Sample.moment, ⟨Supply.counting.source, 2⟩⟩,
    [⟨.issue Sample.user, .done (.ok (.issued x))⟩]⟩ := after
  have handed : handedOut t = [x] := by
    rw [reached]
    rfl
  have ledger : t.ledger = ⟨[record]⟩ := congrArg Traffic.ledger reached
  obtain ⟨account, owner, enabled⟩ : ∃ account, Sample.directory.find? Sample.user = some account ∧
      account.enabled = true := ⟨_, rfl, rfl⟩
  have calmly := calm w rfl rfl
  have other : record.tokenId ≠ TokenId.random (Supply.counting.source 2) := by
    rw [named]
    decide
  have mintable : Mintable Sample.codec w Sample.user := own ▸ calmly.isMintable ledger other
  have active : record.isActiveAt Sample.moment.now = true :=
    (isActiveAt_iff _ _).mpr ⟨minted.isNew.1.1, Instant.not_le.mpr calmly.future⟩
  obtain ⟨states, reports⟩ := sessions_are_accepted_tokens Sample.made Sample.paired Sample.moment
    .counting events Sample.directory Sample.moment (by decide) ⟨Supply.counting.source, 2⟩
  have accepts : accepts Sample.codec w token = true := by
    have member : x ∈ handedOut t := handed ▸ List.mem_singleton_self x
    obtain ⟨r', _, only, -, -, -, -, -, -, agree⟩ := states x member
    have inside : r' ∈ t.ledger.records.filter fun a => a.tokenId == record.tokenId := by
      rw [only]
      exact List.mem_singleton_self r'
    rw [ledger] at inside
    obtain rfl : record = r' := (List.mem_singleton.mp (List.mem_of_mem_filter inside)).symm
    rw [own] at agree
    refine (agree account owner enabled mintable calmly.host.2).mpr (Ledger.mem_active.mpr ?_)
    rw [ledger]
    exact ⟨List.mem_singleton_self record, own, active⟩
  have host : ∀ a ∈ t.ledger.active Sample.user Sample.moment.now,
      Sample.moment.host ≤ a.expiresAt.seconds := by
    intro a listed
    have inside := (Ledger.mem_active.mp listed).1
    rw [ledger] at inside
    rw [List.mem_singleton.mp inside]
    exact calmly.host.2
  have read : UserId.read? text = some Sample.user := by decide
  have path : Endpoint.ofSegments? r.segments = some (.account text) := by decide
  have decoded : Text.Percent.decodeText? text.toList = some text := by decide
  have admits : s.gate.Admits r w none := Gate.admits_bare rfl rfl
  obtain ⟨-, answers⟩ := reports Sample.user account owner enabled mintable host
  have answer := answers s r text text none admits rfl path decoded read
  have one : accepted Sample.codec w Sample.user (handedOut t) = [x] := by
    rw [handed, accepted, List.filter_cons_of_pos]
    · rfl
    · rw [Bool.and_eq_true]
      exact ⟨beq_iff_eq.mpr own, accepts⟩
  rw [one] at answer
  exact ⟨x, account, handed, accepts, owner, answer⟩

open Rotation in
/-- Without a matching pair of keys the view counts a token that an exchange refuses. -/
theorem first_session_with_unpaired_key :
    let codec : Codec := Sample.unpairedCodec
    let text : String := "00000000-0000-0000-0000-000000000007"
    let s : UserService := ⟨⟨codec, "users", []⟩, Password.standardCosts⟩
    let r : Request := ⟨"GET", "/internal/users/" ++ text, [], []⟩
    let events : List (Event Rotation.Request) :=
      .enroll Sample.directory :: .arrive (.issue Sample.user) :: List.replicate 4 (.step 0)
    let t := (Traffic.start Sample.moment .counting : Service).run (program codec) events
    let w : World := ⟨t.ledger, Sample.directory, Sample.moment, ⟨Supply.counting.source, 2⟩⟩
    Codec.make (Unpaired.keys Sample.keys.secret) Sample.settings = .ok codec ∧
    ∃ x account, handedOut t = [x] ∧ Sample.directory.find? x.record.owner = some account ∧
      account.enabled = true ∧ Mintable codec w x.record.owner ∧
      (0 ≤ Sample.moment.host ∧ Sample.moment.host ≤ x.record.expiresAt.seconds) ∧
      t.ledger.active x.record.owner Sample.moment.now = [x.record] ∧
      accepts codec w x.token = false ∧
      (s.handle r).run World.answer w =
        (some (.json 200 (UserSummary.ofAccount account 1).toJson), w) := by
  intro codec text s r events t w
  obtain ⟨token, record, named, own, unrevoked, unread, calm, -, after⟩ := Sample.exists_first_unread
  let x : Issued := ⟨token, record⟩
  have reached : t = ⟨⟨⟨[record]⟩, Sample.directory, Sample.moment, ⟨Supply.counting.source, 2⟩⟩,
    [⟨.issue Sample.user, .done (.ok (.issued x))⟩]⟩ := by
    have stages : events = [.enroll Sample.directory, .arrive (.issue Sample.user), .step 0,
      .step 0, .step 0] ++ [.step 0] := rfl
    change Traffic.run _ _ events = _
    rw [stages, Traffic.run_append, Traffic.run_cons, after]
    rfl
  have handed : handedOut t = [x] := by
    rw [reached]
    rfl
  have ledger : t.ledger = ⟨[record]⟩ := congrArg Traffic.ledger reached
  obtain ⟨account, owner, enabled⟩ : ∃ account, Sample.directory.find? Sample.user = some account ∧
      account.enabled = true := ⟨_, rfl, rfl⟩
  have calmly := calm w rfl rfl
  have other : record.tokenId ≠ TokenId.random (Supply.counting.source 2) := by
    rw [named]
    decide
  have mintable : Mintable codec w record.owner := calmly.isMintable ledger other
  have active : t.ledger.active Sample.user Sample.moment.now = [record] := by
    have current : record.isActiveAt Sample.moment.now = true :=
      (isActiveAt_iff _ _).mpr ⟨unrevoked, Instant.not_le.mpr calmly.future⟩
    rw [ledger, Ledger.active, List.filter_cons_of_pos, List.filter_nil]
    · exact List.mergeSort_singleton _
    · exact Bool.and_eq_true_iff.mpr ⟨beq_iff_eq.mpr own, current⟩
  have refused : accepts codec w token = false := by
    rw [Bool.eq_false_iff]
    intro accepted
    obtain ⟨e, refused⟩ := unread w.moment
    obtain ⟨stated, read⟩ := presented_of_accepts accepted
    cases refused.symm.trans read
  have read : UserId.read? text = some Sample.user := by decide
  have path : Endpoint.ofSegments? r.segments = some (.account text) := by decide
  have decoded : Text.Percent.decodeText? text.toList = some text := by decide
  have admits : s.gate.Admits r w none := Gate.admits_bare rfl rfl
  have answer := run_account admits rfl path decoded read owner
  have one : w.ledger.active Sample.user w.moment.now = [record] := active
  rw [one] at answer
  rw [← own] at owner active
  exact ⟨Sample.made_unpaired, x, account, handed, owner, enabled, mintable, calmly.host, active,
    refused, answer⟩

end UserService

end SessionTokens
