import SessionTokens.Proofs.Api.Atomicity
import SessionTokens.Proofs.Api.Callers
import SessionTokens.Proofs.Api.Carried
import SessionTokens.Proofs.Api.Internal
import SessionTokens.Proofs.Ledger.Distinct

set_option autoImplicit false

namespace SessionTokens

namespace UserService

variable {s : UserService} {r : SessionTokens.Request} {w : World} {after : Ledger} {a : Record}

/-- What a request has to be for a record to be revoked: the exchange of the record's own token,
which leaves all other records, the logout of the record's owner, or the order of a service. -/
inductive Authority (s : UserService) (r : SessionTokens.Request) (w : World) (after : Ledger)
    (a : Record) : Prop
  | holder {body : RefreshRequest} {claims : Claims}
      (posted : r.method = "POST") (path : r.path = "/auth/refresh")
      (read : r.readBody RefreshRequest.read = .ok body)
      (decoded : s.codec.decode w.moment.host w.moment.now body.refreshToken = .ok claims)
      (kind : claims.kind = .refresh) (named : claims.tokenId = some a.tokenId)
      (own : UserId.read? claims.subject = some a.owner)
      (alone : ∀ b ∈ w.ledger.records, b ≠ a → b ∈ after.records) : Authority s r w after a
  | owner {token : String} {claims : Claims}
      (posted : r.method = "POST") (path : r.path = "/auth/logout")
      (shows : r.Shows (.bearer token))
      (decoded : s.codec.decode w.moment.host w.moment.now token = .ok claims)
      (kind : claims.kind = .access) (own : UserId.read? claims.subject = some a.owner) :
      Authority s r w after a
  | service {segment id token : String} {claims : Claims}
      (posted : r.method = "POST")
      (path : r.path = "/internal/users/" ++ segment ++ "/revoke-sessions")
      (named : Text.Percent.decodeText? segment.toList = some id)
      (own : UserId.read? id = some a.owner) (shows : r.Shows (.bearer token))
      (decoded : s.codec.decode w.moment.host w.moment.now token = .ok claims)
      (kind : claims.kind = .s2s) (flag : claims.s2s = some true)
      (addressed : s.gate.serviceId ∈ claims.audience) : Authority s r w after a

/-- What becomes of a record: it stays as it is, or it is revoked with authority. -/
inductive Fate (s : UserService) (r : SessionTokens.Request) (w : World) (after : Ledger)
    (a : Record) : Prop
  | stays (kept : a ∈ after.records) : Fate s r w after a
  | falls {b : Record} (unrevoked : a.revoked = false) (inside : b ∈ after.records)
      (same : b.tokenId = a.tokenId) (revoked : b.revoked = true)
      (authority : Authority s r w after a) : Fate s r w after a

theorem fate_of_same (present : a ∈ w.ledger.records) (same : after = w.ledger) :
    Fate s r w after a :=
  .stays (same ▸ present)

theorem fate_of_insert {record : Record} (present : a ∈ w.ledger.records)
    (stored : w.ledger.insert record = .ok after) : Fate s r w after a := by
  obtain ⟨-, rfl⟩ := (Ledger.insert_ok_iff _ _ _).mp stored
  exact .stays (List.mem_append_left _ present)

/-- A user's records fall where there is authority over those that are unrevoked. -/
theorem fate_of_revokeAll {user : UserId} (present : a ∈ w.ledger.records)
    (authority : a.owner = user → Authority s r w (w.ledger.revokeAll user).2 a) :
    Fate s r w (w.ledger.revokeAll user).2 a := by
  have inside : Ledger.revoke user a ∈ (w.ledger.revokeAll user).2.records :=
    List.mem_map_of_mem present
  by_cases own : a.owner = user
  · cases revoked : a.revoked with
    | true =>
      rw [Ledger.revoke_of_revoked user revoked] at inside
      exact .stays inside
    | false =>
      exact .falls revoked inside (Ledger.tokenId_revoke user a) (Ledger.revoked_revoke own)
        (authority own)
  · rw [Ledger.revoke_other own] at inside
    exact .stays inside

/-- The one record that an exchange revokes is that of the presented token. -/
theorem fate_of_refresh {body : RefreshRequest} {id : TokenId} {account : Account} {child : Record}
    (distinct : w.ledger.IsDistinct) (posted : r.method = "POST") (path : r.path = "/auth/refresh")
    (read : r.readBody RefreshRequest.read = .ok body)
    (passes : Rotation.checked s.codec w body.refreshToken = .ok (id, account))
    (stored : w.ledger.rotate id child = .ok after) (present : a ∈ w.ledger.records) :
    Fate s r w after a := by
  obtain ⟨-, -, rfl⟩ := (Ledger.rotate_ok_iff _ _ _ _).mp stored
  obtain ⟨subject, user, record, stated, owner, found, -, holds, own, active⟩ :=
    Rotation.checked_ok_iff.mp passes
  obtain ⟨claims, decoded, kind, named, rfl⟩ := Rotation.presented_ok_iff.mp stated
  have others : ∀ b ∈ w.ledger.records, b.tokenId ≠ id →
      b ∈ w.ledger.records.map (Ledger.replace id child.tokenId) ++ [child] := by
    intro b inside other
    have moved := List.mem_map_of_mem (f := Ledger.replace id child.tokenId) inside
    rw [Ledger.replace_other child.tokenId other] at moved
    exact List.mem_append_left _ moved
  by_cases same : a.tokenId = id
  · subst same
    have whole := Ledger.find?_of_mem distinct present
    obtain rfl : a = record := Option.some.inj (whole.symm.trans holds)
    have user_eq : a.owner = user := own.trans (Directory.id_of_find? found)
    have unrevoked := ((Rotation.isActiveAt_iff a w.moment.now).mp active).1
    have marked := Ledger.replace_same child.tokenId (rfl : a.tokenId = a.tokenId)
    refine .falls unrevoked (List.mem_append_left _ (List.mem_map_of_mem present))
      (Ledger.tokenId_replace a.tokenId child.tokenId a) (by rw [marked]) ?_
    refine .holder posted path read decoded kind named (user_eq ▸ owner) ?_
    intro b inside other
    refine others b inside fun equal => other ?_
    rw [← Option.some.injEq, ← Ledger.find?_of_mem distinct inside, equal, whole]
  · exact .stays (others a present same)

/-- A principal at the gates stands for a bearer token of its kind. -/
theorem owner_of_letsThrough {principal : Principal}
    (through : s.gate.LetsThrough r World.answer w (some principal)) : ∃ token claims,
      r.Shows (.bearer token) ∧
      s.codec.decode w.moment.host w.moment.now token = .ok claims ∧ claims.kind = .access ∧
      principal.subject = claims.subject := by
  rcases Gate.letsThrough_cases through with
    ⟨-, -, missing⟩ | ⟨token, claims, shows, read, other, -, known⟩
  · cases missing
  · rw [Codec.readFrom_world] at read
    rw [Gate.principalOf] at known
    split at known
    · cases known
    · rename_i person
      refine ⟨token, claims, shows, read, ?_, congrArg Principal.subject (Option.some.inj known)⟩
      cases kind : claims.kind with
      | access => rfl
      | refresh => exact absurd kind other
      | s2s => exact absurd kind person

/-- Whatever a request does, each record keeps to one of its two fates. -/
theorem Deed.fate {response : Option Response} {w' : World} (deed : Deed s r w response w')
    (covers : s.gate.CoversInternal) (distinct : w.ledger.IsDistinct)
    (present : a ∈ w.ledger.records) : Fate s r w w'.ledger a := by
  cases deed with
  | idle resembles => exact fate_of_same present resembles.ledger
  | login posted path resembles stored => exact fate_of_insert present stored
  | @signup w₁ _ account directory _ posted path resembles enrolled starts =>
    obtain ⟨w₂, later, runs⟩ := run_startSession s account { w₁ with directory }
    rw [starts] at runs
    have same : w₂.ledger = w.ledger := later.ledger.trans resembles.ledger
    split at runs
    · exact fate_of_same present ((Prod.mk.inj runs).2 ▸ same)
    · split at runs
      · exact fate_of_same present ((Prod.mk.inj runs).2 ▸ same)
      · split at runs
        · exact fate_of_same present ((Prod.mk.inj runs).2 ▸ same)
        · rename_i stored
          rw [(Prod.mk.inj runs).2]
          change w₁.ledger.insert _ = _ at stored
          rw [resembles.ledger] at stored
          exact fate_of_insert present stored
  | refresh posted path read passes resembles made stored =>
    exact fate_of_refresh distinct posted path read passes stored present
  | logout posted path through own resembles =>
    obtain ⟨token, claims, shows, decoded, kind, subject⟩ := owner_of_letsThrough through
    refine fate_of_revokeAll present ?_
    rintro rfl
    exact .owner posted path shows decoded kind (subject ▸ own)
  | revocation posted found through named own resembles =>
    have inside := covers.isInternal found rfl
    obtain ⟨-, token, claims, shows, read, kind, flag, addressed⟩ :=
      (Gate.letsThrough_internal_iff inside).mp through
    rw [Codec.readFrom_world] at read
    refine fate_of_revokeAll present ?_
    rintro rfl
    exact .service posted (Endpoint.path_of_segments found) named own shows read kind flag addressed

/-- In every state that requests can bring about, whatever request is handled next: a record that it
turns from unrevoked to revoked, it has authority over; and no other record is changed by it. -/
theorem revocation_needs_authority (s : UserService) (covers : s.gate.CoversInternal)
    (moment : Moment) (supply : Supply) (events : List (Event SessionTokens.Request))
    (r : SessionTokens.Request) :
    let w := ((Traffic.start moment supply : Traffic SessionTokens.Request (Option Response)).run
      s.handle events).world
    let w' := ((s.handle r).run World.answer w).2
    (∀ a ∈ w.ledger.records, ∀ b ∈ w'.ledger.records, b.tokenId = a.tokenId →
      a.revoked = false → b.revoked = true → Authority s r w w'.ledger a) ∧
    ∀ a ∈ w.ledger.records, a ∉ w'.ledger.records → a.revoked = false ∧
      Authority s r w w'.ledger a ∧
      ∃ b ∈ w'.ledger.records, b.tokenId = a.tokenId ∧ b.revoked = true := by
  intro w w'
  have distinct : w.ledger.IsDistinct := Traffic.isDistinct_run s.handle moment supply events
  have distinct' : w'.ledger.IsDistinct := Program.isDistinct_run (s.handle r) distinct
  have fate (a : Record) (present : a ∈ w.ledger.records) : Fate s r w w'.ledger a :=
    (handle_deed s r w).fate covers distinct present
  refine ⟨?_, ?_⟩
  · intro a present b inside same unrevoked revoked
    cases fate a present with
    | falls _ _ _ _ authority => exact authority
    | stays kept =>
      have one := Ledger.find?_of_mem distinct' kept
      rw [← same, Ledger.find?_of_mem distinct' inside] at one
      rw [Option.some.inj one, unrevoked] at revoked
      cases revoked
  · intro a present changed
    cases fate a present with
    | stays kept => exact absurd kept changed
    | falls unrevoked inside same revoked authority =>
      exact ⟨unrevoked, authority, _, inside, same, revoked⟩

/-- A logout of a user revokes what the user has. -/
theorem run_logout {principal : Principal} {user : UserId} (posted : r.method = "POST")
    (found : Endpoint.ofSegments? r.segments = some .logout)
    (through : s.gate.LetsThrough r World.answer w (some principal))
    (own : UserId.read? principal.subject = some user) : ((s.handle r).run World.answer w).2 =
      { w with ledger := (w.ledger.revokeAll user).2 } := by
  have taken : Routing.accepts Endpoint.logout.method r.method = true := by
    rw [posted]
    decide
  obtain ⟨t, read, calls⟩ := Routing.hands_of_letsThrough through found taken
  obtain rfl := read.world_eq
  rw [handle, calls, handler, Routing.withPrincipal, Action.run_bind, Action.run_require]
  dsimp only
  rw [logout, Action.run_bind, Action.run_require, own]
  dsimp only
  rw [Action.run_bind, run_revokeAll]
  rfl

namespace Sample

def logoutWith (token : String) : SessionTokens.Request :=
  ⟨"POST", "/auth/logout", [⟨"authorization", Request.bearing token⟩], []⟩

theorem path_logoutWith (token : String) : (logoutWith token).path =
    String.ofList ("/auth/logout".toList.takeWhile Request.isPathChar) := rfl

theorem ofSegments?_logoutWith (token : String) :
    Endpoint.ofSegments? (logoutWith token).segments = some .logout := by
  rw [Request.segments, path_logoutWith]
  decide

theorem isInternal_logoutWith (token : String) :
    (service codec).gate.isInternal (logoutWith token).path = false := by
  rw [path_logoutWith]
  decide

theorem header?_logoutWith (token : String) :
    (logoutWith token).header? "authorization" = some (Request.bearing token) := by
  have named : Request.sameName "authorization" "authorization" = true := by decide
  rw [Request.header?, logoutWith, List.find?_cons_of_pos (by exact named), Option.map_some]

theorem covers : (service codec).gate.CoversInternal :=
  ⟨"/internal/", List.mem_singleton_self _, by decide⟩

/-- Somebody signs up, and the access token of the session logs them out. -/
theorem exists_session : ∃ (user : UserId) (token : String) (claims : Claims) (record : Record),
    codec.encode claims = .ok token ∧ claims.kind = .access ∧ claims.subject = user.toText ∧
      codec.decode world.moment.host world.moment.now token = .ok claims ∧
      record ∈ signedUp.2.ledger.records ∧ record.owner = user ∧ record.revoked = false := by
  have able : (service codec).CanMint world.moment.now :=
    canMint_of_load loaded built trivial (by decide) (by decide)
  have whole : IsAllOrNothing (service codec) signup world signedUp.1 signedUp.2 := by
    rw [signedUp]
    exact (handle_deed (service codec) signup world).isAllOrNothing able isUnused_world
  obtain ⟨account, -, token, claims, issued, minted, together, inside, -⟩ :=
    whole.enrolled signup_enrolls
  obtain ⟨⟨unrevoked, -⟩, own⟩ := together.isNew
  obtain ⟨stated, encoded⟩ := Rotation.mint_ok minted
  obtain ⟨expiresAt, added, rfl⟩ := Option.map_eq_some_iff.mp stated
  have expiry : world.moment.now.wholeSeconds.add? codec.settings.lifetimes.access =
      some ⟨900, 0, by decide, by decide, by decide⟩ := by
    decide
  obtain rfl := Option.some.inj (added.symm.trans expiry)
  have made : Codec.make (config none none).keys (config none none).settings = .ok codec := rfl
  have paired : (config none none).keys.IsPaired := by
    intro _ _ _ signing
    cases signing
  have future : world.moment.now < ⟨900, 0, by decide, by decide, by decide⟩ := by decide
  exact ⟨account.id, token, _, issued.record, encoded, rfl, rfl,
    Rotation.decode_own made paired encoded (by decide) (by decide : (0 : Int) ≤ 900) future,
    inside, own, unrevoked⟩

theorem run_logoutWith {w : World} (moment : w.moment = world.moment) {user : UserId}
    {token : String} {claims : Claims} (encoded : codec.encode claims = .ok token)
    (access : claims.kind = .access) (subject : claims.subject = user.toText)
    (decoded : codec.decode world.moment.host world.moment.now token = .ok claims) :
    (((service codec).handle (logoutWith token)).run World.answer w).2 =
      { w with ledger := (w.ledger.revokeAll user).2 } := by
  have shows := Request.shows_of_encode encoded (header?_logoutWith token)
  have read : (service codec).gate.codec.readFrom World.answer w token = .ok claims := by
    rw [Codec.readFrom_world, moment]
    exact decoded
  have through := Gate.letsThrough_of_access shows read access (isInternal_logoutWith token)
  have known : UserId.read? (Principal.ofClaims claims).subject = some user := by
    rw [Principal.ofClaims, subject, UserId.read?_toText]
  exact run_logout rfl (ofSegments?_logoutWith token) through known

/-- A user signs up and logs out with the access token of the session. -/
theorem logout_has_authority :
    ∃ (events : List (Event SessionTokens.Request)) (token : String) (w w' : World),
      ((Traffic.start world.moment world.supply :
        Traffic SessionTokens.Request (Option Response)).run (service codec).handle events).world =
          w ∧
      (((service codec).handle (logoutWith token)).run World.answer w).2 = w' ∧
      ∃ a ∈ w.ledger.records, ∃ b ∈ w'.ledger.records, b.tokenId = a.tokenId ∧
        a.revoked = false ∧ b.revoked = true ∧
        Authority (service codec) (logoutWith token) w w'.ledger a := by
  obtain ⟨user, token, claims, record, encoded, access, subject, decoded, inside, own, unrevoked⟩ :=
    exists_session
  obtain ⟨n, alone⟩ := Traffic.exists_run_alone (service codec).handle signup world
  let events : List (Event SessionTokens.Request) := .arrive signup :: List.replicate n (.step 0)
  have law := (revocation_needs_authority (service codec) covers world.moment world.supply events
    (logoutWith token)).1
  have reached : ((Traffic.start world.moment world.supply :
      Traffic SessionTokens.Request (Option Response)).run (service codec).handle events).world =
        signedUp.2 := by
    have start : (Traffic.start world.moment world.supply :
        Traffic SessionTokens.Request (Option Response)) = ⟨world, []⟩ := rfl
    rw [start, alone, signedUp]
  have moment : signedUp.2.moment = world.moment := by
    rw [signedUp]
    exact Program.moment_run ((service codec).handle signup) world
  have after := run_logoutWith moment encoded access subject decoded
  rw [reached] at law
  refine ⟨events, token, signedUp.2, _, reached, after, record, inside, Ledger.revoke user record,
    List.mem_map_of_mem inside, Ledger.tokenId_revoke user record, unrevoked,
    Ledger.revoked_revoke own, ?_⟩
  rw [after] at law
  exact law record inside _ (List.mem_map_of_mem inside) (Ledger.tokenId_revoke user record)
    unrevoked (Ledger.revoked_revoke own)

end Sample

end UserService

end SessionTokens
