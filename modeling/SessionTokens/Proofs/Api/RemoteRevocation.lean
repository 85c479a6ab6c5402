import SessionTokens.Proofs.Api.Calls
import SessionTokens.Proofs.Api.Relaying
import SessionTokens.Proofs.Api.Sessions
import SessionTokens.Proofs.Ledger.Census

set_option autoImplicit false

namespace SessionTokens

open Text

/-- One ledger is the other with every open record of a user revoked, of which there were so many.
-/
structure Ledger.RevokesAll (l l' : Ledger) (user : UserId) (count : Nat) : Prop where
  counted : count = (l.records.filter fun r => r.owner = user ∧ r.revoked = false).length
  none : ∀ r ∈ l'.records, r.owner = user → r.revoked = true
  others : l'.records = l.records.map fun r =>
    if r.owner = user ∧ r.revoked = false then { r with revoked := true } else r

theorem Ledger.isOpen_iff (user : UserId) (r : Record) :
    isOpen user r = true ↔ r.owner = user ∧ r.revoked = false := by
  rw [isOpen, Bool.and_eq_true, beq_iff_eq, Bool.not_eq_true']

theorem Ledger.revokesAll_revokeAll (l : Ledger) (user : UserId) :
    l.RevokesAll (l.revokeAll user).2 user (l.revokeAll user).1 := by
  refine ⟨?_, ?_, ?_⟩
  · rw [revokeAll, List.countP_eq_length_filter]
    refine congrArg List.length (List.filter_congr fun r _ => ?_)
    rw [Bool.eq_iff_iff, isOpen_iff, decide_eq_true_eq]
  · intro r member own
    obtain ⟨before, -, rfl⟩ := List.mem_map.mp member
    rw [owner_revoke] at own
    exact revoked_revoke own
  · refine List.map_congr_left fun r _ => ?_
    simp only [revoke, isOpen_iff]

namespace UserService

open Neighbour

variable {s : UserService} {w : World} {user : UserId} {token : String}

theorem run_revokeSessions {id : String} (own : UserId.read? id = some user) (w : World) :
    (revokeSessions id).run.run World.answer w =
      match w.directory.find? user with
      | none => (.error (.refused (.notFound s!"user {id} not found")), w)
      | some _ => (.ok (.json 200 (RevokeResponse.mk (w.ledger.revokeAll user).1).toJson),
          { w with ledger := (w.ledger.revokeAll user).2 }) := by
  rw [revokeSessions, Action.run_bind, run_loadAccount_eq, own, Option.bind_some]
  cases found : w.directory.find? user with
  | none => rfl
  | some account =>
    obtain rfl : account.id = user := Directory.id_of_find? found
    dsimp only
    rw [Action.run_bind, run_revokeAll]
    rfl

/-- The request that a call to revoke the sessions of a user arrives as. -/
def revocation (user : UserId) (token : String) : SessionTokens.Request :=
  arrival "POST" s!"/internal/users/{user.toText}/revoke-sessions" token

theorem ofSegments?_revocation (user : UserId) (token : String) :
    Endpoint.ofSegments? (revocation user token).segments =
      some (.revokeSessions user.toText) :=
  ofSegments?_arrival (.inr rfl) "POST" token

/-- A call that the gates let through is done for the user of the admin's request. -/
theorem handle_revocation
    (through : s.gate.LetsThrough (revocation user token) World.answer w none) :
    (s.handle (revocation user token)).run World.answer w =
      match w.directory.find? user with
      | none => (some (ApiError.notFound s!"user {user.toText} not found").response, w)
      | some _ => (some (.json 200 (RevokeResponse.mk (w.ledger.revokeAll user).1).toJson),
          { w with ledger := (w.ledger.revokeAll user).2 }) := by
  rw [run_handle through (ofSegments?_revocation user token) rfl rfl, handler,
    Routing.withSegment, user.decodeText?_toText]
  dsimp only
  rw [run_revokeSessions user.read?_toText]
  cases w.directory.find? user <;> rfl

/-- The gates let in a call with the token of a service that is addressed to this one. -/
theorem letsThrough_revocation (covers : s.gate.CoversInternal) {claims : Claims}
    (shows : (revocation user token).Shows (.bearer token))
    (read : s.codec.decode w.moment.host w.moment.now token = .ok claims)
    (service : claims.kind = .s2s) (flag : claims.s2s = some true)
    (addressed : s.gate.serviceId ∈ claims.audience) :
    s.gate.LetsThrough (revocation user token) World.answer w none := by
  have inside := covers.isInternal (ofSegments?_revocation user token) rfl
  refine (Gate.letsThrough_internal_iff inside).mpr
    ⟨rfl, token, claims, shows, ?_, service, flag, addressed⟩
  rw [Codec.readFrom_world]
  exact read

/-- And they answer a call with one that is addressed elsewhere. -/
theorem handle_misaddressed (covers : s.gate.CoversInternal) {claims : Claims}
    (shows : (revocation user token).Shows (.bearer token))
    (read : s.codec.decode w.moment.host w.moment.now token = .ok claims)
    (service : claims.kind = .s2s) (flag : claims.s2s = some true)
    (elsewhere : s.gate.serviceId ∉ claims.audience) :
    ∃ response, (s.handle (revocation user token)).run World.answer w = (some response, w) ∧
      response.status = 403 := by
  have inside := covers.isInternal (ofSegments?_revocation user token) rfl
  have read' : s.gate.codec.readFrom World.answer w token = .ok claims := by
    rw [Codec.readFrom_world]
    exact read
  obtain ⟨t, message, reads, answers⟩ :=
    Gate.refuses_misaddressed inside shows read' service flag elsewhere
  obtain rfl := reads.world_eq
  refine ⟨_, answers Endpoint.method _ (s.handler (revocation user token)), ?_⟩
  rw [Routing.refusal, dropsBody_of_posted rfl]
  rfl

end UserService

namespace AdminService

open Neighbour

section

variable {s : AdminService} {users : UserService} {n : Neighbour} {r : SessionTokens.Request}
  {w : World} {user : UserId} {config peerConfig : ServiceConfig}

/-- An administrator asks to revoke the sessions of a user, on a path that is no other service's. -/
structure AsksToRevoke (s : AdminService) (r : SessionTokens.Request) (m : Moment)
    (user : UserId) : Prop where
  posted : r.method = "POST"
  named : ∃ segment id, Endpoint.ofSegments? r.segments = some (.revokeSessions segment) ∧
    Percent.decodeText? segment.toList = some id ∧ UserId.read? id = some user
  outside : s.gate.isInternal r.path = false
  permitted : ∃ token claims, r.Shows (.bearer token) ∧
    s.codec.decode m.host m.now token = .ok claims ∧ claims.kind = .access ∧
    Role.admin ∈ claims.roles.getD []

/-- Such a request is answered as the peer answers the call. -/
theorem AsksToRevoke.run (asks : s.AsksToRevoke r w.moment user) :
    (s.handle r).run n.answer w =
      let (result, w') := (s.peer.revokeSessions s.codec user).run.run n.answer w
      (Routing.answer false
        ((result.mapError (Fault.map ApiError.ofPeer)).map (Response.json 200)), w') := by
  obtain ⟨segment, id, found, decoded, own⟩ := asks.named
  obtain ⟨token, claims, shows, read, access, role⟩ := asks.permitted
  have read' : s.gate.codec.readFrom n.answer w token = .ok claims := by
    rw [readFrom_eq]
    exact read
  have about : s.IsAbout r (.revokeSessions segment) id :=
    ⟨found, asks.posted, ⟨segment, .inr rfl, decoded⟩, asks.outside⟩
  obtain ⟨t, reads, ends⟩ := about.run_of_carries ⟨token, shows, read', access⟩
  obtain rfl := world_eq_of_readsClocks reads
  have allowed : Role.admin ∈ (Principal.ofClaims claims).roles := role
  rw [ends, run_relay, if_pos allowed, own]
  rfl

/-- The admin service and the user service that it calls are built of loaded settings. The user
service verifies what the admin service signs, and keeps its internal paths to services. -/
structure HasPeer (s : AdminService) (users : UserService) (config peerConfig : ServiceConfig) :
    Prop where
  loaded : ∃ env, ServiceConfig.load .admin env = .ok config
  built : ∃ env admin, AdminConfig.load env = .ok admin ∧ make config admin = .ok s
  peerLoaded : ∃ env, ServiceConfig.load .user env = .ok peerConfig
  peerBuilt : ∃ costs, UserService.make peerConfig costs = .ok users
  paired : config.keys.IsPaired
  trusts : peerConfig.keys.Trusts config.keys
  covers : users.gate.CoversInternal

theorem make_ok {admin : AdminConfig} (built : make config admin = .ok s) :
    Codec.make config.keys config.settings = .ok s.codec ∧ s.peer = PeerClient.make admin := by
  rw [make, ServiceConfig.codec] at built
  cases coded : Codec.make config.keys config.settings with
  | error e =>
    rw [coded] at built
    cases built
  | ok c =>
    rw [coded] at built
    cases built
    exact ⟨rfl, rfl⟩

/-- The host's clock is not past the expiry of a token for the peer that is made now. -/
def InTime (config : ServiceConfig) (m : Moment) : Prop :=
  ∃ expiresAt, m.now.wholeSeconds.add? config.settings.lifetimes.s2s = some expiresAt ∧
    0 ≤ m.host ∧ m.host ≤ expiresAt.seconds

/-- The token of a call says that a service asks the peer, and the peer reads this. -/
structure IsCallToken (s : AdminService) (users : UserService) (m : Moment) (user : UserId)
    (token : String) (claims : Claims) : Prop where
  minted : s.codec.mintS2s m.now [s.peer.audience] = .ok (token, claims)
  shows : (UserService.revocation user token).Shows (.bearer token)
  read : users.codec.decode m.host m.now token = .ok claims
  service : claims.kind = .s2s
  flag : claims.s2s = some true
  audience : claims.audience = [s.peer.audience]

theorem HasPeer.exists_isCallToken (peered : s.HasPeer users config peerConfig)
    (genuine : s.codec.signer.IsGenuine) {m : Moment} (inTime : InTime config m) (user : UserId) :
    ∃ token claims, IsCallToken s users m user token claims := by
  obtain ⟨env, loaded⟩ := peered.loaded
  obtain ⟨-, admin, -, built⟩ := peered.built
  obtain ⟨costs, peerBuilt⟩ := peered.peerBuilt
  obtain ⟨expiresAt, added, since, until_⟩ := inTime
  have made := (make_ok built).1
  have usable := ServiceConfig.isUsable_of_load (by decide) loaded
  obtain ⟨token, minted⟩ := Codec.exists_s2s made genuine usable added s.peer.audience
  obtain ⟨-, encoded⟩ := Rotation.mint_ok minted
  obtain ⟨window, whole⟩ := Instant.window_of_added usable.s2s added
  have future := Instant.lt_of_wholeSeconds_lt window whole
  refine ⟨token, _, minted, shows_arrival encoded _ _, ?_, rfl, rfl, rfl⟩
  rw [Codec.decode_of_encode made (UserService.make_ok peerBuilt) peered.paired peered.trusts
    encoded, if_neg (by change ¬ expiresAt.seconds < 0; omega),
    if_neg (by change ¬ expiresAt.seconds < m.host; omega), if_neg (Instant.not_le.mpr future)]
  exact congrArg Except.ok (ite_self _)

/-- What becomes of a request to revoke: the call is made, and its reply is passed on. -/
theorem IsCallToken.run {token : String} {claims : Claims}
    (isToken : IsCallToken s users w.moment user token claims)
    (asks : s.AsksToRevoke r w.moment user) :
    (s.handle r).run (answer ⟨users, s.peer.baseUrl⟩) w =
      let (response, w') := (users.handle (UserService.revocation user token)).run World.answer w
      (Routing.answer false (((PeerClient.resultOf (reply response)).mapError fun e =>
        .refused (ApiError.ofPeer e)).map (Response.json 200)), w') := by
  rw [asks.run, PeerClient.revokeSessions, PeerClient.run_send users _ _ isToken.minted]
  simp only [UserService.revocation]
  cases PeerClient.resultOf (reply ((users.handle (arrival "POST"
    s!"/internal/users/{user.toText}/revoke-sessions" token)).run World.answer w).1) <;> rfl

/-- An administrator's request to revoke the sessions of a user is done at the user service, if the
admin service has a genuine key and addresses its tokens to this service: the gates let the call
in, every open record of the user is revoked and nothing else changes, and the answer is how many
there were, or that there is no such user. Addressed to another service, a call is refused and
nothing changes. -/
theorem revocation_crosses_services (peered : s.HasPeer users config peerConfig)
    (genuine : s.codec.signer.IsGenuine) (w : World) (inTime : InTime config w.moment)
    (countable : w.ledger.records.length < 2 ^ 64) (r : SessionTokens.Request) (user : UserId)
    (asks : s.AsksToRevoke r w.moment user) :
    let n : Neighbour := ⟨users, s.peer.baseUrl⟩
    (s.peer.audience = users.gate.serviceId →
      (∃ token claims call, s.codec.mintS2s w.moment.now [s.peer.audience] = .ok (token, claims) ∧
        n.request? ⟨"POST", s.peer.baseUrl ++ s!"/internal/users/{user.toText}/revoke-sessions",
          token⟩ = some call ∧ users.gate.LetsThrough call World.answer w none) ∧
      (∀ account, w.directory.find? user = some account → ∃ (ledger : Ledger) (count : Nat),
        (s.handle r).run n.answer w =
          (some (.json 200 (.object [("revoked", .number (.integer count))])),
            { w with ledger }) ∧
        w.ledger.RevokesAll ledger user count) ∧
      (w.directory.find? user = none → (s.handle r).run n.answer w =
        (some (.json 404 (.object [("error", .string "not_found"),
          ("message", .string "user not found")])), w))) ∧
    (s.peer.audience ≠ users.gate.serviceId → (s.handle r).run n.answer w =
      (some (.json 502 (.object [("error", .string "upstream_error"),
        ("message", .string "upstream service call failed")])), w)) := by
  intro n
  obtain ⟨token, claims, isToken⟩ := peered.exists_isCallToken genuine inTime user
  have ends := isToken.run asks
  refine ⟨fun own => ?_, fun other => ?_⟩
  · have addressed : users.gate.serviceId ∈ claims.audience := by
      rw [isToken.audience, own]
      exact List.mem_singleton_self _
    have through := UserService.letsThrough_revocation peered.covers isToken.shows isToken.read
      isToken.service isToken.flag addressed
    have handled := UserService.handle_revocation through
    refine ⟨⟨token, claims, _, isToken.minted, request?_eq n _ _ _, through⟩,
      fun account found => ?_, fun missing => ?_⟩
    · have small : (w.ledger.revokeAll user).1 < 2 ^ 64 :=
        Nat.lt_of_le_of_lt List.countP_le_length countable
      rw [found] at handled
      refine ⟨_, _, ?_, w.ledger.revokesAll_revokeAll user⟩
      rw [ends, handled]
      dsimp only
      rw [PeerClient.resultOf_revoked small]
      rfl
    · rw [missing] at handled
      rw [ends, handled]
      rfl
  · have elsewhere : users.gate.serviceId ∉ claims.audience := by
      rw [isToken.audience, List.mem_singleton]
      exact other ∘ Eq.symm
    obtain ⟨response, handled, status⟩ := UserService.handle_misaddressed peered.covers
      isToken.shows isToken.read isToken.service isToken.flag elsewhere
    obtain ⟨body, failed⟩ := PeerClient.resultOf_failed (a := response) (by omega) (by omega)
    rw [ends, handled]
    dsimp only
    rw [failed]
    rfl

end

namespace Sample

open UserService.Sample (secret costs craftedKey privatePem publicPem publicBytes)

def environment (others : List (String × String)) (files : List (String × List UInt8)) :
    Environment :=
  UserService.Sample.environment (("WARDEN_ADMIN_PASSWORD_HASH", "$argon2id") :: others) files

def config (privatePem publicPem : Option (List UInt8)) : ServiceConfig :=
  ⟨"admin-service", ⟨Utf8.bytes secret, privatePem, publicPem, none⟩,
    ⟨"admin-service", .standard, .standard⟩, ["/internal/"], .v4 ⟨0, 0, 0, 0⟩ 8081, none⟩

def admin : AdminConfig :=
  ⟨"admin", "$argon2id", "http://localhost:8080", "user-service"⟩

def service (codec : Codec) : AdminService :=
  ⟨⟨codec, "admin-service", ["/internal/"]⟩, "admin", "$argon2id",
    ⟨"http://localhost:8080", "user-service"⟩⟩

def codec : Codec :=
  ⟨.secret (Utf8.bytes secret), [.secret (Utf8.bytes secret)], (config none none).settings⟩

theorem loaded : ServiceConfig.load .admin (environment [] []) = .ok (config none none) := by
  decide +kernel

theorem adminLoaded : AdminConfig.load (environment [] []) = .ok admin := by
  decide +kernel

theorem built : make (config none none) admin = .ok (service codec) := rfl

def users : UserService :=
  UserService.Sample.service UserService.Sample.codec

theorem hasPeer : (service codec).HasPeer users (config none none)
    (UserService.Sample.config none none) where
  loaded := ⟨_, loaded⟩
  built := ⟨_, _, adminLoaded, built⟩
  peerLoaded := ⟨_, UserService.Sample.loaded⟩
  peerBuilt := ⟨_, UserService.Sample.built⟩
  paired _ _ _ signing := nomatch signing
  trusts := .inl ⟨rfl, rfl⟩
  covers := ⟨"/internal/", List.mem_singleton_self _, by decide⟩

def user : UserId :=
  Rotation.Sample.user

def moment : Moment :=
  Rotation.Sample.moment

/-- A user with one session. -/
def world : World :=
  ⟨⟨[.active ⟨⟨1⟩⟩ user ⟨"1"⟩ moment.now moment.now]⟩, Rotation.Sample.directory, moment, .counting⟩

def segment : String :=
  "00000000-0000-0000-0000-000000000007"

def target : String :=
  "/admin/users/" ++ segment ++ "/revoke-sessions"

def request (token : String) : SessionTokens.Request :=
  ⟨"POST", target, [⟨"authorization", Request.bearing token⟩], []⟩

theorem path_request (token : String) : (request token).path = target := by
  change String.ofList (target.toList.takeWhile Request.isPathChar) = target
  decide

/-- An administrator for a quarter of an hour. -/
def claims : Claims :=
  ⟨"admin", "user-service", [], moment.now, (Instant.ofSeconds? 900).get rfl, .access,
    some [.admin], none, none⟩

theorem inTime (privatePem publicPem : Option (List UInt8)) :
    InTime (config privatePem publicPem) world.moment :=
  ⟨(Instant.ofSeconds? 600).get rfl, by rfl, by decide, by decide⟩

/-- A codec that has the secret in its chain reads what the secret has signed for an administrator.
-/
theorem exists_asks {c : Codec} {privatePem publicPem : Option (List UInt8)}
    (made : Codec.make (config privatePem publicPem).keys (config privatePem publicPem).settings =
      .ok c) : ∃ token, (service c).AsksToRevoke (request token) world.moment user := by
  obtain ⟨token, encoded⟩ : ∃ token, UserService.Sample.codec.encode claims = .ok token :=
    Codec.exists_encode rfl (by decide)
  have paired : (UserService.Sample.config none none).keys.IsPaired :=
    fun _ _ _ signing => nomatch signing
  have madeOther : Codec.make (UserService.Sample.config none none).keys
      (UserService.Sample.config none none).settings = .ok UserService.Sample.codec := rfl
  have decoded := Codec.decode_of_encode madeOther made paired (.inl ⟨rfl, rfl⟩) encoded
    world.moment.host world.moment.now
  have shows : (request token).Shows (.bearer token) := by
    refine Request.shows_of_encode encoded ?_
    have named : Request.sameName "authorization" "authorization" = true := by decide
    rw [Request.header?, request, List.find?_cons_of_pos (by exact named), Option.map_some]
  have found : Endpoint.ofSegments? (request token).segments =
      some (.revokeSessions segment) := by
    rw [Request.segments, path_request]
    decide
  have outside : (service c).gate.isInternal (request token).path = false := by
    rw [path_request]
    change (["/internal/"].any fun start => startsWith start target) = false
    decide
  exact ⟨token, rfl, ⟨_, segment, found, by decide, by decide⟩, outside, token, claims, shows,
    decoded, rfl, List.mem_singleton_self _⟩

/-- The one session of the user is revoked. -/
theorem session_is_revoked : ∃ token ledger, (service codec).AsksToRevoke (request token)
      world.moment user ∧
    ((service codec).handle (request token)).run (answer ⟨users, "http://localhost:8080"⟩) world =
      (some (.json 200 (.object [("revoked", .number (.integer 1))])), { world with ledger }) ∧
    world.ledger.RevokesAll ledger user 1 := by
  have made : Codec.make (config none none).keys (config none none).settings = .ok codec := rfl
  obtain ⟨token, asks⟩ := exists_asks made
  obtain ⟨found, -⟩ := (revocation_crosses_services hasPeer trivial world (inTime none none)
    (by decide) (request token) user asks).1 rfl |>.2
  obtain ⟨ledger, count, answered, revokes⟩ := found _ rfl
  obtain rfl : count = 1 := revokes.counted
  exact ⟨token, ledger, asks, answered, revokes⟩

-- The key that is not genuine makes an access token for nobody, and no call either.
def craftedConfig : ServiceConfig :=
  config (some privatePem) (some publicPem)

def craftedCodec : Codec :=
  ⟨.rsa craftedKey, [.ofKey "rs256" (.rsa publicBytes), .secret (Utf8.bytes secret)],
    craftedConfig.settings⟩

def trustingConfig : ServiceConfig :=
  { UserService.Sample.config none none with
    keys := ⟨Utf8.bytes secret, none, none, some publicPem⟩ }

def trustingUsers : UserService :=
  UserService.Sample.service ⟨.secret (Utf8.bytes secret),
    [.ofKey "rs256-peer" (.rsa publicBytes), .secret (Utf8.bytes secret)], trustingConfig.settings⟩

theorem craftedMade : Codec.make craftedConfig.keys craftedConfig.settings = .ok craftedCodec :=
  Codec.make_of_pair _ (by decide) rfl rfl rfl UserService.Sample.readPair_crafted
    UserService.Sample.rsaKey?_publicPem

theorem craftedPaired : craftedConfig.keys.IsPaired := by
  intro privateKey pem publicKey signing published read message signature signed
  have own : Codec.signingKey craftedConfig.keys = .ok (.rsa craftedKey) :=
    UserService.Sample.readPair_crafted
  obtain rfl : craftedKey = privateKey :=
    SigningKey.rsa.inj (Except.ok.inj (own.symm.trans signing))
  obtain rfl : publicPem = pem := Option.some.inj published
  have half : publicKey? publicPem = some craftedKey.toPublic := by
    decide +kernel
  obtain rfl := Option.some.inj (half.symm.trans read)
  exact Crypto.Rsa.PrivateKey.verify_of_sign? signed

theorem trustingMade : UserService.make trustingConfig costs = .ok trustingUsers := by
  have peer : Verifier.peerKey publicPem = .ok (.ofKey "rs256-peer" (.rsa publicBytes)) := by
    rw [Verifier.peerKey, Verifier.ofFile, UserService.Sample.rsaKey?_publicPem]
  have chain : Codec.standardVerifiers trustingConfig.keys =
      .ok [.ofKey "rs256-peer" (.rsa publicBytes), .secret (Utf8.bytes secret)] := by
    change (do
      let peer ← (some publicPem).mapM Verifier.peerKey
      let own ← (none : Option (List UInt8)).mapM Verifier.ownKey
      .ok (peer.toList ++ own.toList ++ [Verifier.secret (Utf8.bytes secret)])) = _
    rw [Option.mapM_some, peer]
    rfl
  have checked : Codec.checkSecret trustingConfig.keys.secret = .ok () := by
    decide
  have made : Codec.make trustingConfig.keys trustingConfig.settings = .ok trustingUsers.codec := by
    simp only [Codec.make, Codec.withVerifiers, checked, chain]
    rfl
  rw [UserService.make, ServiceConfig.codec, made]
  rfl

theorem craftedHasPeer :
    (service craftedCodec).HasPeer trustingUsers craftedConfig trustingConfig where
  loaded := ⟨environment
    [("WARDEN_PRIVATE_KEY_PATH", "private.pem"), ("WARDEN_PUBLIC_KEY_PATH", "public.pem")]
    [("private.pem", privatePem), ("public.pem", publicPem)], by decide +kernel⟩
  built := ⟨_, admin, adminLoaded, by
    rw [make, ServiceConfig.codec, craftedMade]
    rfl⟩
  peerLoaded := ⟨UserService.Sample.environment [("WARDEN_PEER_PUBLIC_KEY_PATH", "peer.pem")]
    [("peer.pem", publicPem)], by decide +kernel⟩
  peerBuilt := ⟨costs, trustingMade⟩
  paired := craftedPaired
  trusts := .inr ⟨rfl, publicPem, publicPem, rfl, .inr rfl, rfl⟩
  covers := ⟨"/internal/", List.mem_singleton_self _, by decide⟩

theorem mintS2s_crafted : (service craftedCodec).codec.mintS2s world.moment.now
    [(service craftedCodec).peer.audience] =
      .error (.refused (.encoding (.serialization "signing failed"))) := by
  decide +kernel

/-- With such a key there is an answer to an administrator's request, but it is neither that of the
user service nor that of a call which is refused. -/
theorem revocation_with_crafted_key :
    (service craftedCodec).HasPeer trustingUsers craftedConfig trustingConfig ∧
    InTime craftedConfig world.moment ∧ world.ledger.records.length < 2 ^ 64 ∧
    (service craftedCodec).peer.audience = trustingUsers.gate.serviceId ∧
    (world.directory.find? user).isSome ∧
    ∃ token, (service craftedCodec).AsksToRevoke (request token) world.moment user ∧
      (((service craftedCodec).handle (request token)).run
        (answer ⟨trustingUsers, (service craftedCodec).peer.baseUrl⟩) world).1.map
          Response.status = some 500 := by
  obtain ⟨token, asks⟩ := exists_asks craftedMade
  refine ⟨craftedHasPeer, inTime _ _, by decide, rfl, rfl, token, asks, ?_⟩
  have fails := PeerClient.run_send_of_error
    ⟨trustingUsers, (service craftedCodec).peer.baseUrl⟩ "POST"
    s!"/internal/users/{user.toText}/revoke-sessions" mintS2s_crafted
  rw [asks.run, PeerClient.revokeSessions, fails]
  rfl

end Sample

end AdminService

end SessionTokens
