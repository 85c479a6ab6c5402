import SessionTokens.Proofs.Api.Enrolling
import SessionTokens.Proofs.Api.Sessions

set_option autoImplicit false

namespace SessionTokens

open Text

/-- From one whole second to another it is a whole number of seconds. -/
theorem Instant.seconds_of_add? {t later : Instant} {d : Span} (added : t.add? d = some later)
    (start : t.nanos = 0) (whole : later.nanos = 0) : later.seconds - t.seconds = d.seconds := by
  obtain ⟨seconds, nanos⟩ := make?_eq_some added
  rw [start] at seconds nanos
  obtain ⟨k, millis⟩ : ∃ k, d.millis = 1000 * k := ⟨d.millis / 1000, by omega⟩
  rw [Span.seconds, millis, Int.mul_tdiv_cancel_left _ (by decide)]
  omega

namespace Codec

variable {c : Codec} {keys : KeyMaterial} {settings : CodecSettings} {now : Instant}
  {token subject : String} {claims : Claims}

/-- What a token is read as at every moment before it expires. -/
def ReadsAs (c : Codec) (token : String) (claims : Claims) : Prop :=
  ∀ m : Moment, 0 ≤ m.host → m.host ≤ claims.expiresAt.seconds → m.now < claims.expiresAt →
    c.decode m.host m.now token = .ok claims

/-- A codec reads what it makes, and its claims are in order. -/
theorem readsAs_of_mint (made : make keys settings = .ok c) (paired : keys.IsPaired)
    {claims? : Option Claims} (minted : c.mint claims? = .ok (token, claims)) :
    claims? = some claims ∧ c.ReadsAs token claims ∧ claims.flaw? = none := by
  obtain ⟨given, encoded⟩ := Rotation.mint_ok minted
  exact ⟨given, fun m since until_ future =>
    Rotation.decode_own made paired encoded since until_ future, (encode_ok encoded).1⟩

end Codec

namespace UserService

variable {s : UserService} {r : SessionTokens.Request} {w w' : World} {account : Account}
  {keys : KeyMaterial} {settings : CodecSettings} {now : Instant} {token : String} {claims : Claims}

/-- A token with which an account gets access from an instant on. -/
structure IsAccessOf (s : UserService) (now : Instant) (account : Account) (token : String)
    (claims : Claims) : Prop where
  reads : s.codec.ReadsAs token claims
  future : now < claims.expiresAt
  kind : claims.kind = .access
  subject : claims.subject = account.id.toText
  audience : claims.audience = []
  roles : claims.roles = some account.roles

/-- A token that an account can exchange from an instant on, and its record. -/
structure IsRefreshOf (s : UserService) (now : Instant) (l : Ledger) (account : Account)
    (token : String) (claims : Claims) (record : Record) : Prop where
  reads : s.codec.ReadsAs token claims
  future : now < claims.expiresAt
  kind : claims.kind = .refresh
  subject : claims.subject = account.id.toText
  named : claims.tokenId = some record.tokenId
  found : l.find? record.tokenId = some record
  unrevoked : record.revoked = false
  own : record.owner = account.id
  expires : record.expiresAt = claims.expiresAt

theorem isAccessOf_of_mintAccess (made : Codec.make keys settings = .ok s.codec)
    (paired : keys.IsPaired)
    (minted : s.codec.mintAccess now account.id.toText account.roles [] = .ok (token, claims)) :
    s.IsAccessOf now account token claims ∧ claims.expiresAt.seconds - claims.issuedAt.seconds =
      s.codec.settings.lifetimes.access.seconds := by
  obtain ⟨given, reads, valid⟩ := Codec.readsAs_of_mint made paired minted
  obtain ⟨window, -, whole⟩ := Claims.times_of_valid valid
  obtain ⟨expiresAt, added, rfl⟩ := Option.map_eq_some_iff.mp given
  exact ⟨⟨reads, Instant.lt_of_wholeSeconds_lt window whole, rfl, rfl, rfl, rfl⟩,
    Instant.seconds_of_add? added rfl whole⟩

theorem isRefreshOf_of_mintRefresh (made : Codec.make keys settings = .ok s.codec)
    (paired : keys.IsPaired) {id : TokenId}
    (minted : s.codec.mintRefresh now account.id.toText id = .ok (token, claims)) {l : Ledger}
    (distinct : l.IsDistinct) {recordId : RecordId}
    (inside : .active recordId account.id id claims.issuedAt claims.expiresAt ∈ l.records) :
    s.IsRefreshOf now l account token claims
      (.active recordId account.id id claims.issuedAt claims.expiresAt) := by
  obtain ⟨given, reads, valid⟩ := Codec.readsAs_of_mint made paired minted
  obtain ⟨window, -, whole⟩ := Claims.times_of_valid valid
  obtain ⟨expiresAt, -, rfl⟩ := Option.map_eq_some_iff.mp given
  exact ⟨reads, Instant.lt_of_wholeSeconds_lt window whole, rfl, rfl, rfl,
    Ledger.find?_of_mem distinct inside, rfl, rfl, rfl⟩

/-- The account of a session is one of the directory that the request leaves. -/
theorem Opens.mem {e : Endpoint} {status : Nat} (opens : Opens s r w w' account e status) :
    account ∈ w'.directory.accounts := by
  cases opens with
  | signup _ _ enrolled => exact Directory.mem_of_insert enrolled
  | login _ named _ _ kept => exact kept ▸ (Directory.mem_of_findUsername? named).1
  | refresh _ _ _ _ found _ kept => exact kept ▸ (Directory.mem_of_find? found).1

/-- In every state that requests and the storing of seeds can bring about: a signup, a login and a
refresh that succeed answer with two tokens of one account. The access token states the account's
identifier and the roles that the directory has for it, which are a user's unless the account is a
seed; the refresh token states the same identifier and has an unrevoked record of that account, with
the token's own expiry; and the lifetime in the answer is the access token's. -/
theorem session_tokens_agree (made : Codec.make keys settings = .ok s.codec)
    (paired : keys.IsPaired) {seed : Account → Prop} (moment : Moment) (supply : Supply)
    {events : List (Event SessionTokens.Request)}
    (seeded : Traffic.IsSeededWith s.handle seed (.start moment supply) events)
    (r : SessionTokens.Request) {e : Endpoint}
    (found : Endpoint.ofSegments? r.segments = some e) (opening : e.IsOpening) :
    let w := ((Traffic.start moment supply : Traffic SessionTokens.Request (Option Response)).run
      s.handle events).world
    ∀ response w', (s.handle r).run World.answer w = (some response, w') → response.IsSuccess →
      ∃ account status, Opens s r w w' account e status ∧
        w'.directory.find? account.id = some account ∧
        (seed account ∨ account.roles = [Role.user]) ∧
        ∃ access refresh a c record, s.IsAccessOf w.moment.now account access a ∧
          s.IsRefreshOf w.moment.now w'.ledger account refresh c record ∧
          response = .json status (TokenResponse.toJson ⟨access, some refresh, "Bearer",
            a.expiresAt.seconds - a.issuedAt.seconds⟩) := by
  intro w response w' runs success
  have users (a : Account) (roles : a.roles = [Role.user]) : seed a ∨ a.roles = [Role.user] :=
    Or.inr roles
  have after : ((s.handle r).run World.answer w).2 = w' := congrArg Prod.snd runs
  have built : w'.directory.IsBuiltOf fun a => seed a ∨ a.roles = [Role.user] :=
    after ▸ (enrolls_handle users s r).isBuiltOf
      (Traffic.isBuiltOf_run (fun a => Or.inl) (enrolls_handle users s) moment supply seeded)
  have distinct : w'.ledger.IsDistinct :=
    after ▸ Program.isDistinct_run (s.handle r)
      (Traffic.isDistinct_run s.handle moment supply events)
  obtain ⟨account, status, opens, access, refresh, a, c, recordId, id, minted, minted', inside,
    answered⟩ := opens_of_isSuccess found opening runs success
  obtain ⟨isAccess, lifetime⟩ := isAccessOf_of_mintAccess made paired minted
  refine ⟨account, status, opens, built.isDistinct.find?_of_mem opens.mem, built.of_mem opens.mem,
    access, refresh, a, c, _, isAccess,
    isRefreshOf_of_mintRefresh made paired minted' distinct inside, ?_⟩
  rw [answered, session, TokenResponse.bearer, lifetime]

namespace Sample

theorem ofSegments?_signup : Endpoint.ofSegments? signup.segments = some .signup := by
  decide

theorem signedUp_status : signedUp.1.map Response.status = some 201 := by
  decide +kernel

theorem host_le {t : Instant} (future : world.moment.now < t) : world.moment.host ≤ t.seconds := by
  rw [Instant.lt_def] at future
  change (0 : Int) < _ ∨ (0 : Int) = _ ∧ _ at future
  change (0 : Int) ≤ _
  omega

/-- Somebody signs up, and at once the codec reads both tokens of the session. -/
theorem signup_tokens_agree : ∃ (account : Account) (access refresh : String) (a c : Claims)
    (record : Record), signedUp.2.directory.find? account.id = some account ∧
      codec.decode world.moment.host world.moment.now access = .ok a ∧ a.kind = .access ∧
      a.subject = account.id.toText ∧ a.audience = [] ∧ a.roles = some [Role.user] ∧
      codec.decode world.moment.host world.moment.now refresh = .ok c ∧ c.kind = .refresh ∧
      c.subject = account.id.toText ∧ c.tokenId = some record.tokenId ∧
      signedUp.2.ledger.find? record.tokenId = some record ∧ record.revoked = false ∧
      record.owner = account.id ∧ record.expiresAt = c.expiresAt ∧
      signedUp.1 = some (.json 201 (TokenResponse.toJson ⟨access, some refresh, "Bearer",
        a.expiresAt.seconds - a.issuedAt.seconds⟩)) := by
  obtain ⟨response, answered, status⟩ := Option.map_eq_some_iff.mp signedUp_status
  have runs : ((service codec).handle signup).run World.answer world =
      (some response, signedUp.2) := by
    rw [← answered, signedUp]
  have success := Response.isSuccess_of_created status
  have made : Codec.make (config none none).keys (config none none).settings = .ok codec := rfl
  have paired : (config none none).keys.IsPaired := by
    intro _ _ _ signing
    cases signing
  have unseeded : Traffic.IsSeededWith (service codec).handle (fun _ => False)
    (.start Rotation.Sample.moment .counting) [] := trivial
  obtain ⟨account, _, opens, present, seed | roles, access, refresh, a, c, record, first, second,
      same⟩ := session_tokens_agree made paired Rotation.Sample.moment .counting unseeded signup
    ofSegments?_signup (Or.inl rfl) response signedUp.2 runs success
  · exact seed.elim
  · cases opens
    refine ⟨account, access, refresh, a, c, record, present,
      first.reads world.moment (by decide) (host_le first.future) first.future, first.kind,
      first.subject, first.audience, roles ▸ first.roles,
      second.reads world.moment (by decide) (host_le second.future) second.future, second.kind,
      second.subject, second.named, second.found, second.unrevoked, second.own, second.expires, ?_⟩
    rw [answered, same]

def unpairedEnvironment : Environment :=
  environment
    [("WARDEN_PRIVATE_KEY_PATH", "private.pem"), ("WARDEN_PUBLIC_KEY_PATH", "public.pem")]
    [("private.pem", Unpaired.privatePem), ("public.pem", Unpaired.publicPem)]

def unpairedConfig : ServiceConfig :=
  config (some Unpaired.privatePem) (some Unpaired.publicPem)

def unpairedCodec : Codec :=
  Unpaired.codec (Utf8.bytes secret) (config none none).settings

theorem long_secret : minSecretLength ≤ (Utf8.bytes secret).length := by
  decide

theorem built_unpaired : make unpairedConfig costs = .ok (service unpairedCodec) := by
  have made : Codec.make unpairedConfig.keys (config none none).settings = .ok unpairedCodec :=
    Unpaired.made long_secret _
  change Except.map _ (Codec.make unpairedConfig.keys (config none none).settings) = _
  rw [made]
  rfl

theorem exists_error_unpaired {claims : Claims} {token : String} (given : Claims.access?
      first.toText unpairedCodec.settings.issuer [] [.user] world.moment.now
      unpairedCodec.settings.lifetimes.access = some claims)
    (encoded : unpairedCodec.encode claims = .ok token) (host : Int) (now : Instant) :
    ∃ e, unpairedCodec.decode host now token = .error e := by
  have fails : ((Claims.access? first.toText unpairedCodec.settings.issuer [] [.user]
      world.moment.now unpairedCodec.settings.lifetimes.access).bind fun claims =>
        let message := (unpairedCodec.partsOf claims []).signed
        (Unpaired.key.sign? message).map (Unpaired.other.verify message)) = some false := by
    decide +kernel
  rw [given, Option.bind_some] at fails
  exact Unpaired.exists_error long_secret encoded fails host now

theorem signup_unpaired_status :
    (((service unpairedCodec).handle signup).run World.answer world).1.map Response.status =
      some 201 := by
  decide +kernel

/-- With such a pair a service starts and answers a signup with a session, but its codec does not
read the access token. -/
theorem signup_with_unpaired_key :
    ∃ s, ServiceConfig.load .user unpairedEnvironment = .ok unpairedConfig ∧
      make unpairedConfig costs = .ok s ∧
      ∃ (access refresh : String) (a : Claims),
        ((s.handle signup).run World.answer world).1 =
          some (.json 201 (s.session access refresh).toJson) ∧
        s.codec.encode a = .ok access ∧ world.moment.host ≤ a.expiresAt.seconds ∧
        world.moment.now < a.expiresAt ∧
        ∃ e, s.codec.decode world.moment.host world.moment.now access = .error e := by
  have loads : ServiceConfig.load .user unpairedEnvironment = .ok unpairedConfig := by
    decide +kernel
  obtain ⟨answer, w', runs⟩ : ∃ answer w',
      ((service unpairedCodec).handle signup).run World.answer world = (answer, w') :=
    ⟨_, _, Prod.mk.eta.symm⟩
  have created := signup_unpaired_status
  rw [runs] at created
  obtain ⟨response, rfl, status⟩ := Option.map_eq_some_iff.mp created
  have success := Response.isSuccess_of_created status
  refine ⟨service unpairedCodec, loads, built_unpaired, ?_⟩
  rw [runs]
  obtain ⟨account, _, opens, access, refresh, a, _, _, _, minted, -, -, same⟩ :=
    opens_of_isSuccess ofSegments?_signup (Or.inl rfl) runs success
  cases opens with
  | @signup body read new enrolled =>
    have own : account.id = first := by
      rw [new]
      rfl
    have roles : account.roles = [.user] := by
      rw [new]
      rfl
    rw [own, roles] at minted
    obtain ⟨given, encoded⟩ := Rotation.mint_ok minted
    have valid := (Codec.encode_ok encoded).1
    obtain ⟨window, -, whole⟩ := Claims.times_of_valid valid
    have unread := exists_error_unpaired given encoded world.moment.host world.moment.now
    obtain ⟨expiresAt, -, rfl⟩ := Option.map_eq_some_iff.mp given
    have future := Instant.lt_of_wholeSeconds_lt window whole
    exact ⟨access, refresh, _, congrArg some same, encoded, host_le future, future, unread⟩

end Sample

end UserService

end SessionTokens
