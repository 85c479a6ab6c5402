import SessionTokens.Proofs.Api.Handlers
import SessionTokens.Proofs.Rotation.Opening
import SessionTokens.Proofs.Token.Unpaired

set_option autoImplicit false

/- Requests that fail change nothing. A signup stores its account and a refresh spends its token
before the tokens of the answer are made, and neither is undone; so this rests on the making of
tokens, which cannot fail where settings were loaded and the key is genuine. -/
namespace SessionTokens

/-- A response of success. -/
def Response.IsSuccess (a : Response) : Prop :=
  200 ≤ a.status ∧ a.status < 300

theorem Directory.mem_of_insert {d d' : Directory} {a : Account} (stored : d.insert a = .ok d') :
    a ∈ d'.accounts := by
  unfold insert at stored
  split at stored
  · cases stored
  · cases stored
    exact List.mem_append_right _ (List.mem_singleton_self a)

namespace UserService

variable {s : UserService} {r : SessionTokens.Request} {w w' : World} {response : Option Response}

/-- The answer is a new session of an account: its access token, and its refresh token, which the
ledger has the record of. -/
def Grants (s : UserService) (now : Instant) (l : Ledger) (account : Account) (status : Nat)
    (response : Option Response) : Prop :=
  ∃ (access : String) (claims : Claims) (issued : Issued),
    s.codec.mintAccess now account.id.toText account.roles [] = .ok (access, claims) ∧
    Rotation.Minted s.codec account.id issued.token issued.record ∧ issued.record ∈ l.records ∧
    response = some (.json status (s.session access issued.token).toJson)

/-- A world is left as it was, or what is answered is what was done. -/
structure IsAllOrNothing (s : UserService) (r : SessionTokens.Request) (w : World)
    (response : Option Response) (w' : World) : Prop where
  failed : (∀ a, response = some a → ¬ a.IsSuccess) →
    w'.ledger = w.ledger ∧ w'.directory = w.directory
  reading : r.method ≠ "POST" → w'.ledger = w.ledger ∧ w'.directory = w.directory
  refreshed : r.path = "/auth/refresh" → w'.ledger ≠ w.ledger →
    ∃ account ∈ w.directory.accounts, s.Grants w.moment.now w'.ledger account 200 response
  enrolled : w'.directory ≠ w.directory →
    ∃ account ∈ w'.directory.accounts, s.Grants w.moment.now w'.ledger account 201 response

theorem isAllOrNothing_of_same (ledger : w'.ledger = w.ledger)
    (directory : w'.directory = w.directory) : IsAllOrNothing s r w response w' where
  failed _ := ⟨ledger, directory⟩
  reading _ := ⟨ledger, directory⟩
  refreshed _ changed := absurd ledger changed
  enrolled changed := absurd directory changed

/-- A write that is answered with success, on another path than that for refreshing. -/
theorem isAllOrNothing_of_success {a : Response} (success : a.IsSuccess)
    (posted : r.method = "POST") (other : r.path ≠ "/auth/refresh")
    (directory : w'.directory = w.directory) : IsAllOrNothing s r w (some a) w' where
  failed unsuccessful := absurd success (unsuccessful a rfl)
  reading notPosted := absurd posted notPosted
  refreshed path := absurd path other
  enrolled changed := absurd directory changed

/-- The tokens of a session can be made. -/
structure CanMint (s : UserService) (now : Instant) : Prop where
  access : ∀ (user : UserId) (roles : List Role), ∃ token claims,
    s.codec.mintAccess now user.toText roles [] = .ok (token, claims)
  refresh : ∀ (user : UserId) (id : TokenId), ∃ token claims,
    s.codec.mintRefresh now user.toText id = .ok (token, claims)

theorem CanMint.exists_access (able : s.CanMint w.moment.now) (account : Account) :
    ∃ access claims, s.codec.mintAccess w.moment.now account.id.toText account.roles [] =
      .ok (access, claims) ∧ s.accessFor w account = .ok access := by
  obtain ⟨access, claims, minted⟩ := able.access account.id account.roles
  refine ⟨access, claims, minted, ?_⟩
  rw [accessFor, minted]
  rfl

theorem CanMint.exists_fresh (able : s.CanMint w.moment.now) (user : UserId) :
    ∃ issued, Rotation.fresh s.codec w user = .ok issued := by
  obtain ⟨token, claims, minted⟩ := able.refresh user (TokenId.random w.draw.1)
  rw [Rotation.fresh, minted]
  exact ⟨_, rfl⟩

/-- Then a session can be started. -/
theorem CanMint.run_startSession (able : s.CanMint w.moment.now) (unused : w.IsUnused)
    (account : Account) : ∃ t w', (s.startSession account).run.run World.answer w = (.ok t, w') ∧
      w'.directory = w.directory ∧
      s.Grants w.moment.now w'.ledger account 201 (some (.json 201 t.toJson)) := by
  obtain ⟨w', resembles, runs⟩ := UserService.run_startSession s account w
  obtain ⟨access, claims, minted, has⟩ := able.exists_access account
  obtain ⟨issued, made⟩ := able.exists_fresh account.id
  obtain ⟨together, drawn⟩ := Rotation.minted_of_fresh made
  have free : w.ledger.find? issued.record.tokenId = none := by
    rw [drawn]
    exact unused _ (Nat.le_refl _)
  have stored := (Ledger.insert_ok_iff w.ledger _ issued.record).mpr ⟨free, rfl⟩
  rw [has, made] at runs
  dsimp only at runs
  rw [stored] at runs
  exact ⟨_, _, runs, resembles.directory, access, claims, issued, minted, together,
    List.mem_append_right _ (List.mem_singleton_self _), rfl⟩

/-- Where tokens can be made, every deed is whole. -/
theorem Deed.isAllOrNothing (deed : Deed s r w response w') (able : s.CanMint w.moment.now)
    (unused : w.IsUnused) : IsAllOrNothing s r w response w' := by
  have ok : 200 ≤ 200 ∧ 200 < 300 := by decide
  have created : 200 ≤ 201 ∧ 201 < 300 := by decide
  cases deed with
  | idle resembles => exact isAllOrNothing_of_same resembles.ledger resembles.directory
  | login posted path resembles stored =>
    refine isAllOrNothing_of_success ok posted ?_ resembles.directory
    rw [path]
    decide
  | @signup w₁ _ account directory _ posted path resembles enrolled starts =>
    have able₁ : s.CanMint w₁.moment.now := resembles.moment ▸ able
    have unused₁ : World.IsUnused { w₁ with directory } := resembles.isUnused unused
    obtain ⟨t, w₂, runs, same, grants⟩ :=
      CanMint.run_startSession (w := { w₁ with directory }) able₁ unused₁ account
    rw [runs] at starts
    cases starts
    have present : account ∈ w'.directory.accounts := same ▸ Directory.mem_of_insert enrolled
    refine ⟨fun unsuccessful => absurd created (unsuccessful _ rfl), fun reading =>
      absurd posted reading, fun elsewhere => ?_, fun _ => ⟨account, present, ?_⟩⟩
    · rw [path] at elsewhere
      exact absurd elsewhere (by decide)
    · rw [← resembles.moment]
      exact grants
  | @refresh _ body id account child ledger posted path read passes resembles made stored =>
    obtain ⟨access, claims, minted, has⟩ := able.exists_access account
    obtain ⟨together, -⟩ := Rotation.minted_of_fresh made
    obtain ⟨-, user, -, -, -, found, -⟩ := Rotation.checked_ok_iff.mp passes
    obtain ⟨-, -, rfl⟩ := (Ledger.rotate_ok_iff _ _ _ _).mp stored
    rw [has]
    refine ⟨fun unsuccessful => absurd ok (unsuccessful _ rfl), fun reading =>
      absurd posted reading, fun _ _ => ⟨account, List.mem_of_find?_eq_some found, ?_⟩,
      fun changed => absurd resembles.directory changed⟩
    exact ⟨access, claims, child, minted, together,
      List.mem_append_right _ (List.mem_singleton_self _), rfl⟩
  | logout posted path through own resembles =>
    refine isAllOrNothing_of_success (by decide : 200 ≤ 204 ∧ 204 < 300) posted ?_
      resembles.directory
    rw [path]
    decide
  | @revocation _ _ segment _ _ posted found through named own resembles =>
    refine isAllOrNothing_of_success ok posted ?_ resembles.directory
    intro elsewhere
    have inside := Endpoint.startsWith_path (e := .revokeSessions segment) rfl
    rw [← Endpoint.path_of_segments found, elsewhere] at inside
    exact absurd inside (by decide)

theorem make_ok {config : ServiceConfig} {costs : Crypto.Argon2.Costs}
    (built : make config costs = .ok s) : Codec.make config.keys config.settings = .ok s.codec := by
  rw [make, ServiceConfig.codec] at built
  cases coded : Codec.make config.keys config.settings with
  | error e =>
    rw [coded] at built
    cases built
  | ok c =>
    rw [coded] at built
    cases built
    rfl

/-- A service that was built of loaded settings can make tokens with a genuine key. -/
theorem canMint_of_load {env : Environment} {config : ServiceConfig}
    {costs : Crypto.Argon2.Costs} (loaded : ServiceConfig.load .user env = .ok config)
    (built : make config costs = .ok s) (genuine : s.codec.signer.IsGenuine) {now : Instant}
    (access : (now.add? config.settings.lifetimes.access).isSome)
    (refresh : (now.add? config.settings.lifetimes.refresh).isSome) : s.CanMint now := by
  have made := make_ok built
  have usable := ServiceConfig.isUsable_of_load (by decide) loaded
  exact ⟨fun _ => Codec.exists_access made genuine usable access,
    fun _ => Codec.exists_refresh made genuine usable refresh⟩

/-- A service that was built of loaded settings, and signs with a genuine key if with one of RSA,
handles every request wholly or not at all: an answer that is no success leaves the ledger and the
directory as they were, and so does every request that is no `POST`. A refresh that spends a token
answers with the new pair, and whatever enrolls an account answers with a session of it. -/
theorem failed_requests_change_nothing {env : Environment} {config : ServiceConfig}
    {costs : Crypto.Argon2.Costs} (loaded : ServiceConfig.load .user env = .ok config)
    (built : make config costs = .ok s) (genuine : s.codec.signer.IsGenuine)
    (r : SessionTokens.Request) (w : World)
    (access : (w.moment.now.add? config.settings.lifetimes.access).isSome)
    (refresh : (w.moment.now.add? config.settings.lifetimes.refresh).isSome)
    (unused : w.IsUnused) :
    IsAllOrNothing s r w ((s.handle r).run World.answer w).1
      ((s.handle r).run World.answer w).2 := by
  have able := canMint_of_load loaded built genuine access refresh
  exact (handle_deed s r w).isAllOrNothing able unused

namespace Sample

def secret : String :=
  "0123456789abcdef0123456789abcdef"

def environment (others : List (String × String)) (files : List (String × List UInt8)) :
    Environment :=
  ⟨fun name => (("WARDEN_HMAC_SECRET", secret) :: others).lookup name, fun path =>
    files.lookup path⟩

def config (privatePem publicPem : Option (List UInt8)) : ServiceConfig :=
  ⟨"user-service", ⟨Text.Utf8.bytes secret, privatePem, publicPem, none⟩,
    ⟨"user-service", .standard, .standard⟩, ["/internal/"], .v4 ⟨0, 0, 0, 0⟩ 8080, none⟩

def costs : Crypto.Argon2.Costs :=
  ⟨8, 1, 1⟩

def service (codec : Codec) : UserService :=
  ⟨⟨codec, "user-service", ["/internal/"]⟩, costs⟩

def signup : SessionTokens.Request :=
  ⟨"POST", "/auth/signup", [⟨"content-type", Text.Utf8.bytes "application/json"⟩], Text.Utf8.bytes
    "\x7b\"username\":\"ada\",\"email\":\"ada@example.org\",\"password\":\"correct horse\"\x7d"⟩

def world : World :=
  .start Rotation.Sample.moment .counting

/-- The identifier of the first to sign up, for whom the salt of the password is drawn before. -/
def first : UserId :=
  ⟨world.draw.2.drawTimed.1⟩

theorem isUnused_world : world.IsUnused :=
  fun _ _ => rfl

def codec : Codec :=
  ⟨.secret (Text.Utf8.bytes secret), [.secret (Text.Utf8.bytes secret)],
    (config none none).settings⟩

theorem loaded : ServiceConfig.load .user (environment [] []) = .ok (config none none) := by
  decide +kernel

theorem built : make (config none none) costs = .ok (service codec) := rfl

/-- What the signup ends in. It is for the kernel to work out. -/
@[irreducible] def signedUp : Option Response × World :=
  ((service codec).handle signup).run World.answer world

theorem signup_enrolls : signedUp.2.directory ≠ world.directory := by
  decide +kernel

/-- A signup to the service with a secret enrolls an account and answers with a session of it. -/
theorem signup_is_whole : ∃ account ∈ signedUp.2.directory.accounts,
    (service codec).Grants world.moment.now signedUp.2.ledger account 201 signedUp.1 := by
  have whole : IsAllOrNothing (service codec) signup world signedUp.1 signedUp.2 := by
    rw [signedUp]
    exact failed_requests_change_nothing loaded built trivial signup world (by decide) (by decide)
      isUnused_world
  exact whole.enrolled signup_enrolls

/- The factors of this key are one more than a multiple of 101, and its exponents undo the public
one only for numbers that are powers of 101 modulo both. The message that is signed when keys are
read is such a number; hardly any other is. -/
def factor (a : Nat) : Nat :=
  202 * (2 ^ 1016 + a) + 1

/-- Undoes the public exponent modulo a hundred-and-first of `factor a - 1`. -/
def exponent (a multiple : Nat) : Nat :=
  (2 * (2 ^ 1016 + a) * multiple + 1) / 65537

def craftedKey : Crypto.Rsa.PrivateKey where
  toPublic := ⟨factor 29385 * factor 18434, 65537⟩
  prime1 := factor 29385
  prime2 := factor 18434
  exponent1 := exponent 29385 63016
  exponent2 := exponent 18434 63902
  coefficient := (factor 29385 * 1695589 - 1) / (factor 29385 - factor 18434)

def privateExponent : Nat :=
  ((factor 29385 - 1) * (factor 18434 - 1) * 21266 + 1) / 65537

def privatePem : List UInt8 :=
  let k := craftedKey
  Pem.write "RSA PRIVATE KEY" (Der.writeNaturals [0, k.toPublic.modulus, k.toPublic.exponent,
    privateExponent, k.prime1, k.prime2, k.exponent1, k.exponent2, k.coefficient])

def publicBytes : List UInt8 :=
  Der.writeNaturals [craftedKey.toPublic.modulus, craftedKey.toPublic.exponent]

def publicPem : List UInt8 :=
  Pem.write "RSA PUBLIC KEY" publicBytes

def craftedEnvironment : Environment :=
  environment
    [("WARDEN_PRIVATE_KEY_PATH", "private.pem"), ("WARDEN_PUBLIC_KEY_PATH", "public.pem")]
    [("private.pem", privatePem), ("public.pem", publicPem)]

def craftedConfig : ServiceConfig :=
  config (some privatePem) (some publicPem)

def craftedCodec : Codec :=
  ⟨.rsa craftedKey, [.ofKey "rs256" (.rsa publicBytes), .secret (Text.Utf8.bytes secret)],
    (config none none).settings⟩

theorem readPair_crafted :
    SigningKey.readPair privatePem publicPem = .ok (.rsa craftedKey) := by
  decide +kernel

theorem rsaKey?_publicPem : Pem.rsaKey? publicPem = some publicBytes := by
  decide +kernel

theorem built_crafted : make craftedConfig costs = .ok (service craftedCodec) := by
  have made : Codec.make craftedConfig.keys (config none none).settings = .ok craftedCodec :=
    Codec.make_of_pair _ (by decide) rfl rfl rfl readPair_crafted rsaKey?_publicPem
  change Except.map _ (Codec.make craftedConfig.keys (config none none).settings) = _
  rw [made]
  rfl

/-- With this key the service starts and a signup fails, but the account stays. -/
theorem signup_with_crafted_key :
    ∃ s, ServiceConfig.load .user craftedEnvironment = .ok craftedConfig ∧
      make craftedConfig costs = .ok s ∧
      (world.moment.now.add? craftedConfig.settings.lifetimes.access).isSome ∧
      (world.moment.now.add? craftedConfig.settings.lifetimes.refresh).isSome ∧
      (world.moment.now.add? craftedConfig.settings.lifetimes.s2s).isSome ∧ world.IsUnused ∧
      ((s.handle signup).run World.answer world).1.map Response.status = some 500 ∧
      world.directory.accounts = [] ∧
      ((s.handle signup).run World.answer world).2.directory.accounts.map Account.username =
        ["ada"] := by
  have loads : ServiceConfig.load .user craftedEnvironment = .ok craftedConfig := by
    decide +kernel
  have fails : (((service craftedCodec).handle signup).run World.answer world).1.map
      Response.status = some 500 := by
    decide +kernel
  have stays : (((service craftedCodec).handle signup).run World.answer
      world).2.directory.accounts.map Account.username = ["ada"] := by
    decide +kernel
  exact ⟨_, loads, built_crafted, by decide, by decide, by decide, isUnused_world, fails, rfl,
    stays⟩

end Sample

end UserService

end SessionTokens
