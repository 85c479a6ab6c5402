import SessionTokens.Proofs.Rotation.Undisturbed
import SessionTokens.Proofs.Token.Unpaired

set_option autoImplicit false

namespace SessionTokens.Rotation

/-- A first token is issued, and its exchange comes to the write. -/
def opening (directory : Directory) (user : UserId) (token : String) : List (Event Request) :=
  [.enroll directory, .arrive (.issue user), .step 0, .step 0, .step 0] ++
    .step 0 :: .arrive (.rotate token) :: List.replicate 7 (.step 1)

theorem next_committing (codec : Codec) (token successor : String)
    (threads : List (Thread Request Outcome)) {id : TokenId} {account : Account} {child : Record}
    {w : World} {l : Ledger} (stored : w.ledger.rotate id child = .ok l) :
    Traffic.next (program codec)
        ⟨w, threads ++ [⟨.rotate token, committing id account successor child⟩]⟩
        (.step threads.length) =
      ⟨{ w with ledger := l },
        threads ++ [⟨.rotate token, .done (.ok (.rotated ⟨successor, child, account⟩))⟩]⟩ := by
  rw [committing, Traffic.next_last]
  simp only [World.answer, Ledger.answer, stored, commit]

theorem exists_first_exchange {codec : Codec} {keys : KeyMaterial} {settings : CodecSettings}
    (made : Codec.make keys settings = .ok codec) (paired : keys.IsPaired)
    (user : UserId) (moment : Moment) (directory : Directory) (supply : Supply)
    (enabled : ∃ account, directory.find? user = some account ∧ account.enabled = true)
    {expiresAt : Instant}
    (mintable : ∀ id, ∃ token claims, codec.mintRefresh moment.now user.toText id =
      .ok (token, claims) ∧ claims.expiresAt = expiresAt)
    (future : moment.now < expiresAt)
    (host : 0 ≤ moment.host ∧ moment.host ≤ expiresAt.seconds)
    (distinct : TokenId.random (supply.source supply.drawn) ≠
      TokenId.random (supply.source (supply.drawn + 2))) :
    let world (l : Ledger) : World := ⟨l, directory, moment, ⟨supply.source, supply.drawn + 4⟩⟩
    ∃ (token successor : String) (r child : Record) (account : Account),
      r.owner = user ∧ r.revoked = false ∧ ReadsOnly codec token r.tokenId ∧
      child.tokenId ≠ r.tokenId ∧
      let issued : Thread Request Outcome := ⟨.issue user, .done (.ok (.issued ⟨token, r⟩))⟩
      let s := (Traffic.start moment supply : Service).run (program codec)
        (opening directory user token)
      s = ⟨world ⟨[r]⟩,
        [issued, ⟨.rotate token, committing r.tokenId account successor child⟩]⟩ ∧
      s.next (program codec) (.step 1) =
        ⟨world ⟨[Ledger.replace r.tokenId child.tokenId r, child]⟩,
          [issued, ⟨.rotate token, .done (.ok (.rotated ⟨successor, child, account⟩))⟩]⟩ := by
  intro world
  obtain ⟨token, r, named, own, minted, only, calm, -, after⟩ :=
    exists_first_token made paired user moment directory supply enabled mintable future host
  let issued : Thread Request Outcome := ⟨.issue user, .done (.ok (.issued ⟨token, r⟩))⟩
  let w : World := ⟨⟨[r]⟩, directory, moment, ⟨supply.source, supply.drawn + 2⟩⟩
  have found : w.ledger.find? r.tokenId = some r := by
    rw [find?_singleton, if_pos rfl]
  have free : w.ledger.find? (TokenId.random w.draw.1) = none := by
    rw [find?_singleton, named]
    exact if_neg distinct
  have quiet : ∀ thread ∈ [issued], ¬ thread.rest.Holds (TokenId.random w.draw.1) := by
    intro thread member
    rw [List.mem_singleton.mp member]
    exact not_false
  obtain ⟨account, successor, child, drawn, checked⟩ :=
    reaches_check made paired minted (calm w rfl rfl) found free quiet
  have other : child.tokenId ≠ r.tokenId := by
    rw [drawn, named]
    exact distinct.symm
  have stored : Ledger.rotate ⟨[r]⟩ r.tokenId child =
      .ok ⟨[Ledger.replace r.tokenId child.tokenId r, child]⟩ := by
    refine (Ledger.rotate_ok_iff _ _ _ _).mpr ⟨?_, ⟨r, found, minted.isNew.1.1⟩, rfl⟩
    rw [drawn]
    exact free
  have before : (Traffic.start moment supply : Service).run (program codec)
      (opening directory user token) =
        ⟨world ⟨[r]⟩, [issued, ⟨.rotate token, committing r.tokenId account successor child⟩]⟩ := by
    rw [opening, Traffic.run_append, Traffic.run_cons, after]
    exact checked.ends
  refine ⟨token, successor, r, child, account, own, minted.isNew.1.1, only, other, before, ?_⟩
  rw [before]
  exact next_committing codec token successor [issued] stored

namespace Sample

def keys : KeyMaterial :=
  ⟨List.replicate 32 7, none, none, none⟩

def settings : CodecSettings :=
  ⟨"login", .standard, .standard⟩

def codec : Codec :=
  ⟨.secret keys.secret, [.secret keys.secret], settings⟩

def user : UserId :=
  ⟨⟨7⟩⟩

def moment : Moment :=
  ⟨(Instant.ofSeconds? 0).get rfl, 0⟩

def directory : Directory :=
  ⟨[⟨user, "alice", "alice@example.org", "", [], true, moment.now⟩]⟩

theorem made : Codec.make keys settings = .ok codec := rfl

theorem paired : keys.IsPaired :=
  fun _ _ _ signing => nomatch signing

theorem mintable (id : TokenId) : ∃ token claims,
    codec.mintRefresh moment.now user.toText id = .ok (token, claims) ∧
      claims.expiresAt = ⟨604800, 0, by decide, by decide, by decide⟩ :=
  Codec.exists_mintRefresh (fun _ => ⟨_, rfl⟩) (by decide) (by decide) (by decide) (by decide) rfl id

/-- The same service with two keys that are no pair. -/
def unpairedCodec : Codec :=
  Unpaired.codec keys.secret settings

theorem made_unpaired : Codec.make (Unpaired.keys keys.secret) settings = .ok unpairedCodec :=
  Unpaired.made (by decide) settings

theorem mintable_unpaired (id : TokenId) : ∃ token claims,
    unpairedCodec.mintRefresh moment.now user.toText id = .ok (token, claims) ∧
      claims.expiresAt = ⟨604800, 0, by decide, by decide, by decide⟩ :=
  Codec.exists_mintRefresh (Unpaired.exists_sign? keys.secret settings) (by decide) (by decide)
    (by decide) (by decide) rfl id

/-- The first token that it makes, it does not read. -/
theorem exists_first_unread :
    let s := (Traffic.start moment .counting : Service).run (program unpairedCodec)
      [.enroll directory, .arrive (.issue user), .step 0, .step 0, .step 0]
    ∃ token r, r.tokenId = TokenId.random (Supply.counting.source 0) ∧ r.owner = user ∧
      r.revoked = false ∧ (∀ now : Moment, ∃ e, presented unpairedCodec now token = .error e) ∧
      (∀ w : World, w.moment = moment → w.directory = directory → Calm unpairedCodec r w) ∧
      s.threads = [⟨.issue user, storing token r⟩] ∧
      s.next (program unpairedCodec) (.step 0) =
        ⟨⟨⟨[r]⟩, directory, moment, ⟨Supply.counting.source, 2⟩⟩,
          [⟨.issue user, .done (.ok (.issued ⟨token, r⟩))⟩]⟩ := by
  intro s
  obtain ⟨token, r, named, own, ⟨claims, mints⟩, minted, calm, before, after⟩ :=
    exists_first_issue unpairedCodec user moment directory .counting ⟨_, rfl, rfl⟩ mintable_unpaired
      (by decide) (by decide)
  let given? : Option Claims := Claims.refresh? user.toText unpairedCodec.settings.issuer
    (TokenId.random (Supply.counting.source 0)) moment.now unpairedCodec.settings.lifetimes.refresh
  have fails : (given?.bind fun claims =>
        let message := (unpairedCodec.partsOf claims []).signed
        (Unpaired.key.sign? message).map (Unpaired.other.verify message)) = some false := by
    decide +kernel
  obtain ⟨given, encoded⟩ := mint_ok mints
  change given? = some claims at given
  rw [given, Option.bind_some] at fails
  refine ⟨token, r, named, own, minted.isNew.1.1, ?_, calm, congrArg Traffic.threads before, after⟩
  intro now
  exact exists_presented_error (Unpaired.exists_error (by decide) encoded fails now.host now.now)

end Sample

end SessionTokens.Rotation
