import SessionTokens.Proofs.Rotation.Exchange
import SessionTokens.Proofs.Rotation.Issuance

set_option autoImplicit false

namespace SessionTokens.Rotation

variable {codec : Codec}

/-- What is checked of a presented token before its exchange, all in one world. -/
def checked (codec : Codec) (w : World) (token : String) :
    Except RotationError (TokenId × Account) := do
  let (id, subject) ← presented codec w.moment token
  let account ← match ((UserId.read? subject).bind w.directory.find?).filter Account.enabled with
    | none => .error .unknownPrincipal
    | some account => .ok account
  let record ← usable account.id (w.ledger.find? id)
  if record.expiresAt ≤ w.moment.now then .error .tokenExpired else .ok (id, account)

/-- An exchange is its checks, which leave the world, and then the minting of a successor. -/
theorem run_rotate (codec : Codec) (w : World) (token : String) :
    (program codec (.rotate token)).run World.answer w =
      match checked codec w token with
      | .error e => (.error (.refused e), w)
      | .ok (id, account) =>
        (minting codec account.id (committing id account)).run World.answer w := by
  rw [program_rotate, presenting, Program.run]
  simp only [World.answer, checked]
  cases presented codec w.moment token with
  | error e => rfl
  | ok stated =>
    obtain ⟨id, subject⟩ := stated
    simp only [resolving, bind, Except.bind]
    cases UserId.read? subject with
    | none => rfl
    | some user =>
      simp only [Program.run, World.answer, Directory.answer, Option.bind_some]
      cases (w.directory.find? user).filter Account.enabled with
      | none => rfl
      | some account =>
        simp only [lookingUp, Program.run, World.answer, Ledger.answer]
        cases usable account.id (w.ledger.find? id) with
        | error e => rfl
        | ok record =>
          change Program.run World.answer (if record.expiresAt ≤ w.moment.now then _ else _) w = _
          dsimp only
          split <;> rfl

/-- An exchange that runs in a world on its own succeeds. -/
def accepts (codec : Codec) (w : World) (token : String) : Bool :=
  ((program codec (.rotate token)).run World.answer w).1.isOk

/-- A successor can be made for a user, under an identifier that is new. -/
def Mintable (codec : Codec) (w : World) (user : UserId) : Prop :=
  (∃ minted, codec.mintRefresh w.moment.now user.toText (TokenId.random w.draw.1) = .ok minted) ∧
    w.ledger.find? (TokenId.random w.draw.1) = none

theorem isOk_committing (w : World) (id : TokenId) (account : Account) (token : String)
    (child : Record) :
    ((committing id account token child).run World.answer w).1.isOk = true ↔
      w.ledger.find? child.tokenId = none ∧
        ∃ r, w.ledger.find? id = some r ∧ r.revoked = false := by
  cases stored : w.ledger.rotate id child with
  | error e =>
    simp only [committing, Program.run, World.answer, Ledger.answer, stored, commit, refusal]
    refine iff_of_false Bool.false_ne_true ?_
    rintro ⟨fresh, unrevoked⟩
    rw [(Ledger.rotate_ok_iff w.ledger _ id child).mpr ⟨fresh, unrevoked, rfl⟩] at stored
    cases stored
  | ok l' =>
    simp only [committing, Program.run, World.answer, Ledger.answer, stored, commit]
    obtain ⟨fresh, unrevoked, -⟩ := (Ledger.rotate_ok_iff _ _ _ _).mp stored
    exact iff_of_true rfl ⟨fresh, unrevoked⟩

theorem isOk_minting (w : World) (id : TokenId) (account : Account) :
    ((minting codec account.id (committing id account)).run World.answer w).1.isOk = true ↔
      Mintable codec w account.id ∧ ∃ r, w.ledger.find? id = some r ∧ r.revoked = false := by
  have moment : w.draw.2.moment = w.moment := rfl
  have ledger : w.draw.2.drawTimed.2.ledger = w.ledger := rfl
  simp only [minting, Program.run, World.answer, Mintable, moment]
  cases minted : codec.mintRefresh w.moment.now account.id.toText (TokenId.random w.draw.1) with
  | error fault =>
    refine iff_of_false Bool.false_ne_true ?_
    rintro ⟨⟨⟨made, same⟩, -⟩, -⟩
    cases same
  | ok made =>
    simp only [Program.run, World.answer]
    rw [isOk_committing, ledger, Record.active, and_assoc]
    exact (and_iff_right ⟨made, rfl⟩).symm

theorem usable_ok_iff {user : UserId} {found : Option Record} {r : Record} :
    usable user found = .ok r ↔ found = some r ∧ r.owner = user ∧ r.revoked = false := by
  refine ⟨fun allowed => ?_, ?_⟩
  · obtain ⟨present, own, unrevoked⟩ := usable_ok allowed
    exact ⟨present, own.symm, unrevoked⟩
  · rintro ⟨rfl, rfl, unrevoked⟩
    rw [usable_of_stands rfl, unrevoked, if_neg Bool.false_ne_true]

theorem isActiveAt_iff (r : Record) (now : Instant) :
    r.isActiveAt now = true ↔ r.revoked = false ∧ ¬ r.expiresAt ≤ now := by
  simp [Record.isActiveAt, Instant.not_le]

/-- The checks ask for a readable token, an enabled owner and an active record. -/
theorem checked_ok_iff {w : World} {token : String} {id : TokenId} {account : Account} :
    checked codec w token = .ok (id, account) ↔
      ∃ subject user record, presented codec w.moment token = .ok (id, subject) ∧
        UserId.read? subject = some user ∧ w.directory.find? user = some account ∧
        account.enabled = true ∧ w.ledger.find? id = some record ∧ record.owner = account.id ∧
        record.isActiveAt w.moment.now = true := by
  constructor
  · intro passes
    rw [checked] at passes
    cases stated : presented codec w.moment token with
    | error e =>
      rw [stated] at passes
      cases passes
    | ok read =>
      obtain ⟨id', subject⟩ := read
      rw [stated] at passes
      simp only [bind, Except.bind] at passes
      split at passes
      · cases passes
      · rename_i account' resolved
        obtain ⟨named, enabled⟩ := Option.filter_eq_some_iff.mp resolved
        obtain ⟨user, read, found⟩ := Option.bind_eq_some_iff.mp named
        cases allowed : usable account'.id (w.ledger.find? id') with
        | error e =>
          rw [allowed] at passes
          cases passes
        | ok record =>
          obtain ⟨present, own, unrevoked⟩ := usable_ok_iff.mp allowed
          rw [allowed] at passes
          dsimp only at passes
          split at passes
          · cases passes
          · rename_i unexpired
            cases passes
            exact ⟨subject, user, record, rfl, read, found, enabled, present, own,
              (isActiveAt_iff _ _).mpr ⟨unrevoked, unexpired⟩⟩
  · rintro ⟨subject, user, record, stated, read, found, enabled, present, own, active⟩
    obtain ⟨unrevoked, unexpired⟩ := (isActiveAt_iff _ _).mp active
    simp only [checked, stated, bind, Except.bind, read, Option.bind_some, found,
      Option.filter_some, enabled, if_true, usable_ok_iff.mpr ⟨present, own, unrevoked⟩,
      if_neg unexpired]

/-- An exchange on its own succeeds just when the checks pass, a successor can be made and the
record is unrevoked. -/
theorem accepts_iff {w : World} {token : String} :
    accepts codec w token = true ↔
      ∃ id account, checked codec w token = .ok (id, account) ∧ Mintable codec w account.id := by
  rw [accepts, run_rotate]
  cases passes : checked codec w token with
  | error e =>
    refine iff_of_false Bool.false_ne_true ?_
    rintro ⟨id, account, same, -⟩
    cases same
  | ok checked =>
    obtain ⟨id, account⟩ := checked
    obtain ⟨-, -, record, -, -, -, -, present, -, active⟩ := checked_ok_iff.mp passes
    have unrevoked := ((isActiveAt_iff _ _).mp active).1
    dsimp only
    rw [isOk_minting, and_iff_left ⟨record, present, unrevoked⟩]
    refine ⟨fun mintable => ⟨id, account, rfl, mintable⟩, ?_⟩
    rintro ⟨id', account', same, mintable⟩
    cases same
    exact mintable

/-- What is accepted is read. -/
theorem presented_of_accepts {w : World} {token : String} (accepted : accepts codec w token = true) :
    ∃ stated, presented codec w.moment token = .ok stated := by
  obtain ⟨id, account, passes, -⟩ := accepts_iff.mp accepted
  obtain ⟨subject, -, -, stated, -⟩ := checked_ok_iff.mp passes
  exact ⟨_, stated⟩

variable {keys : KeyMaterial} {settings : CodecSettings}

/-- A token states what its record says, until it expires by the host's clock or its own. -/
theorem Minted.exists_claims (made : Codec.make keys settings = .ok codec)
    (paired : keys.IsPaired) {user : UserId} {token : String} {record : Record}
    (minted : Minted codec user token record) :
    ∃ claims : Claims, codec.encode claims = .ok token ∧ claims.kind = .refresh ∧
      claims.tokenId = some record.tokenId ∧ UserId.read? claims.subject = some record.owner ∧
      claims.issuedAt = record.createdAt ∧ claims.expiresAt = record.expiresAt ∧
      ∀ host now, codec.decode host now token =
        if record.expiresAt.seconds < 0 then .error .malformed
        else if record.expiresAt.seconds < host then .error .expired
        else if record.expiresAt ≤ now then .error .expired
        else .ok claims := by
  obtain ⟨_, recordId, id, claims, mint, rfl⟩ := minted
  obtain ⟨stated, encoded⟩ := mint_ok mint
  obtain ⟨expiresAt, -, rfl⟩ := Option.map_eq_some_iff.mp stated
  refine ⟨_, encoded, rfl, rfl, UserId.read?_toText user, rfl, rfl, ?_⟩
  intro host now
  rw [Codec.decode_of_encode made made paired (trusts_self made) encoded, if_pos rfl]
  rfl

/-- Whatever a token is presented for, it is for its own record, before its expiry. -/
theorem Minted.of_presented (made : Codec.make keys settings = .ok codec)
    (paired : keys.IsPaired) {user : UserId} {token : String} {record : Record}
    (minted : Minted codec user token record) {moment : Moment} {id : TokenId} {subject : String}
    (stated : presented codec moment token = .ok (id, subject)) : id = record.tokenId := by
  obtain ⟨claims, -, -, named, -, -, -, decodes⟩ := minted.exists_claims made paired
  obtain ⟨claims', decoded, named'⟩ := presented_ok stated
  rw [decodes] at decoded
  split at decoded
  · cases decoded
  split at decoded
  · cases decoded
  split at decoded
  · cases decoded
  rw [← Except.ok.inj decoded, named] at named'
  exact (Option.some.inj named').symm

/-- Where nothing else stands in the way of its exchange, a token is accepted just when its record
is active. -/
theorem accepts_iff_active (made : Codec.make keys settings = .ok codec) (paired : keys.IsPaired)
    {token : String} {r : Record} {w : World} {account : Account}
    (minted : Minted codec r.owner token r.original) (found : w.ledger.find? r.tokenId = some r)
    (owner : w.directory.find? r.owner = some account) (enabled : account.enabled = true)
    (mintable : Mintable codec w r.owner)
    (host : r.isActiveAt w.moment.now = true →
      0 ≤ w.moment.host ∧ w.moment.host ≤ r.expiresAt.seconds) :
    accepts codec w token = true ↔ r.isActiveAt w.moment.now = true := by
  have own : account.id = r.owner := Directory.id_of_find? owner
  constructor
  · intro accepted
    obtain ⟨id, account', passes, -⟩ := accepts_iff.mp accepted
    obtain ⟨_, _, _, stated, -, -, -, present, -, active⟩ := checked_ok_iff.mp passes
    obtain rfl : id = r.tokenId := minted.of_presented made paired stated
    rw [found] at present
    obtain rfl := Option.some.inj present
    exact active
  · intro active
    have unexpired := ((isActiveAt_iff _ _).mp active).2
    obtain ⟨subject, stated, read⟩ :=
      presented_of_minted made paired minted (Instant.not_le.mp unexpired) (host active)
    refine accepts_iff.mpr ⟨r.tokenId, account, ?_, ?_⟩
    · exact checked_ok_iff.mpr
        ⟨subject, r.owner, r, stated, read, owner, enabled, found, own.symm, active⟩
    · rw [own]
      exact mintable

/-- One token is accepted for one identifier at most. -/
theorem tokenId_of_accepts (made : Codec.make keys settings = .ok codec) (paired : keys.IsPaired)
    {token : String} {user user' : UserId} {record record' : Record} {w : World}
    (minted : Minted codec user token record) (minted' : Minted codec user' token record')
    (accepted : accepts codec w token = true) : record.tokenId = record'.tokenId := by
  obtain ⟨⟨id, subject⟩, stated⟩ := presented_of_accepts accepted
  rw [← minted.of_presented made paired stated, minted'.of_presented made paired stated]

end SessionTokens.Rotation
