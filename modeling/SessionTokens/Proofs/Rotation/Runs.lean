import SessionTokens.Proofs.Program.Quiet
import SessionTokens.Proofs.Rotation.Acceptance

set_option autoImplicit false

namespace SessionTokens.Rotation

variable {codec : Codec} {user : UserId} {w : World}

/-- The token and the record that a world has for a user next. -/
def fresh (codec : Codec) (w : World) (user : UserId) : Checked RotationError Issued :=
  match codec.mintRefresh w.moment.now user.toText (TokenId.random w.draw.1) with
  | .error fault => .error (fault.map .token)
  | .ok (token, claims) => .ok ⟨token, .active ⟨w.draw.2.drawTimed.1⟩ user
      (TokenId.random w.draw.1) claims.issuedAt claims.expiresAt⟩

theorem fresh_ok {issued : Issued} (made : fresh codec w user = .ok issued) : ∃ claims,
    codec.mintRefresh w.moment.now user.toText (TokenId.random w.draw.1) =
      .ok (issued.token, claims) ∧
    issued.record = .active ⟨w.draw.2.drawTimed.1⟩ user (TokenId.random w.draw.1) claims.issuedAt
      claims.expiresAt := by
  unfold fresh at made
  split at made
  · cases made
  · rename_i token claims minted
    cases made
    exact ⟨claims, minted, rfl⟩

theorem fresh_error {fault : Fault RotationError} (failed : fresh codec w user = .error fault) :
    ∃ e, codec.mintRefresh w.moment.now user.toText (TokenId.random w.draw.1) = .error e ∧
      fault = e.map .token := by
  unfold fresh at failed
  split at failed
  · rename_i e refused
    cases failed
    exact ⟨e, refused, rfl⟩
  · cases failed

theorem minted_of_fresh {issued : Issued} (made : fresh codec w user = .ok issued) :
    Minted codec user issued.token issued.record ∧
      issued.record.tokenId = TokenId.random w.draw.1 := by
  obtain ⟨claims, minted, named⟩ := fresh_ok made
  rw [named]
  exact ⟨⟨w.moment, _, _, claims, minted, rfl⟩, rfl⟩

theorem quiet_mintChild (codec : Codec) (user : UserId) :
    Action.Uses Effect.IsQuiet (mintChild codec user) := by
  refine Action.uses_bind (Action.uses_perform trivial) fun id => ?_
  refine Action.uses_bind (Action.uses_perform trivial) fun moment => ?_
  refine Action.uses_bind (Action.uses_mapCause _ trivial) fun minted => ?_
  exact Action.uses_bind (Action.uses_perform trivial) fun _ => Action.uses_pure _

theorem quiet_owner (subject : String) : Action.Uses Effect.IsQuiet (owner subject) := by
  refine Action.uses_bind (Action.uses_require _ _) fun id => ?_
  exact Action.uses_bind (Action.uses_mapCause _ (Action.uses_directory trivial)) fun _ =>
    Action.uses_require _ _

theorem run_mintChild (codec : Codec) (user : UserId) (w : World) : ∃ w', w.Resembles w' ∧
    (mintChild codec user).run.run World.answer w = (fresh codec w user, w') := by
  have same : w.draw.2.moment = w.moment := rfl
  rw [mintChild, Action.run_bind, Action.run_perform]
  simp only [World.answer]
  rw [Action.run_bind, Action.run_perform]
  simp only [World.answer, same]
  rw [Action.run_bind, Action.run_mapCause, Action.run_ofChecked, fresh]
  cases codec.mintRefresh w.moment.now user.toText (TokenId.random w.draw.1) with
  | error fault => exact ⟨_, w.resembles_draw, rfl⟩
  | ok minted => exact ⟨w.draw.2.drawTimed.2, w.resembles_draw.trans w.draw.2.resembles_draw, rfl⟩

theorem run_issue (codec : Codec) (user : UserId) (w : World) : ∃ w', w.Resembles w' ∧
    (issue codec user).run.run World.answer w =
      match fresh codec w user with
      | .error fault => (.error fault, w')
      | .ok issued =>
        match w.ledger.insert issued.record with
        | .error e => (.error (.refused (.ledger e)), w')
        | .ok ledger => (.ok issued, { w' with ledger }) := by
  obtain ⟨w', resembles, minted⟩ := run_mintChild codec user w
  refine ⟨w', resembles, ?_⟩
  rw [issue, Action.run_bind, minted]
  cases fresh codec w user with
  | error fault => rfl
  | ok issued =>
    dsimp only
    rw [Action.run_bind, Action.run_mapCause, Action.run_ledger, ← resembles.ledger]
    simp only [World.answer, Ledger.answer]
    cases w'.ledger.insert issued.record <;> rfl

/-- An exchange is its checks, the minting of a child and one write. -/
theorem run_exchange_in (codec : Codec) (account : Account) (id : TokenId) (w : World) :
    ∃ w', w.Resembles w' ∧ (exchange codec account id).run.run World.answer w =
      match fresh codec w account.id with
      | .error fault => (.error fault, w')
      | .ok child =>
        match w.ledger.rotate id child.record with
        | .error e => (.error (.refused (rotateFault e)), w')
        | .ok ledger => (.ok ⟨child.token, child.record, account⟩, { w' with ledger }) := by
  obtain ⟨w', resembles, minted⟩ := run_mintChild codec account.id w
  refine ⟨w', resembles, ?_⟩
  rw [exchange, Action.run_bind, minted]
  cases fresh codec w account.id with
  | error fault => rfl
  | ok child =>
    dsimp only
    rw [Action.run_bind, Action.run_mapCause, Action.run_ledger, ← resembles.ledger]
    simp only [World.answer, Ledger.answer]
    cases w'.ledger.rotate id child.record <;> rfl

theorem run_owner (subject : String) (w : World) : (owner subject).run.run World.answer w =
    (match ((UserId.read? subject).bind w.directory.find?).filter Account.enabled with
      | none => .error (.refused .unknownPrincipal)
      | some account => .ok account, w) := by
  rw [owner, Action.run_bind, Action.run_require]
  cases UserId.read? subject with
  | none => rfl
  | some user =>
    dsimp only
    rw [Action.run_bind, Action.run_mapCause, Action.run_directory]
    simp only [World.answer, Directory.answer, mapError_ok, Option.bind_some]
    rw [Action.run_require]
    cases Option.filter Account.enabled (w.directory.find? user) <;> rfl

/-- The checks of a rotation, one inside the other. -/
theorem checked_eq (codec : Codec) (w : World) (token : String) : checked codec w token =
    match presented codec w.moment token with
    | .error e => .error e
    | .ok (id, subject) =>
      match ((UserId.read? subject).bind w.directory.find?).filter Account.enabled with
      | none => .error .unknownPrincipal
      | some account =>
        match usable account.id (w.ledger.find? id) with
        | .error e => .error e
        | .ok record =>
          if record.expiresAt ≤ w.moment.now then .error .tokenExpired else .ok (id, account) := by
  rw [checked]
  cases presented codec w.moment token with
  | error e => rfl
  | ok stated =>
    obtain ⟨id, subject⟩ := stated
    dsimp only [bind, Except.bind]
    cases ((UserId.read? subject).bind w.directory.find?).filter Account.enabled with
    | none => rfl
    | some account =>
      dsimp only
      cases usable account.id (w.ledger.find? id) <;> rfl

/-- A rotation is its checks and then an exchange, all from one world. -/
theorem run_rotate_in (codec : Codec) (token : String) (w : World) :
    (rotate codec token).run.run World.answer w =
      match checked codec w token with
      | .error e => (.error (.refused e), w)
      | .ok (id, account) => (exchange codec account id).run.run World.answer w := by
  rw [rotate, Action.run_bind, Action.run_perform, checked_eq]
  simp only [World.answer]
  rw [Action.run_bind, Action.run_ofExcept]
  cases presented codec w.moment token with
  | error e => rfl
  | ok stated =>
    obtain ⟨id, subject⟩ := stated
    dsimp only [mapError_ok]
    rw [Action.run_bind, run_owner]
    cases ((UserId.read? subject).bind w.directory.find?).filter Account.enabled with
    | none => rfl
    | some account =>
      dsimp only
      rw [Action.run_bind, Action.run_mapCause, Action.run_ledger]
      simp only [World.answer, Ledger.answer, mapError_ok]
      rw [Action.run_bind, Action.run_ofExcept]
      cases usable account.id (w.ledger.find? id) with
      | error e => rfl
      | ok record =>
        dsimp only [mapError_ok]
        rw [Action.run_bind, Action.run_perform]
        change Program.run World.answer
          (if record.expiresAt ≤ w.moment.now then _ else _ : Action RotationError Rotated) w = _
        by_cases expired : record.expiresAt ≤ w.moment.now
        · rw [if_pos expired, if_pos expired]
          rfl
        · rw [if_neg expired, if_neg expired]
          rfl

end SessionTokens.Rotation
