import SessionTokens.Proofs.Program.Failing
import SessionTokens.Proofs.Rotation.Runs

set_option autoImplicit false

/- What a rotation is refused for. There are nine obstacles, and each of them is there or not
without regard to the others; of those that are there the first in a fixed order is told. Where none
is there the rotation succeeds: it changes one record and adds one. A rotation that is refused
leaves the ledger, whatever becomes of the calls to it. -/
namespace SessionTokens

/-- The first of a list that stands, and what is told of it. -/
inductive IsFirst {κ ε : Type} (stands : κ → ε → Prop) : List κ → ε → Prop
  | here {k : κ} {rest : List κ} {e : ε} (applies : stands k e) : IsFirst stands (k :: rest) e
  | later {k : κ} {rest : List κ} {e : ε} (clear : ∀ e, ¬ stands k e)
      (first : IsFirst stands rest e) : IsFirst stands (k :: rest) e

/-- An error is the first of the list that stands, and there is a value where none of it does. -/
def Reports {κ ε α : Type} (stands : κ → ε → Prop) (order : List κ) : Except ε α → Prop
  | .error e => IsFirst stands order e
  | .ok _ => ∀ k ∈ order, ∀ e, ¬ stands k e

section

variable {κ ε α : Type} {stands : κ → ε → Prop} {order : List κ} {k : κ} {e e' : ε}
  {result : Except ε α}

theorem IsFirst.exists_stands (first : IsFirst stands order e) : ∃ k ∈ order, stands k e := by
  induction first with
  | here applies => exact ⟨_, List.mem_cons_self, applies⟩
  | later clear first ih =>
    obtain ⟨k, inside, applies⟩ := ih
    exact ⟨k, List.mem_cons_of_mem _ inside, applies⟩

/-- One thing is told at most, if one is of each of the list. -/
theorem IsFirst.unique (single : ∀ k e e', stands k e → stands k e' → e = e')
    (first : IsFirst stands order e) (first' : IsFirst stands order e') : e = e' := by
  induction first with
  | here applies =>
    cases first' with
    | here applies' => exact single _ _ _ applies applies'
    | later clear _ => exact absurd applies (clear _)
  | later clear _ ih =>
    cases first' with
    | here applies' => exact absurd applies' (clear _)
    | later _ first' => exact ih first'

theorem reports_here (applies : stands k e) :
    Reports stands (k :: order) (.error e : Except ε α) :=
  IsFirst.here applies

theorem reports_later (clear : ∀ e, ¬ stands k e) (reports : Reports stands order result) :
    Reports stands (k :: order) result := by
  cases result with
  | error e => exact .later clear reports
  | ok a => exact List.forall_mem_cons.mpr ⟨clear, reports⟩

theorem Reports.error_iff (reports : Reports stands order result)
    (single : ∀ k e e', stands k e → stands k e' → e = e') :
    result = .error e ↔ IsFirst stands order e := by
  cases result with
  | error told =>
    rw [Except.error.injEq]
    exact ⟨fun same => same ▸ reports, fun first => reports.unique single first⟩
  | ok a =>
    refine iff_of_false (by simp) fun first => ?_
    obtain ⟨k, inside, applies⟩ := first.exists_stands
    exact reports k inside e applies

theorem Reports.ok_iff (reports : Reports stands order result) :
    (∃ a, result = .ok a) ↔ ∀ k ∈ order, ∀ e, ¬ stands k e := by
  cases result with
  | error told =>
    refine iff_of_false (by simp) fun clear => ?_
    obtain ⟨k, inside, applies⟩ := IsFirst.exists_stands reports
    exact clear k inside told applies
  | ok a => exact iff_of_true ⟨a, rfl⟩ reports

end

/-- After a rotation every identifier but two is found as it was. -/
theorem Ledger.find?_of_rotate {l l' : Ledger} {old child : Record}
    (found : l.find? old.tokenId = some old) (stored : l.rotate old.tokenId child = .ok l')
    (id : TokenId) : l'.find? id =
      if id = child.tokenId then some child
      else if id = old.tokenId then
        some { old with revoked := true, replacedBy := some child.tokenId }
      else l.find? id := by
  rw [Ledger.find?_rotate stored]
  by_cases new : child.tokenId = id
  · rw [if_pos new, if_pos new.symm]
  rw [if_neg new, if_neg (Ne.symm new)]
  by_cases same : id = old.tokenId
  · rw [if_pos same, same, found, Option.map_some, Ledger.replace_same child.tokenId rfl]
  · rw [if_neg same]
    cases other : l.find? id with
    | none => rfl
    | some r =>
      have named : r.tokenId ≠ old.tokenId := (Ledger.tokenId_of_find? other).symm ▸ same
      rw [Option.map_some, Ledger.replace_other child.tokenId named]

namespace Rotation

variable {codec : Codec} {w w' : World} {token : String} {claims : Claims}

/-- What may stand in the way of a rotation. -/
inductive Obstacle
  | unreadable
  | wrongKind
  | unnamed
  | stranger
  | unknown
  | replayed
  | outlived
  | unmintable
  | taken
deriving DecidableEq

/-- Which obstacle is told before which. -/
def Obstacle.order : List Obstacle :=
  [.unreadable, .wrongKind, .unnamed, .stranger, .unknown, .replayed, .outlived, .unmintable,
    .taken]

theorem Obstacle.mem_order (o : Obstacle) : o ∈ order := by
  cases o <;> decide

/-- A failure to read a token, as a rotation tells of it. -/
def unread : TokenError → RotationError
  | .expired => .tokenExpired
  | e => .token e

/-- What stands in the way of a token that is read as these claims. -/
inductive Bars (codec : Codec) (w : World) (claims : Claims) :
    Obstacle → Fault RotationError → Prop
  | wrongKind (other : claims.kind ≠ .refresh) :
      Bars codec w claims .wrongKind (.refused .wrongTokenType)
  | unnamed (nameless : claims.tokenId = none) :
      Bars codec w claims .unnamed (.refused .missingTokenId)
  | stranger (nobody : ∀ user account, UserId.read? claims.subject = some user →
      w.directory.find? user = some account → account.enabled = false) :
      Bars codec w claims .stranger (.refused .unknownPrincipal)
  | unknown {id : TokenId} (named : claims.tokenId = some id)
      (foreign : ∀ record, w.ledger.find? id = some record →
        UserId.read? claims.subject ≠ some record.owner) :
      Bars codec w claims .unknown (.refused .unknownToken)
  | replayed {id : TokenId} {record : Record} (named : claims.tokenId = some id)
      (found : w.ledger.find? id = some record) (revoked : record.revoked = true) :
      Bars codec w claims .replayed (.refused .tokenReplayed)
  | outlived {id : TokenId} {record : Record} (named : claims.tokenId = some id)
      (found : w.ledger.find? id = some record) (past : record.expiresAt ≤ w.moment.now) :
      Bars codec w claims .outlived (.refused .tokenExpired)
  | unmintable {user : UserId} {e : Fault TokenError}
      (owner : UserId.read? claims.subject = some user)
      (failed : codec.mintRefresh w.moment.now user.toText (TokenId.random w.draw.1) = .error e) :
      Bars codec w claims .unmintable (e.map .token)
  | taken {record : Record} (found : w.ledger.find? (TokenId.random w.draw.1) = some record) :
      Bars codec w claims .taken (.refused (.ledger (.duplicate (TokenId.random w.draw.1))))

/-- What stands in the way of a presented token: it is not read, or what it is read as is barred. -/
inductive Hinders (codec : Codec) (w : World) (token : String) :
    Obstacle → Fault RotationError → Prop
  | unreadable {e : TokenError}
      (refused : codec.decode w.moment.host w.moment.now token = .error e) :
      Hinders codec w token .unreadable (.refused (unread e))
  | barred {claims : Claims} {o : Obstacle} {fault : Fault RotationError}
      (read : codec.decode w.moment.host w.moment.now token = .ok claims)
      (bars : Bars codec w claims o fault) : Hinders codec w token o fault

theorem hinders_eq (read : codec.decode w.moment.host w.moment.now token = .ok claims) :
    Hinders codec w token = Bars codec w claims := by
  funext o fault
  refine propext ⟨fun hinders => ?_, .barred read⟩
  cases hinders with
  | unreadable refused => cases read.symm.trans refused
  | barred read' bars =>
    cases read.symm.trans read'
    exact bars

theorem Bars.unique {o : Obstacle} {fault fault' : Fault RotationError}
    (bars : Bars codec w claims o fault) (bars' : Bars codec w claims o fault') :
    fault = fault' := by
  cases bars with
  | unmintable owner failed =>
    cases bars' with
    | unmintable owner' failed' =>
      cases owner.symm.trans owner'
      cases failed.symm.trans failed'
      rfl
  | _ =>
    cases bars'
    rfl

theorem Hinders.unique (o : Obstacle) (fault fault' : Fault RotationError)
    (hinders : Hinders codec w token o fault) (hinders' : Hinders codec w token o fault') :
    fault = fault' := by
  cases read : codec.decode w.moment.host w.moment.now token with
  | error e =>
    cases hinders with
    | unreadable refused =>
      cases hinders' with
      | unreadable refused' =>
        cases refused.symm.trans refused'
        rfl
      | barred read' bars => cases bars
    | barred read' bars => cases read.symm.trans read'
  | ok claims =>
    rw [hinders_eq read] at hinders hinders'
    exact hinders.unique hinders'

/-- A successor is minted and stored, or what stands in the way of that is told. -/
theorem reports_exchange {account : Account} {id : TokenId} {record : Record}
    (owner : UserId.read? claims.subject = some account.id)
    (present : w.ledger.find? id = some record) (unrevoked : record.revoked = false) :
    Reports (Bars codec w claims) [.unmintable, .taken]
      ((exchange codec account id).run.run World.answer w).1 := by
  obtain ⟨w', -, runs⟩ := run_exchange_in codec account id w
  rw [runs]
  cases made : fresh codec w account.id with
  | error fault =>
    obtain ⟨e, failed, rfl⟩ := fresh_error made
    exact reports_here (.unmintable owner failed)
  | ok child =>
    obtain ⟨issued, minted, named⟩ := fresh_ok made
    have drawn : child.record.tokenId = TokenId.random w.draw.1 := by
      rw [named]
      rfl
    have able : ∀ fault, ¬ Bars codec w claims .unmintable fault := by
      intro fault bars
      cases bars with
      | unmintable owner' failed =>
        cases owner.symm.trans owner'
        cases minted.symm.trans failed
    refine reports_later able ?_
    dsimp only
    cases free : w.ledger.find? (TokenId.random w.draw.1) with
    | some other =>
      rw [Ledger.rotate_of_taken (drawn ▸ free), drawn]
      exact reports_here (.taken free)
    | none =>
      rw [(Ledger.rotate_ok_iff _ _ _ _).mpr
        ⟨drawn ▸ free, ⟨record, present, unrevoked⟩, rfl⟩]
      have untaken : ∀ fault, ¬ Bars codec w claims .taken fault := by
        intro fault bars
        cases bars with
        | taken found =>
          cases free.symm.trans found
      exact reports_later untaken nofun

/-- The record of the token is found and is the owner's, unrevoked and unexpired, or what it is
not is told. -/
theorem reports_record (codec : Codec) (w : World) {account : Account} {id : TokenId}
    (owner : UserId.read? claims.subject = some account.id) (named : claims.tokenId = some id) :
    Reports (Bars codec w claims) [.unknown, .replayed, .outlived, .unmintable, .taken]
      (match usable account.id (w.ledger.find? id) with
        | .error e => .error (.refused e)
        | .ok record =>
          if record.expiresAt ≤ w.moment.now then .error (.refused .tokenExpired)
          else ((exchange codec account id).run.run World.answer w).1) := by
  cases found : w.ledger.find? id with
  | none =>
    refine reports_here (.unknown named fun record present => ?_)
    cases found.symm.trans present
  | some record =>
    rw [usable]
    by_cases own : record.owner = account.id
    case neg =>
      rw [if_pos own]
      refine reports_here (.unknown named fun record' present same => ?_)
      cases found.symm.trans present
      exact own (Option.some.inj (same.symm.trans owner))
    rw [if_neg (not_not_intro own)]
    have known : ∀ fault, ¬ Bars codec w claims .unknown fault := by
      intro fault bars
      cases bars with
      | unknown named' foreign =>
        cases named.symm.trans named'
        exact foreign record found (own ▸ owner)
    refine reports_later known ?_
    cases revoked : record.revoked with
    | true => exact reports_here (.replayed named found revoked)
    | false =>
      have unspent : ∀ fault, ¬ Bars codec w claims .replayed fault := by
        intro fault bars
        cases bars with
        | replayed named' found' spent =>
          cases named.symm.trans named'
          cases found.symm.trans found'
          cases revoked.symm.trans spent
      refine reports_later unspent ?_
      rw [if_neg Bool.false_ne_true]
      dsimp only
      by_cases past : record.expiresAt ≤ w.moment.now
      · rw [if_pos past]
        exact reports_here (.outlived named found past)
      · rw [if_neg past]
        have unexpired : ∀ fault, ¬ Bars codec w claims .outlived fault := by
          intro fault bars
          cases bars with
          | outlived named' found' past' =>
            cases named.symm.trans named'
            cases found.symm.trans found'
            exact past past'
        exact reports_later unexpired (reports_exchange owner found revoked)

/-- The token is one for refreshing, names its record and is an enabled account's, or what it is not
is told. -/
theorem reports_claims (read : codec.decode w.moment.host w.moment.now token = .ok claims) :
    Reports (Bars codec w claims) Obstacle.order
      ((rotate codec token).run.run World.answer w).1 := by
  refine reports_later nofun ?_
  rw [run_rotate_in, checked_eq, presented, read]
  dsimp only
  by_cases kind : claims.kind = .refresh
  case neg =>
    rw [if_pos kind]
    exact reports_here (.wrongKind kind)
  rw [if_neg (not_not_intro kind)]
  have rightKind : ∀ fault, ¬ Bars codec w claims .wrongKind fault := by
    intro fault bars
    cases bars with
    | wrongKind other =>
      exact other kind
  refine reports_later rightKind ?_
  cases named : claims.tokenId with
  | none => exact reports_here (.unnamed named)
  | some id =>
    have stated : ∀ fault, ¬ Bars codec w claims .unnamed fault := by
      intro fault bars
      cases bars with
      | unnamed nameless =>
        cases named.symm.trans nameless
    refine reports_later stated ?_
    dsimp only
    cases resolved :
      ((UserId.read? claims.subject).bind w.directory.find?).filter Account.enabled with
    | none =>
      refine reports_here (.stranger fun user account owner found => ?_)
      rw [owner, Option.bind_some, found, Option.filter_eq_none_iff] at resolved
      exact Bool.eq_false_iff.mpr (resolved account rfl)
    | some account =>
      obtain ⟨bound, enabled⟩ := Option.filter_eq_some_iff.mp resolved
      obtain ⟨user, owner, found⟩ := Option.bind_eq_some_iff.mp bound
      obtain rfl : account.id = user := Directory.id_of_find? found
      have somebody : ∀ fault, ¬ Bars codec w claims .stranger fault := by
        intro fault bars
        cases bars with
        | stranger nobody =>
          cases enabled.symm.trans (nobody _ _ owner found)
      refine reports_later somebody ?_
      have told := reports_record codec w owner named
      dsimp only
      cases allowed : usable account.id (w.ledger.find? id) with
      | error e =>
        rw [allowed] at told
        exact told
      | ok record =>
        rw [allowed] at told
        dsimp only at told ⊢
        by_cases past : record.expiresAt ≤ w.moment.now
        · rw [if_pos past] at told ⊢
          exact told
        · rw [if_neg past] at told ⊢
          exact told

theorem reports_rotate (codec : Codec) (w : World) (token : String) :
    Reports (Hinders codec w token) Obstacle.order
      ((rotate codec token).run.run World.answer w).1 := by
  cases read : codec.decode w.moment.host w.moment.now token with
  | error e =>
    have refused : presented codec w.moment token = .error (unread e) := by
      rw [presented, read]
      cases e <;> rfl
    rw [run_rotate_in, checked_eq, refused]
    exact reports_here (.unreadable read)
  | ok claims =>
    rw [hinders_eq read]
    exact reports_claims read

/-- A rotation that is refused has drawn identifiers and written nothing. -/
theorem resembles_of_refused {fault : Fault RotationError}
    (refused : (rotate codec token).run.run World.answer w = (.error fault, w')) :
    w.Resembles w' := by
  rw [run_rotate_in] at refused
  cases passes : checked codec w token with
  | error e =>
    rw [passes] at refused
    cases refused
    exact .refl w
  | ok stated =>
    obtain ⟨id, account⟩ := stated
    obtain ⟨u, resembles, runs⟩ := run_exchange_in codec account id w
    rw [passes] at refused
    dsimp only at refused
    rw [runs] at refused
    split at refused
    · cases refused
      exact resembles
    split at refused
    · cases refused
      exact resembles
    · cases refused

/-- A rotation took the place of a user's active record: the token that it returns states what the
new record says, and nothing else has changed but that the old record names the new one. -/
structure Exchanges (codec : Codec) (w : World) (token : String) (old : Record) (rotated : Rotated)
    (w' : World) : Prop where
  stated : ∃ claims, codec.decode w.moment.host w.moment.now token = .ok claims ∧
    claims.kind = .refresh ∧ claims.tokenId = some old.tokenId ∧
    UserId.read? claims.subject = some old.owner
  found : w.ledger.find? old.tokenId = some old
  active : old.isActiveAt w.moment.now = true
  account : w.directory.find? old.owner = some rotated.account
  enabled : rotated.account.enabled = true
  minted : ∃ claims recordId, codec.encode claims = .ok rotated.token ∧ claims.kind = .refresh ∧
    claims.subject = old.owner.toText ∧ claims.tokenId = some rotated.record.tokenId ∧
    claims.issuedAt = w.moment.now.wholeSeconds ∧
    rotated.record = .active recordId old.owner rotated.record.tokenId claims.issuedAt
      claims.expiresAt
  drawn : rotated.record.tokenId = TokenId.random w.draw.1
  free : w.ledger.find? rotated.record.tokenId = none
  records : w'.ledger.records =
    w.ledger.records.map (Ledger.replace old.tokenId rotated.record.tokenId) ++ [rotated.record]
  lookup : ∀ id, w'.ledger.find? id =
    if id = rotated.record.tokenId then some rotated.record
    else if id = old.tokenId then
      some { old with revoked := true, replacedBy := some rotated.record.tokenId }
    else w.ledger.find? id
  directory : w'.directory = w.directory

/-- What is minted states what its record says. -/
theorem claims_of_fresh {user : UserId} {issued : Issued}
    (made : fresh codec w user = .ok issued) : ∃ claims recordId,
      codec.encode claims = .ok issued.token ∧ claims.kind = .refresh ∧
      claims.subject = user.toText ∧ claims.tokenId = some issued.record.tokenId ∧
      claims.issuedAt = w.moment.now.wholeSeconds ∧
      issued.record = .active recordId user issued.record.tokenId claims.issuedAt
        claims.expiresAt := by
  obtain ⟨claims, minted, record⟩ := fresh_ok made
  obtain ⟨given, encoded⟩ := mint_ok minted
  obtain ⟨expiresAt, -, rfl⟩ := Option.map_eq_some_iff.mp given
  rw [record]
  exact ⟨_, _, encoded, rfl, rfl, rfl, rfl, rfl⟩

theorem exists_exchanges {rotated : Rotated}
    (succeeded : (rotate codec token).run.run World.answer w = (.ok rotated, w')) :
    ∃ old, Exchanges codec w token old rotated w' := by
  rw [run_rotate_in] at succeeded
  cases passes : checked codec w token with
  | error e =>
    rw [passes] at succeeded
    cases succeeded
  | ok resolved =>
    obtain ⟨id, account⟩ := resolved
    obtain ⟨subject, user, old, stated, owner, found, enabled, present, own, active⟩ :=
      checked_ok_iff.mp passes
    obtain ⟨claims, decoded, kind, named, rfl⟩ := presented_ok_iff.mp stated
    obtain rfl : account.id = user := Directory.id_of_find? found
    obtain rfl : old.tokenId = id := Ledger.tokenId_of_find? present
    rw [← own] at owner found
    obtain ⟨u, resembles, runs⟩ := run_exchange_in codec account old.tokenId w
    rw [passes] at succeeded
    dsimp only at succeeded
    rw [runs] at succeeded
    cases made : fresh codec w account.id with
    | error fault =>
      rw [made] at succeeded
      cases succeeded
    | ok child =>
      rw [made] at succeeded
      cases stored : w.ledger.rotate old.tokenId child.record with
      | error e =>
        simp only [stored] at succeeded
        cases succeeded
      | ok ledger =>
        simp only [stored] at succeeded
        cases succeeded
        obtain ⟨free, -, rfl⟩ := (Ledger.rotate_ok_iff _ _ _ _).mp stored
        exact ⟨old, ⟨⟨claims, decoded, kind, named, owner⟩, present, active, found, enabled,
          own ▸ claims_of_fresh made, (minted_of_fresh made).2, free, rfl,
          Ledger.find?_of_rotate present stored, resembles.directory⟩⟩

theorem spares_rotate {σ : Type} {view : σ → Ledger}
    {answer : (e : Effect) → σ → e.Answer × σ} (store : IsTransactional view answer)
    (codec : Codec) (token : String) : Action.Spares view answer (rotate codec token) := by
  refine Action.spares_quiet_bind store ?_ fun moment => ?_
  · exact Action.uses_perform trivial
  refine Action.spares_quiet_bind store ?_ fun stated => ?_
  · exact Action.uses_ofExcept _
  refine Action.spares_quiet_bind store ?_ fun account => ?_
  · exact quiet_owner _
  refine Action.spares_quiet_bind store ?_ fun found => ?_
  · exact Action.uses_mapCause _ (Action.uses_ledger trivial)
  refine Action.spares_quiet_bind store ?_ fun record => ?_
  · exact Action.uses_ofExcept _
  refine Action.spares_quiet_bind store ?_ fun later => ?_
  · exact Action.uses_perform trivial
  have exchanges : Action.Spares view answer (exchange codec account stated.1) :=
    Action.spares_quiet_bind store (quiet_mintChild codec account.id) fun child =>
      Action.spares_bind_pure (Action.spares_ledger store _ _) _
  split
  · exact Action.spares_quiet_bind store (Action.uses_refuse _) fun _ => exchanges
  · exact exchanges

/-- What becomes of a rotation. It is refused for the first obstacle in order that stands in its
way, and succeeds where none does. Refused, it has written nothing, and neither has it over a store
whose calls fail before they are carried out. Succeeding, it has marked the record of the presented
token and added one record, of the token that it returns. -/
theorem rotation_is_decided (codec : Codec) (w : World) (token : String) :
    (∀ fault, ((rotate codec token).run.run World.answer w).1 = .error fault ↔
      IsFirst (Hinders codec w token) Obstacle.order fault) ∧
    ((∃ rotated, ((rotate codec token).run.run World.answer w).1 = .ok rotated) ↔
      ∀ o fault, ¬ Hinders codec w token o fault) ∧
    (∀ fault w', (rotate codec token).run.run World.answer w = (.error fault, w') →
      w'.ledger = w.ledger ∧ w'.directory = w.directory) ∧
    (∀ rotated w', (rotate codec token).run.run World.answer w = (.ok rotated, w') →
      ∃ old, Exchanges codec w token old rotated w') ∧
    ∀ {σ : Type} (view : σ → Ledger) (answer : (e : Effect) → σ → e.Answer × σ),
      IsTransactional view answer → ∀ s fault t,
        (rotate codec token).run.run answer s = (.error fault, t) → view t = view s := by
  have reports := reports_rotate codec w token
  refine ⟨fun fault => reports.error_iff Hinders.unique, ?_, ?_, ?_, ?_⟩
  · rw [reports.ok_iff]
    exact ⟨fun clear o => clear o o.mem_order, fun clear o _ => clear o⟩
  · intro fault w' refused
    have resembles := resembles_of_refused refused
    exact ⟨resembles.ledger, resembles.directory⟩
  · intro rotated w' succeeded
    exact exists_exchanges succeeded
  · intro σ view answer store
    exact spares_rotate store codec token

end Rotation

end SessionTokens
