import SessionTokens.Proofs.Api.Admission
import SessionTokens.Proofs.Api.Paths
import SessionTokens.Proofs.Rotation.Runs

set_option autoImplicit false

namespace SessionTokens.UserService

open Text Rotation

variable {s : UserService} {r : SessionTokens.Request} {w : World}

theorem quiet_hashPassword (s : UserService) (password : String) :
    Action.Uses Effect.IsQuiet (s.hashPassword password) := by
  refine Action.uses_bind (Action.uses_perform trivial) fun done => ?_
  exact Action.uses_bind (Action.uses_ofExcept _) fun result => Action.uses_ofExcept _

theorem quiet_verifyPassword (stored password : String) :
    Action.Uses Effect.IsQuiet (verifyPassword stored password) := by
  refine Action.uses_bind (Action.uses_perform trivial) fun done => ?_
  exact Action.uses_bind (Action.uses_ofExcept _) fun result => Action.uses_ofExcept _

theorem quiet_accountOf (username : String) :
    Action.Uses Effect.IsQuiet (accountOf username) := by
  refine Action.uses_bind (Action.uses_mapCause _ (Action.uses_directory trivial)) fun found => ?_
  exact Action.uses_require _ _

theorem quiet_loadAccount (id : String) : Action.Uses Effect.IsQuiet (loadAccount id) := by
  refine Action.uses_bind (Action.uses_require _ _) fun user => ?_
  refine Action.uses_bind (Action.uses_mapCause _ (Action.uses_directory trivial)) fun found => ?_
  exact Action.uses_require _ _

theorem quiet_summary (id : String) : Action.Uses Effect.IsQuiet (summary id) := by
  refine Action.uses_bind (quiet_loadAccount id) fun account => ?_
  refine Action.uses_bind (Action.uses_perform trivial) fun moment => ?_
  refine Action.uses_bind (Action.uses_mapCause _ (Action.uses_ledger trivial)) fun sessions => ?_
  exact Action.uses_pure _

/-- The access token that a world has for an account. -/
def accessFor (s : UserService) (w : World) (a : Account) : Checked ApiError String :=
  ((s.codec.mintAccess w.moment.now a.id.toText a.roles []).mapError (Fault.map ApiError.token)).map
    Prod.fst

theorem run_mintAccess (s : UserService) (a : Account) (w : World) :
    (s.mintAccess a).run.run World.answer w = (s.accessFor w a, w) := by
  rw [mintAccess, Action.run_bind, Action.run_perform]
  simp only [World.answer]
  rw [Action.run_bind, Action.run_mapCause, Action.run_ofChecked, accessFor]
  cases s.codec.mintAccess w.moment.now a.id.toText a.roles [] <;> rfl

theorem run_startSession (s : UserService) (a : Account) (w : World) : ∃ w', w.Resembles w' ∧
    (s.startSession a).run.run World.answer w =
      match s.accessFor w a with
      | .error fault => (.error fault, w')
      | .ok access =>
        match fresh s.codec w a.id with
        | .error fault => (.error (fault.map .rotation), w')
        | .ok issued =>
          match w.ledger.insert issued.record with
          | .error e => (.error (.refused (.rotation (.ledger e))), w')
          | .ok ledger => (.ok (s.session access issued.token), { w' with ledger }) := by
  obtain ⟨w', resembles, issues⟩ := run_issue s.codec a.id w
  rw [startSession, Action.run_bind, run_mintAccess]
  cases s.accessFor w a with
  | error fault => exact ⟨w, .refl w, rfl⟩
  | ok access =>
    refine ⟨w', resembles, ?_⟩
    dsimp only
    rw [Action.run_bind, Action.run_mapCause, issues]
    cases fresh s.codec w a.id with
    | error fault => rfl
    | ok issued =>
      dsimp only
      cases w.ledger.insert issued.record <;> rfl

/-- The account that a world has for a signup. -/
def newAccount (w : World) (body : SignupRequest) (passwordHash : String) : Account :=
  { id := ⟨w.drawTimed.1⟩, username := trimmed body.username, email := trimmed body.email,
    passwordHash, roles := [Role.user], enabled := true, createdAt := w.moment.now }

theorem run_createAccount (body : SignupRequest) (passwordHash : String) (w : World) :
    ∃ w', w.Resembles w' ∧ (createAccount body passwordHash).run.run World.answer w =
      match w.directory.insert (newAccount w body passwordHash) with
      | .error e => (.error (.refused (.ofDirectory e)), w')
      | .ok directory => (.ok (newAccount w body passwordHash), { w' with directory }) := by
  refine ⟨w.drawTimed.2, w.resembles_draw, ?_⟩
  rw [createAccount, Action.run_bind, Action.run_perform]
  simp only [World.answer]
  rw [Action.run_bind, Action.run_perform]
  simp only [World.answer]
  have same : w.drawTimed.2.directory = w.directory := rfl
  have made : ({ id := ⟨w.drawTimed.1⟩, username := trimmed body.username
                 email := trimmed body.email, passwordHash, roles := [Role.user], enabled := true
                 createdAt := w.moment.now } : Account) = newAccount w body passwordHash := rfl
  rw [made, Action.run_bind, Action.run_mapCause, Action.run_directory]
  simp only [World.answer, Directory.answer, same]
  cases w.directory.insert (newAccount w body passwordHash) <;> rfl

/-- The account whose identifier a text is, as a world knows it. -/
theorem run_loadAccount_eq (id : String) (w : World) :
    (loadAccount id).run.run World.answer w =
      (match (UserId.read? id).bind w.directory.find? with
        | none => .error (.refused (.notFound s!"user {id} not found"))
        | some account => .ok account, w) := by
  rw [loadAccount, Action.run_bind, Action.run_require]
  cases UserId.read? id with
  | none => rfl
  | some user =>
    dsimp only
    rw [Action.run_bind, Action.run_mapCause, Action.run_directory]
    simp only [World.answer, Directory.answer, mapError_ok, Option.bind_some]
    rw [Action.run_require]
    cases w.directory.find? user <;> rfl

theorem run_revokeAll (user : UserId) (w : World) :
    ((Rotation.revokeAll user).mapCause ApiError.rotation).run.run World.answer w =
      (.ok (w.ledger.revokeAll user).1, { w with ledger := (w.ledger.revokeAll user).2 }) := by
  rw [Action.run_mapCause, Rotation.revokeAll, Action.run_mapCause, Action.run_ledger]
  rfl

/-- What handling a request does to a world, and how it is answered. -/
inductive Deed (s : UserService) (r : SessionTokens.Request) (w : World) :
    Option Response → World → Prop
  | idle {response : Option Response} {w' : World} (resembles : w.Resembles w') :
      Deed s r w response w'
  | login {w' : World} {access : String} {issued : Issued} {ledger : Ledger}
      (posted : r.method = "POST") (path : r.path = "/auth/login") (resembles : w.Resembles w')
      (stored : w.ledger.insert issued.record = .ok ledger) :
      Deed s r w (some (.json 200 (s.session access issued.token).toJson)) { w' with ledger }
  | signup {w₁ w' : World} {account : Account} {directory : Directory}
      {result : Checked ApiError TokenResponse}
      (posted : r.method = "POST") (path : r.path = "/auth/signup") (resembles : w.Resembles w₁)
      (enrolled : w.directory.insert account = .ok directory)
      (starts : (s.startSession account).run.run World.answer { w₁ with directory } =
        (result, w')) :
      Deed s r w (Routing.answer false (result.map fun t => .json 201 t.toJson)) w'
  | refresh {w' : World} {body : RefreshRequest} {id : TokenId} {account : Account}
      {child : Issued} {ledger : Ledger}
      (posted : r.method = "POST") (path : r.path = "/auth/refresh")
      (read : r.readBody RefreshRequest.read = .ok body)
      (passes : checked s.codec w body.refreshToken = .ok (id, account))
      (resembles : w.Resembles w') (made : fresh s.codec w account.id = .ok child)
      (stored : w.ledger.rotate id child.record = .ok ledger) :
      Deed s r w (Routing.answer false ((s.accessFor w account).map fun access =>
        .json 200 (s.session access child.token).toJson)) { w' with ledger }
  | logout {w' : World} {principal : Principal} {user : UserId}
      (posted : r.method = "POST") (path : r.path = "/auth/logout")
      (through : s.gate.LetsThrough r World.answer w (some principal))
      (own : UserId.read? principal.subject = some user) (resembles : w.Resembles w') :
      Deed s r w (some (.bare 204)) { w' with ledger := (w.ledger.revokeAll user).2 }
  | revocation {w' : World} {principal : Option Principal} {segment id : String} {user : UserId}
      (posted : r.method = "POST") (found : Endpoint.ofSegments? r.segments =
        some (.revokeSessions segment))
      (through : s.gate.LetsThrough r World.answer w principal)
      (decoded : Percent.decodeText? segment.toList = some id)
      (own : UserId.read? id = some user) (resembles : w.Resembles w') :
      Deed s r w (some (.json 200 (RevokeResponse.mk (w.ledger.revokeAll user).1).toJson))
        { w' with ledger := (w.ledger.revokeAll user).2 }

/-- What a handler does, run from a world to its end. -/
def Does (s : UserService) (r : SessionTokens.Request) (w : World) (bodiless : Bool)
    (a : Action ApiError Response) (w₁ : World) : Prop :=
  Deed s r w (Routing.answer bodiless (a.run.run World.answer w₁).1) (a.run.run World.answer w₁).2

variable {bodiless : Bool} {a : Action ApiError Response} {w₁ : World}

theorem does_of_run {result : Checked ApiError Response} {w' : World}
    (runs : a.run.run World.answer w₁ = (result, w'))
    (deed : Deed s r w (Routing.answer bodiless result) w') : Does s r w bodiless a w₁ := by
  rw [Does, runs]
  exact deed

theorem does_quiet (resembles : w.Resembles w₁) (quiet : Action.Uses Effect.IsQuiet a) :
    Does s r w bodiless a w₁ :=
  .idle (resembles.trans (Program.Uses.resembles quiet w₁))

/-- What comes after a quiet beginning decides. -/
theorem does_quiet_bind {α : Type} {first : Action ApiError α} {f : α → Action ApiError Response}
    (resembles : w.Resembles w₁) (quiet : Action.Uses Effect.IsQuiet first)
    (later : ∀ x w₂, w.Resembles w₂ → Does s r w bodiless (f x) w₂) :
    Does s r w bodiless (first >>= f) w₁ := by
  rcases Action.run_quiet_bind quiet f w₁ with
    ⟨fault, w', similar, runs⟩ | ⟨x, w', similar, -, runs⟩
  · exact does_of_run runs (.idle (resembles.trans similar))
  · rw [Does, runs]
    exact later x w' (resembles.trans similar)

theorem does_login (posted : r.method = "POST") (path : r.path = "/auth/login")
    (body : LoginRequest) :
    Does s r w false (s.login body) w := by
  refine does_quiet_bind (.refl w) (quiet_accountOf _) fun account w₁ similar => ?_
  refine does_quiet_bind similar (quiet_verifyPassword _ _) fun _ w₂ resembles => ?_
  obtain ⟨w', later, starts⟩ := run_startSession s account w₂
  rw [Does, ← map_eq_pure_bind, Action.run_map, starts]
  cases s.accessFor w₂ account with
  | error fault => exact .idle (resembles.trans later)
  | ok access =>
    dsimp only
    cases fresh s.codec w₂ account.id with
    | error fault => exact .idle (resembles.trans later)
    | ok issued =>
      dsimp only
      cases stored : w₂.ledger.insert issued.record with
      | error e => exact .idle (resembles.trans later)
      | ok ledger =>
        rw [resembles.ledger] at stored
        exact .login posted path (resembles.trans later) stored

theorem does_signup (posted : r.method = "POST") (path : r.path = "/auth/signup")
    (body : SignupRequest) :
    Does s r w false (s.signup body) w := by
  refine does_quiet_bind (.refl w) (Action.uses_ofExcept _) fun _ w₁ similar => ?_
  refine does_quiet_bind similar (quiet_hashPassword _ _) fun passwordHash w₂ similar => ?_
  obtain ⟨w₃, later, creates⟩ := run_createAccount body passwordHash w₂
  have resembles := similar.trans later
  rw [Does, Action.run_bind, creates]
  cases enrolled : w₂.directory.insert (newAccount w₂ body passwordHash) with
  | error e => exact .idle resembles
  | ok directory =>
    rw [similar.directory] at enrolled
    dsimp only
    rw [← map_eq_pure_bind, Action.run_map]
    exact .signup posted path resembles enrolled rfl

theorem does_refresh (posted : r.method = "POST") (path : r.path = "/auth/refresh")
    {body : RefreshRequest} (read : r.readBody RefreshRequest.read = .ok body) :
    Does s r w false (s.refresh body) w := by
  rw [Does, refresh, Action.run_bind, Action.run_mapCause, run_rotate_in]
  cases passes : checked s.codec w body.refreshToken with
  | error e => exact .idle (.refl w)
  | ok valid =>
    obtain ⟨id, account⟩ := valid
    obtain ⟨w', resembles, exchanges⟩ := run_exchange_in s.codec account id w
    dsimp only
    rw [exchanges]
    cases made : fresh s.codec w account.id with
    | error fault => exact .idle resembles
    | ok child =>
      dsimp only
      cases stored : w.ledger.rotate id child.record with
      | error e => exact .idle resembles
      | ok ledger =>
        dsimp only [mapError_ok]
        rw [← map_eq_pure_bind, Action.run_map, run_mintAccess]
        have same : s.accessFor { w' with ledger } account = s.accessFor w account := by
          rw [accessFor, accessFor, resembles.moment]
        rw [same]
        exact .refresh posted path read passes resembles made stored

theorem does_logout (posted : r.method = "POST") (path : r.path = "/auth/logout")
    {principal : Principal} (through : s.gate.LetsThrough r World.answer w (some principal)) :
    Does s r w false (logout principal) w := by
  rw [Does, logout, Action.run_bind, Action.run_require]
  cases own : UserId.read? principal.subject with
  | none => exact .idle (.refl w)
  | some user =>
    dsimp only
    rw [Action.run_bind, run_revokeAll]
    exact .logout posted path through own (.refl w)

theorem does_revocation (posted : r.method = "POST") {segment id : String}
    (found : Endpoint.ofSegments? r.segments = some (.revokeSessions segment))
    {principal : Option Principal} (through : s.gate.LetsThrough r World.answer w principal)
    (decoded : Percent.decodeText? segment.toList = some id) :
    Does s r w false (revokeSessions id) w := by
  rw [Does, revokeSessions, Action.run_bind, run_loadAccount_eq]
  cases own : UserId.read? id with
  | none => exact .idle (.refl w)
  | some user =>
    dsimp only [Option.bind_some]
    cases present : w.directory.find? user with
    | none => exact .idle (.refl w)
    | some account =>
      obtain rfl : account.id = user := Directory.id_of_find? present
      dsimp only
      rw [Action.run_bind, run_revokeAll]
      exact .revocation posted found through decoded own (.refl w)

theorem does_withBody {α : Type} {read : Json.Tree → Json.Read α}
    {go : α → Action ApiError Response}
    (goes : ∀ body, r.readBody read = .ok body → Does s r w bodiless (go body) w) :
    Does s r w bodiless (Routing.withBody read r go) w := by
  unfold Routing.withBody
  split
  · rename_i body taken
    exact goes body taken
  · exact .idle (.refl w)

theorem does_withSegment {segment : String} {go : String → Action ApiError Response}
    (goes : ∀ text, Percent.decodeText? segment.toList = some text →
      Does s r w bodiless (go text) w) :
    Does s r w bodiless (Routing.withSegment segment go) w := by
  unfold Routing.withSegment
  split
  · rename_i text decoded
    exact goes text decoded
  · exact .idle (.refl w)

theorem does_withPrincipal {principal : Option Principal}
    {go : Principal → Action ApiError Response}
    (goes : ∀ p, principal = some p → Does s r w bodiless (go p) w) :
    Does s r w bodiless (Routing.withPrincipal principal go) w := by
  cases principal with
  | none => exact .idle (.refl w)
  | some p => exact goes p rfl

/-- Only a `POST` is taken by an endpoint for this method, and it is answered with its body. -/
theorem posted_of_accepts {e : Endpoint} (taken : Routing.accepts e.method r.method = true)
    (writes : e.method = "POST") : r.method = "POST" := by
  rw [writes, Routing.accepts, Bool.or_eq_true] at taken
  rcases taken with same | other
  · exact eq_of_beq same
  · cases (Bool.and_eq_true_iff.mp other).1

theorem dropsBody_of_posted (posted : r.method = "POST") (endpoint : Option Endpoint) :
    Routing.dropsBody Endpoint.method endpoint r = false := by
  rw [Routing.dropsBody, posted]
  rfl

theorem does_handler {e : Endpoint} (found : Endpoint.ofSegments? r.segments = some e)
    (taken : Routing.accepts e.method r.method = true) {principal : Option Principal}
    (through : s.gate.LetsThrough r World.answer w principal) :
    Does s r w (Routing.dropsBody Endpoint.method (some e) r) (s.handler r principal e) w := by
  have path := Endpoint.path_of_segments found
  cases e with
  | health => exact .idle (.refl w)
  | signup =>
    have posted := posted_of_accepts taken rfl
    rw [dropsBody_of_posted posted]
    exact does_withBody fun body _ => does_signup posted path body
  | login =>
    have posted := posted_of_accepts taken rfl
    rw [dropsBody_of_posted posted]
    exact does_withBody fun body _ => does_login posted path body
  | refresh =>
    have posted := posted_of_accepts taken rfl
    rw [dropsBody_of_posted posted]
    exact does_withBody fun body read => does_refresh posted path read
  | logout =>
    have posted := posted_of_accepts taken rfl
    rw [dropsBody_of_posted posted]
    refine does_withPrincipal fun p same => does_logout posted path ?_
    rw [← same]
    exact through
  | me => exact does_withPrincipal fun p _ => .idle (.refl w)
  | account segment =>
    exact does_withSegment fun text _ => does_quiet (.refl w) (quiet_summary text)
  | revokeSessions segment =>
    have posted := posted_of_accepts taken rfl
    rw [dropsBody_of_posted posted]
    exact does_withSegment fun text decoded => does_revocation posted found through decoded

/-- Whatever a request is, handling it is one of the deeds. -/
theorem handle_deed (s : UserService) (r : SessionTokens.Request) (w : World) :
    Deed s r w ((s.handle r).run World.answer w).1 ((s.handle r).run World.answer w).2 := by
  obtain ⟨w', read, pass⟩ := s.gate.run_pass r World.answer w
  have same : w' = w := read.world_eq
  rw [same] at pass
  rw [handle, Routing.handle, Program.run_bind, pass]
  cases decided : s.gate.verdict r World.answer w with
  | error e => exact .idle (.refl w)
  | ok principal =>
    have through := Gate.letsThrough_iff.mpr decided
    dsimp only [Routing.dispatch]
    cases found : Endpoint.ofSegments? r.segments with
    | none => exact .idle (.refl w)
    | some e =>
      dsimp only
      split
      · rename_i taken
        exact does_handler found taken through
      · exact .idle (.refl w)

end SessionTokens.UserService
