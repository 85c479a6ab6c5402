import SessionTokens.Proofs.Api.Gate
import SessionTokens.Proofs.Api.Handlers
import SessionTokens.Proofs.Directory.Insertion

set_option autoImplicit false

namespace SessionTokens.UserService

variable {kind : Account → Prop} {allowed : Effect → Prop} {r : SessionTokens.Request}

theorem uses_withBody {α : Type} {read : Json.Tree → Json.Read α}
    {go : α → Action ApiError Response} (goes : ∀ body, Action.Uses allowed (go body)) :
    Action.Uses allowed (Routing.withBody read r go) := by
  unfold Routing.withBody
  split
  · exact goes _
  · exact Action.uses_pure _

theorem uses_withSegment {segment : String}
    {go : String → Action ApiError Response} (goes : ∀ text, Action.Uses allowed (go text)) :
    Action.Uses allowed (Routing.withSegment segment go) := by
  unfold Routing.withSegment
  split
  · exact goes _
  · exact Action.uses_pure _

theorem uses_withPrincipal {principal : Option Principal}
    {go : Principal → Action ApiError Response} (goes : ∀ p, Action.Uses allowed (go p)) :
    Action.Uses allowed (Routing.withPrincipal principal go) :=
  Action.uses_bind (Action.uses_require _ _) goes

theorem enrolls_of_quiet {ε α : Type} {a : Action ε α} (quiet : Action.Uses Effect.IsQuiet a) :
    Action.Uses (Effect.Enrolls kind) a :=
  Program.Uses.imp quiet fun _ quiet => quiet.enrolls kind

theorem quiet_mintAccess (s : UserService) (a : Account) :
    Action.Uses Effect.IsQuiet (s.mintAccess a) := by
  refine Action.uses_bind (Action.uses_perform trivial) fun moment => ?_
  exact Action.uses_bind (Action.uses_mapCause _ trivial) fun _ => Action.uses_pure _

theorem enrolls_startSession (s : UserService) (a : Account) :
    Action.Uses (Effect.Enrolls kind) (s.startSession a) := by
  refine Action.uses_bind (enrolls_of_quiet (quiet_mintAccess s a)) fun access => ?_
  refine Action.uses_bind (Action.uses_mapCause _ ?_) fun _ => Action.uses_pure _
  refine Action.uses_bind (enrolls_of_quiet (Rotation.quiet_mintChild _ _)) fun issued => ?_
  exact Action.uses_bind (Action.uses_mapCause _ (Action.uses_ledger trivial)) fun _ =>
    Action.uses_pure _

theorem enrolls_refresh (s : UserService) (body : RefreshRequest) :
    Action.Uses (Effect.Enrolls kind) (s.refresh body) := by
  refine Action.uses_bind (Action.uses_mapCause _ ?_) fun rotated =>
    Action.uses_bind (enrolls_of_quiet (quiet_mintAccess s _)) fun _ => Action.uses_pure _
  refine Action.uses_bind (Action.uses_perform trivial) fun moment => ?_
  refine Action.uses_bind (Action.uses_ofExcept _) fun stated => ?_
  refine Action.uses_bind (enrolls_of_quiet (Rotation.quiet_owner _)) fun account => ?_
  refine Action.uses_bind (Action.uses_mapCause _ (Action.uses_ledger trivial)) fun found => ?_
  refine Action.uses_bind (Action.uses_ofExcept _) fun record => ?_
  refine Action.uses_bind (Action.uses_perform trivial) fun later => ?_
  have exchanges : Action.Uses (Effect.Enrolls kind)
      (Rotation.exchange s.codec account stated.1) := by
    refine Action.uses_bind (enrolls_of_quiet (Rotation.quiet_mintChild _ _)) fun child => ?_
    exact Action.uses_bind (Action.uses_mapCause _ (Action.uses_ledger trivial)) fun _ =>
      Action.uses_pure _
  split
  · exact Action.uses_bind (Action.uses_refuse _) fun _ => exchanges
  · exact exchanges

variable (users : ∀ a : Account, a.roles = [Role.user] → kind a)

include users

theorem enrolls_signup (s : UserService) (body : SignupRequest) :
    Action.Uses (Effect.Enrolls kind) (s.signup body) := by
  refine Action.uses_bind (Action.uses_ofExcept _) fun _ => ?_
  refine Action.uses_bind (enrolls_of_quiet (quiet_hashPassword s _)) fun passwordHash => ?_
  refine Action.uses_bind ?_ fun account =>
    Action.uses_bind (enrolls_startSession s account) fun _ => Action.uses_pure _
  refine Action.uses_bind (Action.uses_perform trivial) fun moment => ?_
  refine Action.uses_bind (Action.uses_perform trivial) fun id => ?_
  exact Action.uses_bind (Action.uses_mapCause _ (Action.uses_directory (users _ rfl))) fun _ =>
    Action.uses_pure _

theorem enrolls_handler (s : UserService) (r : SessionTokens.Request)
    (principal : Option Principal) (e : Endpoint) :
    Action.Uses (Effect.Enrolls kind) (s.handler r principal e) := by
  have revokes (user : UserId) : Action.Uses (Effect.Enrolls kind)
      ((Rotation.revokeAll user).mapCause ApiError.rotation) :=
    Action.uses_mapCause _ (Action.uses_mapCause _ (Action.uses_ledger trivial))
  cases e with
  | health => exact Action.uses_pure _
  | signup => exact uses_withBody (enrolls_signup users s)
  | login =>
    refine uses_withBody fun body => ?_
    refine Action.uses_bind (enrolls_of_quiet (quiet_accountOf _)) fun account => ?_
    refine Action.uses_bind (enrolls_of_quiet (quiet_verifyPassword _ _)) fun _ => ?_
    exact Action.uses_bind (enrolls_startSession s account) fun _ => Action.uses_pure _
  | refresh => exact uses_withBody (enrolls_refresh s)
  | logout =>
    refine uses_withPrincipal fun p => ?_
    refine Action.uses_bind (Action.uses_require _ _) fun user => ?_
    exact Action.uses_bind (revokes user) fun _ => Action.uses_pure _
  | me => exact uses_withPrincipal fun p => Action.uses_pure _
  | account segment => exact uses_withSegment fun id => enrolls_of_quiet (quiet_summary id)
  | revokeSessions segment =>
    refine uses_withSegment fun id => ?_
    refine Action.uses_bind (enrolls_of_quiet (quiet_loadAccount id)) fun account => ?_
    exact Action.uses_bind (revokes _) fun _ => Action.uses_pure _

/-- A request stores no account but with the roles of a user. -/
theorem enrolls_handle (s : UserService) (r : SessionTokens.Request) :
    (s.handle r).Uses (Effect.Enrolls kind) := by
  have clocks {α : Type} {a : Action ApiError α} (reads : Action.Uses Effect.IsMoment a) :
      Action.Uses (Effect.Enrolls kind) a :=
    Program.Uses.imp reads fun e moment => moment ▸ trivial
  refine Program.Uses.bind ?_ fun _ => trivial
  refine Action.uses_bind (clocks (Gate.uses_identify _ _)) fun verified => ?_
  refine Action.uses_bind (clocks (Gate.uses_admitCaller _ _ _)) fun _ => ?_
  unfold Routing.dispatch
  split
  · exact Action.uses_pure _
  · split
    · exact enrolls_handler users s r _ _
    · exact Action.uses_pure _

end SessionTokens.UserService
