import SessionTokens.Proofs.Api.Gate
import SessionTokens.Proofs.Api.Shadows

set_option autoImplicit false

namespace SessionTokens

open SessionTokens.Action

namespace Codec

/-- Claims could not be encoded. -/
def IsUnencoded (minted : Checked TokenError (String × Claims)) : Prop :=
  ∃ cause, minted = .error (.refused (.encoding cause))

/-- The second codec reads tokens as the first does, and what both make of the same claims is
related. -/
structure Agrees (related : Checked TokenError (String × Claims) →
    Checked TokenError (String × Claims) → Prop) (c c' : Codec) : Prop where
  reads : c'.decode = c.decode
  lifetime : c'.settings.lifetimes.access = c.settings.lifetimes.access
  access : ∀ now subject roles audience,
    related (c.mintAccess now subject roles audience) (c'.mintAccess now subject roles audience)
  refresh : ∀ now subject id, related (c.mintRefresh now subject id) (c'.mintRefresh now subject id)
  s2s : ∀ now audience, related (c.mintS2s now audience) (c'.mintS2s now audience)

/-- The second codec is the first, but it may fail to encode what the first encodes. -/
def Falters (c c' : Codec) : Prop :=
  c.Agrees (fun minted minted' => minted' = minted ∨ IsUnencoded minted') c'

/-- The codecs differ in nothing but why they fail to encode. -/
def FailsAlike (c c' : Codec) : Prop :=
  c.Agrees (fun minted minted' => minted' = minted ∨ IsUnencoded minted ∧ IsUnencoded minted') c'

theorem Falters.refl (c : Codec) : c.Falters c :=
  ⟨rfl, rfl, fun _ _ _ _ => Or.inl rfl, fun _ _ _ => Or.inl rfl, fun _ _ => Or.inl rfl⟩

/-- Codecs fail alike when each of them falters as the other. -/
theorem failsAlike_iff {c c' : Codec} : c.FailsAlike c' ↔ c.Falters c' ∧ c'.Falters c := by
  have each {minted minted' : Checked TokenError (String × Claims)} :
      minted' = minted ∨ IsUnencoded minted ∧ IsUnencoded minted' ↔
        (minted' = minted ∨ IsUnencoded minted') ∧ (minted = minted' ∨ IsUnencoded minted) := by
    rw [eq_comm (a := minted), ← or_and_left, and_comm]
  constructor
  · intro alike
    exact ⟨⟨alike.reads, alike.lifetime, fun _ _ _ _ => (each.mp (alike.access _ _ _ _)).1,
        fun _ _ _ => (each.mp (alike.refresh _ _ _)).1, fun _ _ => (each.mp (alike.s2s _ _)).1⟩,
      ⟨alike.reads.symm, alike.lifetime.symm, fun _ _ _ _ => (each.mp (alike.access _ _ _ _)).2,
        fun _ _ _ => (each.mp (alike.refresh _ _ _)).2, fun _ _ => (each.mp (alike.s2s _ _)).2⟩⟩
  · rintro ⟨there, back⟩
    exact ⟨there.reads, there.lifetime,
      fun _ _ _ _ => each.mpr ⟨there.access _ _ _ _, back.access _ _ _ _⟩,
      fun _ _ _ => each.mpr ⟨there.refresh _ _ _, back.refresh _ _ _⟩,
      fun _ _ => each.mpr ⟨there.s2s _ _, back.s2s _ _⟩⟩

theorem shadows_minted {minted minted' : Checked TokenError (String × Claims)}
    (falters : minted' = minted ∨ IsUnencoded minted') :
    Shadows TokenError.Hidden (ofChecked minted) (ofChecked minted') := by
  rcases falters with rfl | ⟨cause, rfl⟩
  · exact .same _
  · exact .cut ⟨_, .encoding cause, rfl⟩

end Codec

namespace Gate

variable {hidden : Mask → ApiError → Prop} {g : Gate} {c : Codec}

theorem authenticate_eq (falters : g.codec.Falters c) (token : String) :
    authenticate c token = authenticate g.codec token := by
  rw [authenticate, authenticate, falters.reads]

theorem shadows_pass (falters : g.codec.Falters c) (r : Request)
    {inner inner' : Option Principal → Action ApiError Response}
    (goes : ∀ principal, Shadows hidden (inner principal) (inner' principal)) :
    Shadows hidden (g.pass r inner) ({ g with codec := c }.pass r inner') := by
  have reliable : ∀ e, Effect.IsMoment e → ∀ x, e.mask? x = none := by
    rintro e rfl x
    rfl
  have identifies : { g with codec := c }.identify r = g.identify r := by
    simp only [identify, authenticate_eq falters]
  have admits : ∀ verified, { g with codec := c }.admitCaller verified r =
      g.admitCaller verified r := by
    intro verified
    have asks : { g with codec := c }.callerClaims verified r = g.callerClaims verified r := by
      cases verified <;> simp only [callerClaims, authenticate_eq falters]
    rw [admitCaller, admitCaller, asks]
    rfl
  rw [pass, pass, identifies]
  refine shadows_bind (Program.Uses.shadows (uses_identify g r) reliable) fun verified => ?_
  rw [admits]
  exact shadows_bind (Program.Uses.shadows (uses_admitCaller g verified r) reliable)
    fun _ => goes _

end Gate

namespace Routing

variable {hidden : Mask → ApiError → Prop}

theorem shadows_withBody {α : Type} {read : Json.Tree → Json.Read α} {r : Request}
    {go go' : α → Action ApiError Response} (goes : ∀ body, Shadows hidden (go body) (go' body)) :
    Shadows hidden (withBody read r go) (withBody read r go') := by
  unfold withBody
  split
  · exact goes _
  · exact shadows_pure _

theorem shadows_withSegment {segment : String} {go go' : String → Action ApiError Response}
    (goes : ∀ text, Shadows hidden (go text) (go' text)) :
    Shadows hidden (withSegment segment go) (withSegment segment go') := by
  unfold withSegment
  split
  · exact goes _
  · exact shadows_pure _

theorem shadows_withPrincipal {principal : Option Principal}
    {go go' : Principal → Action ApiError Response} (goes : ∀ p, Shadows hidden (go p) (go' p)) :
    Shadows hidden (withPrincipal principal go) (withPrincipal principal go') :=
  shadows_bind (shadows_require _ _) goes

theorem shadows_dispatch {E : Type} {method : E → String} {endpoint : Option E} {r : Request}
    {handler handler' : E → Action ApiError Response}
    (handles : ∀ e, Shadows hidden (handler e) (handler' e)) :
    Shadows hidden (dispatch method endpoint r handler) (dispatch method endpoint r handler') := by
  unfold dispatch
  split
  · exact shadows_pure _
  · split
    · exact handles _
    · exact shadows_pure _

end Routing

namespace Rotation

variable {codec codec' : Codec}

theorem shadows_mintChild (falters : codec.Falters codec') (user : UserId) :
    Shadows RotationError.Hidden (mintChild codec user) (mintChild codec' user) := by
  refine shadows_bind (shadows_perform fun _ => rfl) fun tokenId => ?_
  refine shadows_bind (shadows_perform fun _ => rfl) fun moment => ?_
  refine shadows_bind (shadows_mapCause (Codec.shadows_minted (falters.refresh _ _ _)) .token)
    fun minted => ?_
  exact shadows_bind (shadows_perform fun _ => rfl) fun recordId => shadows_pure _

theorem shadows_issue (falters : codec.Falters codec') (user : UserId) :
    Shadows RotationError.Hidden (issue codec user) (issue codec' user) := by
  refine shadows_bind (shadows_mintChild falters user) fun issued => ?_
  exact shadows_bind (shadows_mapCause (shadows_ledger _) .ledger) fun _ => shadows_pure _

theorem shadows_owner (subject : String) :
    Shadows RotationError.Hidden (owner subject) (owner subject) := by
  refine shadows_bind (shadows_require _ _) fun id => ?_
  refine shadows_bind (shadows_mapCause (shadows_directory _) .directory) fun found => ?_
  exact shadows_require _ _

theorem shadows_exchange (falters : codec.Falters codec') (account : Account) (id : TokenId) :
    Shadows RotationError.Hidden (exchange codec account id) (exchange codec' account id) := by
  refine shadows_bind (shadows_mintChild falters account.id) fun child => ?_
  exact shadows_bind (shadows_mapCause (shadows_ledger _) RotationError.hidden_rotateFault)
    fun _ => shadows_pure _

theorem shadows_rotate (falters : codec.Falters codec') (token : String) :
    Shadows RotationError.Hidden (rotate codec token) (rotate codec' token) := by
  have same : presented codec' = presented codec := by
    funext moment token
    rw [presented, presented, falters.reads]
  rw [rotate, rotate, same]
  refine shadows_bind (shadows_perform fun _ => rfl) fun moment => ?_
  refine shadows_bind (shadows_ofExcept _) fun stated => ?_
  refine shadows_bind (shadows_owner _) fun account => ?_
  refine shadows_bind (shadows_mapCause (shadows_ledger _) .ledger) fun found => ?_
  refine shadows_bind (shadows_ofExcept _) fun record => ?_
  refine shadows_bind (shadows_perform fun _ => rfl) fun later => ?_
  split
  · exact .same (.error (.refused RotationError.tokenExpired))
  · exact shadows_exchange falters account _

theorem shadows_revokeAll (user : UserId) :
    Shadows RotationError.Hidden (revokeAll user) (revokeAll user) :=
  shadows_mapCause (shadows_ledger _) .ledger

end Rotation

namespace UserService

def withCodec (s : UserService) (c : Codec) : UserService :=
  { s with gate := { s.gate with codec := c } }

variable {s : UserService} {c : Codec}

theorem session_withCodec (falters : s.codec.Falters c) : (s.withCodec c).session = s.session := by
  funext access refresh
  rw [session, session]
  exact congrArg _ falters.lifetime

theorem shadows_hashPassword (s : UserService) (password : String) :
    Shadows ApiError.Hidden (s.hashPassword password) (s.hashPassword password) := by
  refine shadows_perform_bind (fun x m failed => ?_) fun x =>
    shadows_bind (shadows_ofExcept _) fun result => shadows_ofExcept _
  match x with
  | .error _ =>
    cases failed
    exact ⟨_, ApiError.hidden_internal _, rfl⟩
  | .ok (.ok _) => cases failed
  | .ok (.error .mismatch) => cases failed
  | .ok (.error (.argon2 _)) =>
    cases failed
    exact ⟨_, ApiError.hidden_internal _, rfl⟩
  | .ok (.error .invalidHash) =>
    cases failed
    exact ⟨_, ApiError.hidden_internal _, rfl⟩

/-- A password that cannot be checked is told as one that does not match. -/
theorem shadows_verifyPassword (stored password : String) :
    Shadows ApiError.Hidden (verifyPassword stored password) (verifyPassword stored password) := by
  refine shadows_perform_bind (fun x m failed => ?_) fun x =>
    shadows_bind (shadows_ofExcept _) fun result => shadows_ofExcept _
  match x with
  | .error _ =>
    cases failed
    exact ⟨_, ApiError.hidden_internal _, rfl⟩
  | .ok (.ok _) => cases failed
  | .ok (.error cause) =>
    have masks : some Mask.credentials = some m := by cases cause <;> exact failed
    cases masks
    exact ⟨_, ApiError.hidden_invalidCredentials, rfl⟩

theorem shadows_mintAccess (falters : s.codec.Falters c) (a : Account) :
    Shadows ApiError.Hidden (s.mintAccess a) ((s.withCodec c).mintAccess a) := by
  refine shadows_bind (shadows_perform fun _ => rfl) fun moment => ?_
  refine shadows_bind (shadows_mapCause (Codec.shadows_minted (falters.access _ _ _ _))
    ApiError.hidden_token) fun minted => ?_
  exact shadows_pure _

theorem shadows_startSession (falters : s.codec.Falters c) (a : Account) :
    Shadows ApiError.Hidden (s.startSession a) ((s.withCodec c).startSession a) := by
  rw [startSession, startSession, session_withCodec falters]
  refine shadows_bind (shadows_mintAccess falters a) fun access => ?_
  refine shadows_bind (shadows_mapCause (Rotation.shadows_issue falters a.id)
    ApiError.hidden_rotation) fun issued => ?_
  exact shadows_pure _

theorem shadows_createAccount (body : SignupRequest) (passwordHash : String) :
    Shadows ApiError.Hidden (createAccount body passwordHash) (createAccount body passwordHash) := by
  refine shadows_bind (shadows_perform fun _ => rfl) fun moment => ?_
  refine shadows_bind (shadows_perform fun _ => rfl) fun id => ?_
  exact shadows_bind (shadows_mapCause (shadows_directory _) ApiError.hidden_ofDirectory)
    fun _ => shadows_pure _

theorem shadows_signup (falters : s.codec.Falters c) (body : SignupRequest) :
    Shadows ApiError.Hidden (s.signup body) ((s.withCodec c).signup body) := by
  refine shadows_bind (shadows_ofExcept _) fun _ => ?_
  refine shadows_bind (shadows_hashPassword s _) fun passwordHash => ?_
  refine shadows_bind (shadows_createAccount body _) fun account => ?_
  exact shadows_bind (shadows_startSession falters account) fun session => shadows_pure _

theorem shadows_login (falters : s.codec.Falters c) (body : LoginRequest) :
    Shadows ApiError.Hidden (s.login body) ((s.withCodec c).login body) := by
  have looks : Shadows ApiError.Hidden (accountOf (Text.trimmed body.username))
      (accountOf (Text.trimmed body.username)) :=
    shadows_bind (shadows_mapCause (shadows_directory _) ApiError.hidden_ofDirectory)
      fun found => shadows_require _ _
  refine shadows_bind looks fun account => ?_
  refine shadows_bind (shadows_verifyPassword _ _) fun _ => ?_
  exact shadows_bind (shadows_startSession falters account) fun session => shadows_pure _

theorem shadows_refresh (falters : s.codec.Falters c) (body : RefreshRequest) :
    Shadows ApiError.Hidden (s.refresh body) ((s.withCodec c).refresh body) := by
  rw [refresh, refresh, session_withCodec falters]
  refine shadows_bind (shadows_mapCause (Rotation.shadows_rotate falters _)
    ApiError.hidden_rotation) fun rotated => ?_
  exact shadows_bind (shadows_mintAccess falters rotated.account) fun access => shadows_pure _

theorem shadows_logout (principal : Principal) :
    Shadows ApiError.Hidden (logout principal) (logout principal) := by
  refine shadows_bind (shadows_require _ _) fun user => ?_
  exact shadows_bind (shadows_mapCause (Rotation.shadows_revokeAll user) ApiError.hidden_rotation)
    fun _ => shadows_pure _

theorem shadows_loadAccount (id : String) :
    Shadows ApiError.Hidden (loadAccount id) (loadAccount id) := by
  refine shadows_bind (shadows_require _ _) fun user => ?_
  refine shadows_bind (shadows_mapCause (shadows_directory _) ApiError.hidden_ofDirectory)
    fun found => ?_
  exact shadows_require _ _

theorem shadows_summary (id : String) : Shadows ApiError.Hidden (summary id) (summary id) := by
  refine shadows_bind (shadows_loadAccount id) fun account => ?_
  refine shadows_bind (shadows_perform fun _ => rfl) fun moment => ?_
  exact shadows_bind (shadows_mapCause (shadows_ledger _) ApiError.hidden_ofLedger)
    fun sessions => shadows_pure _

theorem shadows_revokeSessions (id : String) :
    Shadows ApiError.Hidden (revokeSessions id) (revokeSessions id) := by
  refine shadows_bind (shadows_loadAccount id) fun account => ?_
  exact shadows_bind (shadows_mapCause (Rotation.shadows_revokeAll _) ApiError.hidden_rotation)
    fun revoked => shadows_pure _

theorem shadows_handler (falters : s.codec.Falters c) (r : SessionTokens.Request)
    (principal : Option Principal) (e : Endpoint) :
    Shadows ApiError.Hidden (s.handler r principal e) ((s.withCodec c).handler r principal e) := by
  cases e with
  | health => exact shadows_pure _
  | signup => exact Routing.shadows_withBody (shadows_signup falters)
  | login => exact Routing.shadows_withBody (shadows_login falters)
  | refresh => exact Routing.shadows_withBody (shadows_refresh falters)
  | logout => exact Routing.shadows_withPrincipal shadows_logout
  | me => exact Routing.shadows_withPrincipal fun p => shadows_pure _
  | account id => exact Routing.shadows_withSegment shadows_summary
  | revokeSessions id => exact Routing.shadows_withSegment shadows_revokeSessions

end UserService

theorem PeerClient.shadows_send (client : PeerClient) {codec codec' : Codec}
    (falters : codec.Falters codec') (method path : String) :
    Shadows PeerError.Hidden (client.send codec method path) (client.send codec' method path) := by
  refine shadows_bind (shadows_perform fun _ => rfl) fun moment => ?_
  refine shadows_bind (shadows_mapCause (Codec.shadows_minted (falters.s2s _ _)) .token)
    fun minted => ?_
  refine shadows_perform_bind (fun reply m failed => ?_) fun reply => shadows_ofExcept _
  by_cases fails : reply.fails = true
  · rw [Effect.mask?, if_pos fails] at failed
    cases failed
    obtain ⟨cause, errs, hidden⟩ := PeerClient.fails_iff.mp fails
    exact ⟨cause, hidden, by rw [errs]; rfl⟩
  · rw [Effect.mask?, if_neg fails] at failed
    cases failed

namespace AdminService

def withCodec (s : AdminService) (c : Codec) : AdminService :=
  { s with gate := { s.gate with codec := c } }

variable {s : AdminService} {c : Codec}

theorem shadows_login (falters : s.codec.Falters c) (body : LoginRequest) :
    Shadows ApiError.Hidden (s.login body) ((s.withCodec c).login body) := by
  have lifetime : (s.withCodec c).codec.settings.lifetimes.access =
      s.codec.settings.lifetimes.access := falters.lifetime
  have named : (s.withCodec c).username = s.username := rfl
  rw [login, login, lifetime, named]
  split
  · exact .same (.error (.refused ApiError.invalidCredentials))
  · refine shadows_bind (UserService.shadows_verifyPassword _ _) fun _ => ?_
    refine shadows_bind (shadows_perform fun _ => rfl) fun moment => ?_
    refine shadows_bind (shadows_mapCause (Codec.shadows_minted (falters.access _ _ _ _))
      ApiError.hidden_token) fun minted => ?_
    exact shadows_pure _

theorem shadows_relay {call call' : UserId → Action PeerError Json}
    (calls : ∀ user, Shadows PeerError.Hidden (call user) (call' user)) (principal : Principal)
    (id : String) : Shadows ApiError.Hidden (relay principal id call) (relay principal id call') := by
  refine shadows_bind (shadows_ofExcept _) fun _ => ?_
  refine shadows_bind (shadows_require _ _) fun user => ?_
  exact shadows_bind (shadows_mapCause (calls user) ApiError.hidden_ofPeer)
    fun result => shadows_pure _

theorem shadows_handler (falters : s.codec.Falters c) (r : SessionTokens.Request)
    (principal : Option Principal) (e : Endpoint) :
    Shadows ApiError.Hidden (s.handler r principal e) ((s.withCodec c).handler r principal e) := by
  cases e with
  | health => exact shadows_pure _
  | login => exact Routing.shadows_withBody (shadows_login falters)
  | account segment =>
    exact Routing.shadows_withPrincipal fun p => Routing.shadows_withSegment fun id =>
      shadows_relay (fun user => s.peer.shadows_send falters _ _) p id
  | revokeSessions segment =>
    exact Routing.shadows_withPrincipal fun p => Routing.shadows_withSegment fun id =>
      shadows_relay (fun user => s.peer.shadows_send falters _ _) p id

end AdminService

end SessionTokens
