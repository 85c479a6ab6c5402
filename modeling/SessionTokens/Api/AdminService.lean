import SessionTokens.Api.UserService
import SessionTokens.Config.Admin

set_option autoImplicit false

namespace SessionTokens

open Text

/-- The user service as a peer sees it. -/
structure PeerClient where
  baseUrl : String
  audience : String
deriving DecidableEq

namespace PeerClient

def make (config : AdminConfig) : PeerClient :=
  ⟨withoutEndSlashes config.peerUrl, config.peerAudience⟩

/-- What a reply means. -/
def resultOf : PeerReply → Except PeerError Json
  | .unreachable reason => .error (.transport reason)
  | .answered status body =>
    if status = 404 then .error .notFound
    else if !Status.isSuccess status then
      .error (.answered status (String.ofList (Utf8.decodeLossy body)))
    else
      match (Json.Document.scan (Utf8.units body)).read (Json.Tree.keep Json.depthLimit) with
      | .ok v => .ok v
      | .error _ => .error (.transport "error decoding response body")

/-- Calls the peer with a token minted for this call. -/
def send (c : PeerClient) (codec : Codec) (method path : String) : Action PeerError Json := do
  let moment ← Action.perform .moment
  let (token, _) ← (Action.ofChecked (codec.mintS2s moment.now [c.audience])).mapCause
    PeerError.token
  let reply ← Action.perform (.peer ⟨method, c.baseUrl ++ path, token⟩)
  Action.ofExcept (resultOf reply)

def account (c : PeerClient) (codec : Codec) (id : UserId) : Action PeerError Json :=
  c.send codec "GET" s!"/internal/users/{id.toText}"

def revokeSessions (c : PeerClient) (codec : Codec) (id : UserId) : Action PeerError Json :=
  c.send codec "POST" s!"/internal/users/{id.toText}/revoke-sessions"

end PeerClient

structure AdminService where
  gate : Gate
  username : String
  passwordHash : String
  peer : PeerClient

namespace AdminService

inductive Endpoint
  | health
  | login
  | account (id : String)
  | revokeSessions (id : String)
deriving DecidableEq

def Endpoint.method : Endpoint → String
  | .health => "GET"
  | .login => "POST"
  | .account _ => "GET"
  | .revokeSessions _ => "POST"

def Endpoint.ofSegments? : List String → Option Endpoint
  | ["", "health"] => some .health
  | ["", "auth", "login"] => some .login
  | ["", "admin", "users", id] => if id = "" then none else some (.account id)
  | ["", "admin", "users", id, "revoke-sessions"] =>
    if id = "" then none else some (.revokeSessions id)
  | _ => none

def codec (s : AdminService) : Codec :=
  s.gate.codec

/-- Mints an access token for the one account; there is no refresh token. -/
def login (s : AdminService) (body : LoginRequest) : Action ApiError Response := do
  if body.username ≠ s.username then Action.refuse .invalidCredentials
  UserService.verifyPassword s.passwordHash body.password
  let moment ← Action.perform .moment
  let (token, _) ← (Action.ofChecked
    (s.codec.mintAccess moment.now s.username [Role.admin] [])).mapCause ApiError.token
  pure (.json 200 (TokenResponse.bearer token none s.codec.settings.lifetimes.access).toJson)

/-- Passes a request of an administrator about a user on to the peer. -/
def relay (principal : Principal) (id : String) (call : UserId → Action PeerError Json) :
    Action ApiError Response := do
  Action.ofExcept (principal.requireRole Role.admin)
  let user ← Action.require (.notFound s!"user {id} not found") (UserId.read? id)
  let result ← (call user).mapCause ApiError.ofPeer
  pure (.json 200 result)

def handler (s : AdminService) (r : Request) (principal : Option Principal) :
    Endpoint → Action ApiError Response
  | .health => pure (.bare 200)
  | .login => Routing.withBody LoginRequest.read r s.login
  | .account segment =>
    Routing.withPrincipal principal fun p =>
      Routing.withSegment segment fun id => relay p id (s.peer.account s.codec)
  | .revokeSessions segment =>
    Routing.withPrincipal principal fun p =>
      Routing.withSegment segment fun id => relay p id (s.peer.revokeSessions s.codec)

/-- Answers a request. -/
def handle (s : AdminService) (r : Request) : Program (Option Response) :=
  Routing.handle s.gate Endpoint.method (Endpoint.ofSegments? r.segments) r (s.handler r)

/-- The service of some settings. -/
def make (config : ServiceConfig) (admin : AdminConfig) : Except KeyError AdminService :=
  config.codec.map fun codec =>
    ⟨⟨codec, config.serviceId, config.internalPrefixes⟩, admin.username, admin.passwordHash,
      PeerClient.make admin⟩

end AdminService

end SessionTokens
