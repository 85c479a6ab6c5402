import SessionTokens.Api.Error

set_option autoImplicit false

namespace SessionTokens

open Text

structure Gate where
  codec : Codec
  serviceId : String
  internalPrefixes : List String

/-- The bearer token of a request, if it has one. Credentials of another scheme are none; a bearer
token that is blank or not visible text is malformed. -/
def Request.bearer (r : Request) : Except ApiError (Option String) :=
  match r.header? "authorization" with
  | none => .ok none
  | some value =>
    match Request.visible? value with
    | none => .error (.token .malformed)
    | some text =>
      match splitFirst? ' ' text with
      | none => .ok none
      | some (scheme, rest) =>
        if scheme.map Char.toLower ≠ "bearer".toList then .ok none
        else if (trim rest).isEmpty then .error (.token .malformed)
        else .ok (some (String.ofList (trim rest)))

namespace Gate

def isInternal (g : Gate) (path : String) : Bool :=
  g.internalPrefixes.any fun start => startsWith start path

/-- The claims of a token that may accompany a request. -/
def authenticate (codec : Codec) (token : String) : Action ApiError Claims := do
  let moment ← Action.perform .moment
  let claims ← Action.ofExcept ((codec.decode moment.host moment.now token).mapError .token)
  let later ← Action.perform .moment
  if claims.expiresAt ≤ later.now then Action.refuse (.token .expired)
  else if claims.kind = .refresh then
    Action.refuse (.wrongTokenType "refresh tokens are not request credentials")
  else pure claims

/-- The first gate: the claims of the request's token, if it carries one. -/
def identify (g : Gate) (r : Request) : Action ApiError (Option Claims) := do
  match ← Action.ofExcept r.bearer with
  | none => pure none
  | some token => do
    let claims ← authenticate g.codec token
    pure (some claims)

/-- The claims already verified, or those of the request's token. -/
def callerClaims (g : Gate) (verified : Option Claims) (r : Request) : Action ApiError Claims :=
  match verified with
  | some claims => pure claims
  | none => do
    let bearer ← Action.ofExcept r.bearer
    let token ← Action.require (.unauthorized "s2s bearer token required") bearer
    authenticate g.codec token

/-- Whether claims let a service in. -/
def checkCaller (g : Gate) (claims : Claims) : Except ApiError Unit :=
  if claims.kind ≠ .s2s ∨ claims.s2s ≠ some true then .error .s2sRequired
  else if !claims.isAddressedTo g.serviceId then .error .audienceMismatch
  else .ok ()

/-- The second gate. -/
def admitCaller (g : Gate) (verified : Option Claims) (r : Request) : Action ApiError Unit :=
  if g.isInternal r.path then do
    let claims ← g.callerClaims verified r
    Action.ofExcept (g.checkCaller claims)
  else pure ()

/-- The principal that claims stand for; a service is never one. -/
def principalOf (claims : Claims) : Option Principal :=
  if claims.kind = .s2s then none else some (Principal.ofClaims claims)

/-- Passes a request through both gates to what is behind them. -/
def pass (g : Gate) (r : Request) (inner : Option Principal → Action ApiError Response) :
    Action ApiError Response := do
  let verified ← g.identify r
  g.admitCaller verified r
  inner (verified.bind principalOf)

end Gate

end SessionTokens
