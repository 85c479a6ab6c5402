import SessionTokens.Api.Gate

set_option autoImplicit false

/- From requests to handlers. The gates come first, then the path, then the method; a `HEAD` request
is handled as the `GET` of its path and answered without a body. -/
namespace SessionTokens

open Text

namespace Routing

/-- Whether a handler for one method answers requests of another. -/
def accepts (wanted given : String) : Bool :=
  given == wanted || (wanted == "GET" && given == "HEAD")

/-- The handler of the path, if it takes the method. -/
def dispatch {E : Type} (method : E → String) (endpoint : Option E) (r : Request)
    (handler : E → Action ApiError Response) : Action ApiError Response :=
  match endpoint with
  | none => pure (.bare 404)
  | some e => if accepts (method e) r.method then handler e else pure (.bare 405)

/-- Whether the answer goes without a body. -/
def dropsBody {E : Type} (method : E → String) (endpoint : Option E) (r : Request) : Bool :=
  r.method == "HEAD" && (endpoint.map method == some "GET")

/-- The answer to the end of an action; there is none where a time leaves the bounds. -/
def answer (bodiless : Bool) : Checked ApiError Response → Option Response
  | .ok r => some (if bodiless then .bare r.status else r)
  | .error (.refused e) => some (if bodiless then .bare e.status else e.response)
  | .error .overflow => none

/-- Handles a request: gates, path, method, handler. -/
def handle {E : Type} (g : Gate) (method : E → String) (endpoint : Option E) (r : Request)
    (handler : Option Principal → E → Action ApiError Response) : Program (Option Response) :=
  (g.pass r fun principal => dispatch method endpoint r (handler principal)).run.bind fun result =>
    .done (answer (dropsBody method endpoint r) result)

/-- Goes on with the principal, who has to be there. -/
def withPrincipal (principal : Option Principal)
    (go : Principal → Action ApiError Response) : Action ApiError Response := do
  let p ← Action.require (.unauthorized "authentication required") principal
  go p

/-- Goes on with a path segment decoded. -/
def withSegment (segment : String) (go : String → Action ApiError Response) :
    Action ApiError Response :=
  match Percent.decodeText? segment.toList with
  | some text => go text
  | none => pure (.bare 400)

/-- Goes on with the body of a request read. -/
def withBody {α : Type} (read : Json.Tree → Json.Read α) (r : Request)
    (go : α → Action ApiError Response) : Action ApiError Response :=
  match r.readBody read with
  | .ok body => go body
  | .error status => pure (.bare status)

end Routing

/-- Requires a role of a principal. -/
def Principal.requireRole (p : Principal) (role : Role) : Except ApiError Unit :=
  if p.hasRole role then .ok () else .error (.forbidden role)

end SessionTokens
