import SessionTokens.Api.AdminService
import SessionTokens.World

set_option autoImplicit false

namespace SessionTokens

open Text

/-- A user service and the address it is reached at. -/
structure Neighbour where
  service : UserService
  baseUrl : String

namespace Neighbour

/-- The request that a call makes, if it goes to this address. -/
def request? (n : Neighbour) (call : PeerCall) : Option Request :=
  if startsWith n.baseUrl call.url then
    some
      { method := call.method
        target := String.ofList (call.url.toList.drop n.baseUrl.length)
        headers := [⟨"authorization", Utf8.bytes s!"Bearer {call.token}"⟩]
        body := [] }
  else none

/-- What the caller sees of a response. -/
def reply : Option Response → PeerReply
  | some r => .answered r.status (r.body.elim [] fun v => Utf8.encode v.write)
  | none => .unreachable "connection closed"

/-- Answers an effect in a world where this service listens. -/
def answer (n : Neighbour) : (e : Effect) → World → e.Answer × World
  | .peer call, w =>
    match n.request? call with
    | some r =>
      let (response, w) := (n.service.handle r).run World.answer w
      (reply response, w)
    | none => World.answer (.peer call) w
  | e, w => World.answer e w

end Neighbour

end SessionTokens
