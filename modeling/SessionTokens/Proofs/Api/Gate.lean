import SessionTokens.Api.Routing
import SessionTokens.Proofs.Program.Uses

set_option autoImplicit false

namespace SessionTokens

variable {α : Type}

/-- A reading of the clocks. -/
def Effect.IsMoment (e : Effect) : Prop :=
  e = .moment

namespace Gate

variable {g : Gate} {r : Request} {w : World}

theorem uses_authenticate (codec : Codec) (token : String) :
    Action.Uses Effect.IsMoment (authenticate codec token) := by
  refine Action.uses_bind (Action.uses_perform rfl) fun moment => ?_
  refine Action.uses_bind (Action.uses_ofExcept _) fun claims => ?_
  refine Action.uses_bind (Action.uses_perform rfl) fun later => ?_
  split
  · exact Action.uses_refuse _
  · split
    · exact Action.uses_refuse _
    · exact Action.uses_pure _

theorem uses_identify (g : Gate) (r : Request) :
    Action.Uses Effect.IsMoment (g.identify r) := by
  refine Action.uses_bind (Action.uses_ofExcept _) fun bearer => ?_
  cases bearer with
  | none => exact Action.uses_pure _
  | some token => exact Action.uses_bind (uses_authenticate _ _) fun _ => Action.uses_pure _

theorem uses_admitCaller (g : Gate) (verified : Option Claims) (r : Request) :
    Action.Uses Effect.IsMoment (g.admitCaller verified r) := by
  unfold admitCaller
  split
  · refine Action.uses_bind ?_ fun claims => Action.uses_ofExcept _
    cases verified with
    | some claims => exact Action.uses_pure _
    | none =>
      refine Action.uses_bind (Action.uses_ofExcept _) fun bearer => ?_
      exact Action.uses_bind (Action.uses_require _ _) fun token => uses_authenticate _ _
  · exact Action.uses_pure _

theorem run_of_uses {ε : Type} {a : Action ε α} (uses : Action.Uses Effect.IsMoment a) (w : World) :
    (a.run.run World.answer w).2 = w := by
  refine Program.Uses.run_eq uses ?_ w
  rintro e rfl s
  rfl

/-- The gates let a request through, with the claims of its token if it has one. -/
structure Admits (g : Gate) (r : Request) (w : World) (verified : Option Claims) : Prop where
  identified : ((g.identify r).run.run World.answer w).1 = .ok verified
  admitted : ((g.admitCaller verified r).run.run World.answer w).1 = .ok ()

/-- What is behind the gates runs as if they were not there. -/
theorem Admits.run_pass {verified : Option Claims} (admits : g.Admits r w verified)
    (inner : Option Principal → Action ApiError Response) :
    (g.pass r inner).run.run World.answer w =
      (inner (verified.bind principalOf)).run.run World.answer w := by
  have first : (g.identify r).run.run World.answer w = (.ok verified, w) :=
    Prod.ext admits.identified (run_of_uses (uses_identify g r) w)
  have second : (g.admitCaller verified r).run.run World.answer w = (.ok (), w) :=
    Prod.ext admits.admitted (run_of_uses (uses_admitCaller g verified r) w)
  rw [pass, Action.run_bind, first]
  dsimp only
  rw [Action.run_bind, second]

/-- A request without credentials for a path of everyone's is let through. -/
theorem admits_bare (bearer : r.bearer = .ok none) (outside : g.isInternal r.path = false) :
    g.Admits r w none := by
  constructor
  · rw [identify, bearer]
    rfl
  · rw [admitCaller, outside, if_neg Bool.false_ne_true]
    rfl

end Gate

/-- A request that the gates let through is answered by the handler of its path. -/
theorem Routing.run_handle {E : Type} {g : Gate} {method : E → String} {e : E} {r : Request}
    {w : World} {verified : Option Claims} (admits : g.Admits r w verified)
    (asked : r.method = method e) (other : r.method ≠ "HEAD")
    (handler : Option Principal → E → Action ApiError Response) :
    (handle g method (some e) r handler).run World.answer w =
      let (result, w') := (handler (verified.bind Gate.principalOf) e).run.run World.answer w
      (answer false result, w') := by
  have given : accepts (method e) r.method = true := by
    rw [accepts, asked, beq_self_eq_true, Bool.true_or]
  have bodied : dropsBody method (some e) r = false := by
    rw [dropsBody, beq_eq_false_iff_ne.mpr other, Bool.false_and]
  rw [handle, Program.run_bind, admits.run_pass, dispatch, if_pos given, bodied]
  rfl

end SessionTokens
