import SessionTokens.World

set_option autoImplicit false

namespace SessionTokens

/-- How a ledger behaves. In a race, each rotation first loses to another one, and so many have
lost already. A vanishing ledger looks for a token that is not there. -/
inductive LedgerCondition
  | sound
  | closed
  | race (lost : Nat)
  | vanishing
deriving DecidableEq

/-- What a ledger is asked for, as its failures name it. -/
def LedgerCall.operation : LedgerCall → String
  | .insert _ => "insert"
  | .find _ => "find_by_jti"
  | .rotate _ _ => "begin_transaction"
  | .revokeAll _ => "revoke_all_for_user"
  | .active _ _ => "active_for_user"
  | .history _ => "history_for_user"

/-- What a directory is asked for, as its failures name it. -/
def DirectoryCall.operation : DirectoryCall → String
  | .insert _ => "insert user"
  | .find _ => "find user by id"
  | .findUsername _ => "find user by username"

structure DisturbedWorld where
  world : World
  ledgerCondition : LedgerCondition
  directoryClosed : Bool

namespace DisturbedWorld

/-- The record that wins a race against a child. -/
def rival (n : Nat) (child : Record) : Record :=
  { child with tokenId := ⟨s!"race-winner-{n}"⟩ }

def answerLedger (d : DisturbedWorld) (call : LedgerCall) :
    Except LedgerError call.Result × DisturbedWorld :=
  let ask (w : World) (c : LedgerCall) (condition : LedgerCondition) :=
    let (result, world) := World.answer (.ledger c) w
    (result, { d with world, ledgerCondition := condition })
  match d.ledgerCondition, call with
  | .closed, call => (.error (.storage s!"connection pool closed in {call.operation}"), d)
  | .race lost, .rotate old child =>
    let (_, ledger) := d.world.ledger.answer (.rotate old (rival (lost + 1) child))
    ask { d.world with ledger } (.rotate old child) (.race (lost + 1))
  | .vanishing, .rotate _ child => ask d.world (.rotate ⟨"vanished"⟩ child) .vanishing
  | condition, call => ask d.world call condition

def closedDirectory (call : DirectoryCall) : DirectoryError :=
  .storage (call.operation ++
    " failed: attempted to acquire a connection on a closed pool")

/-- Answers an effect under the disturbances. -/
def answer (e : Effect) (d : DisturbedWorld) : e.Answer × DisturbedWorld :=
  match e with
  | .ledger call => d.answerLedger call
  | .directory call =>
    if d.directoryClosed then (.error (closedDirectory call), d)
    else
      let (result, world) := World.answer (.directory call) d.world
      (result, { d with world })
  | e =>
    let (result, world) := World.answer e d.world
    (result, { d with world })

end DisturbedWorld

end SessionTokens
