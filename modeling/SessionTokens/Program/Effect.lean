import SessionTokens.Directory
import SessionTokens.Ledger
import SessionTokens.Password

set_option autoImplicit false

/- What a service asks of its surroundings: the time, new identifiers, its stores, password hashing
and its peer. Each effect is one indivisible step, and whatever happens elsewhere happens between
two of them. -/
namespace SessionTokens

inductive LedgerCall
  | insert (r : Record)
  | find (id : TokenId)
  | rotate (old : TokenId) (child : Record)
  | revokeAll (user : UserId)
  | active (user : UserId) (now : Instant)
  | history (user : UserId)

@[reducible] def LedgerCall.Result : LedgerCall → Type
  | .insert _ => Unit
  | .find _ => Option Record
  | .rotate _ _ => Unit
  | .revokeAll _ => Nat
  | .active _ _ => List Record
  | .history _ => List Record

inductive DirectoryCall
  | insert (a : Account)
  | find (id : UserId)
  | findUsername (username : String)

@[reducible] def DirectoryCall.Result : DirectoryCall → Type
  | .insert _ => Unit
  | .find _ => Option Account
  | .findUsername _ => Option Account

/-- Work on passwords, which is handed to a worker. -/
inductive PasswordCall
  | hash (costs : Crypto.Argon2.Costs) (password : List UInt8)
  | verify (stored : String) (password : List UInt8)

@[reducible] def PasswordCall.Result : PasswordCall → Type
  | .hash _ _ => String
  | .verify _ _ => Unit

/-- A call to another service, with the token that vouches for the caller. -/
structure PeerCall where
  method : String
  url : String
  token : String
deriving DecidableEq

inductive PeerReply
  | unreachable (reason : String)
  | answered (status : Nat) (body : List UInt8)
deriving DecidableEq

/-- One reading of the clocks: the service's own, and the host's in whole seconds. -/
structure Moment where
  now : Instant
  host : Int
deriving DecidableEq

/-- A worker ended without a result. -/
structure WorkerFailure where
  reason : String
deriving DecidableEq

inductive Effect
  | moment
  | newUserId
  | newRecordId
  | newTokenId
  | ledger (call : LedgerCall)
  | directory (call : DirectoryCall)
  | password (call : PasswordCall)
  | peer (call : PeerCall)

@[reducible] def Effect.Answer : Effect → Type
  | .moment => Moment
  | .newUserId => UserId
  | .newRecordId => RecordId
  | .newTokenId => TokenId
  | .ledger call => Except LedgerError call.Result
  | .directory call => Except DirectoryError call.Result
  | .password call => Except WorkerFailure (Except PasswordError call.Result)
  | .peer _ => PeerReply

end SessionTokens
