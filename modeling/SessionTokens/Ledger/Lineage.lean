import SessionTokens.Ledger

set_option autoImplicit false

/- The chain of rotations that a token belongs to. It is found among the records of one user, first
by going from replaced to replacing token backwards as far as it goes, then forwards. Neither
direction visits a token twice, so links that run in a circle do no harm. -/
namespace SessionTokens

namespace Lineage

/-- The token that a given one replaced; of several the one met last. -/
def parent? (records : List Record) (id : TokenId) : Option TokenId :=
  (records.reverse.find? fun r => r.replacedBy == some id).map Record.tokenId

/-- The record of a token; of several the one met last. -/
def record? (records : List Record) (id : TokenId) : Option Record :=
  records.reverse.find? fun r => r.tokenId == id

/-- The first token of the chain, going back at most `steps` times. -/
def rootFrom (records : List Record) : Nat → List TokenId → TokenId → TokenId
  | 0, _, id => id
  | steps + 1, seen, id =>
    match parent? records id with
    | some p => if p ∈ seen then id else rootFrom records steps (p :: seen) p
    | none => id

/-- The records from a token on, at most `steps` of them. -/
def chainFrom (records : List Record) : Nat → List TokenId → TokenId → List Record
  | 0, _, _ => []
  | steps + 1, seen, id =>
    if id ∈ seen then []
    else
      match record? records id with
      | none => []
      | some r =>
        match r.replacedBy with
        | some next => r :: chainFrom records steps (id :: seen) next
        | none => [r]

/-- The whole chain of a token, oldest first. A step back finds another of the records each time,
so their number bounds both walks. -/
def chain (records : List Record) (id : TokenId) : List Record :=
  chainFrom records (records.length + 1) [] (rootFrom records (records.length + 1) [id] id)

end Lineage

end SessionTokens
