import SessionTokens.Password
import SessionTokens.Proofs.Password.Phc

set_option autoImplicit false

namespace SessionTokens

open Text

namespace Crypto

theorem length_bytesOfWords (words : List UInt64) :
    (words.flatMap bytesOfWord).length = 8 * words.length := by
  induction words with
  | nil => rfl
  | cons w rest ih =>
    rw [List.flatMap_cons, List.length_append, ih, List.length_cons]
    change 8 + _ = _
    omega

namespace Blake2b

theorem length_absorb {h : List UInt64} (eight : h.length = 8) (block : List UInt64) (count : Nat)
    (last : Bool) : (absorb h block count last).length = 8 := by
  simp only [absorb, List.length_zipWith, List.length_take, List.length_drop, Row.words,
    List.length_cons, List.length_nil, eight]
  decide

theorem length_absorbAll (n : Nat) (bytes : List UInt8) (count : Nat) {h : List UInt64}
    (eight : h.length = 8) : (absorbAll n bytes count h).length = 8 := by
  induction n generalizing bytes count h with
  | zero => exact eight
  | succ n ih => exact ih _ _ (length_absorb eight _ _ _)

theorem length_digest {size : Nat} (bound : size ≤ 64) (message : List UInt8) :
    (digest size message).length = size := by
  rw [digest, List.length_take, length_bytesOfWords, length_absorbAll _ _ _ rfl]
  omega

end Blake2b

theorem Argon2.length_hash (i : Input) {size : Nat} (bound : size ≤ 64) :
    (hash i size).length = size := by
  rw [hash, stretch, if_pos bound]
  exact Blake2b.length_digest bound _

end Crypto

theorem Text.Base64.length_encode (a : Alphabet) (bytes : List UInt8) :
    (encode a bytes).length = (4 * bytes.length + 2) / 3 := by
  induction bytes using pack.induct with
  | case1 => rfl
  | case4 x y z rest ih =>
    simp only [encode, List.length_cons, ih]
    omega
  | _ => simp only [encode, List.length_cons, List.length_nil]

namespace Password

open Crypto

/-- The bytes that a password comes to. -/
def output (costs : Argon2.Costs) (salt password : List UInt8) : List UInt8 :=
  Argon2.hash ⟨.hybrid, .v19, costs, password, salt, []⟩ newHashLength

theorem length_output (costs : Argon2.Costs) (salt password : List UInt8) :
    (output costs salt password).length = newHashLength :=
  Argon2.length_hash _ (by decide)

/-- Costs of 32 bits each that have no flaw. -/
structure IsAccepted (c : Argon2.Costs) : Prop where
  sound : costFlaw? c = none
  memory : c.memory < 2 ^ 32
  passes : c.passes < 2 ^ 32

theorem IsAccepted.lanes {c : Argon2.Costs} (accepted : IsAccepted c) : c.lanes < 2 ^ 32 := by
  have sound := accepted.sound
  unfold costFlaw? at sound
  split at sound
  · cases sound
  split at sound
  · cases sound
  split at sound
  · cases sound
  split at sound
  · cases sound
  · omega

theorem areWritable_costParameters {c : Argon2.Costs} (accepted : IsAccepted c) :
    Phc.AreWritable (costParameters c) := by
  have memory := Phc.length_toDigits_le accepted.memory
  have passes := Phc.length_toDigits_le accepted.passes
  have lanes := Phc.length_toDigits_le accepted.lanes
  constructor
  · rw [costParameters, List.forall_mem_cons, List.forall_mem_cons, List.forall_mem_singleton]
    have named : Phc.isName ['m'] = true ∧ Phc.isName ['t'] = true ∧ Phc.isName ['p'] = true := by
      decide
    exact ⟨⟨named.1, Phc.isValue_toDigits accepted.memory⟩,
      ⟨named.2.1, Phc.isValue_toDigits accepted.passes⟩,
      ⟨named.2.2, Phc.isValue_toDigits accepted.lanes⟩⟩
  · exact List.cons_ne_nil _ _
  · simp only [costParameters, Phc.writeParameters, List.cons_append, List.nil_append,
      List.length_cons, List.length_append]
    omega

/-- The costs that are written are those that are read. -/
theorem stated?_costParameters {c : Argon2.Costs} (accepted : IsAccepted c) :
    stated? (costParameters c) = some ⟨c, []⟩ := by
  have sound : ¬ (costFlaw? c).isSome = true := by
    rw [accepted.sound]
    exact Bool.false_ne_true
  have folded : (costParameters c).foldlM Stated.add? ⟨standardCosts, []⟩ = some ⟨c, []⟩ := by
    simp only [costParameters, List.foldlM_cons, List.foldlM_nil, Stated.add?, beq_self_eq_true,
      if_true, Phc.decimal?_toDigits accepted.memory, Phc.decimal?_toDigits accepted.passes,
      Phc.decimal?_toDigits accepted.lanes]
    rfl
  rw [stated?, folded, Option.bind_some, if_neg sound]

theorem isValue_encode {salt : List UInt8} (greatest : salt.length ≤ 48) :
    Phc.isValue (Base64.encode Base64.standard salt) = true := by
  have valued : ∀ n < 64, Phc.isValueChar (Base64.standard.digit n) = true := by decide
  rw [Phc.isValue, Base64.length_encode, Bool.and_eq_true, decide_eq_true_eq, List.all_eq_true]
  refine ⟨by omega, ?_⟩
  rw [Base64.encode_eq_map_pack, List.forall_mem_map]
  exact fun n inside => valued n (Base64.lt_of_mem_pack salt n inside)

variable {costs : Argon2.Costs} {salt : List UInt8}

/-- The fields of a new hash. -/
def newPhc (costs : Argon2.Costs) (salt password : List UInt8) : Phc where
  algorithm := "argon2id".toList
  version := some 19
  parameters := costParameters costs
  salt := some (Base64.encode Base64.standard salt)
  hash := some (output costs salt password)

theorem read?_hash (accepted : IsAccepted costs) (least : minSaltLength ≤ salt.length)
    (greatest : salt.length ≤ 48) (password : List UInt8) :
    Phc.read? (hash costs salt password).toList = some (newPhc costs salt password) := by
  have written : (hash costs salt password).toList = (newPhc costs salt password).write :=
    String.toList_ofList
  have named : Phc.isName "argon2id".toList = true := by decide
  rw [written]
  refine Phc.read?_write ⟨named, ⟨19, rfl, by decide⟩, areWritable_costParameters accepted,
    ⟨_, rfl, ?_, isValue_encode greatest⟩, ⟨_, rfl, ?_, ?_⟩⟩
  · rw [Base64.length_encode]
    unfold minSaltLength at least
    omega
  · rw [length_output]
    decide
  · rw [length_output]
    decide

theorem recompute?_eq {p : Phc} {variant : Argon2.Variant} {version : Argon2.Version}
    {stated : Stated} {text : List Char} (named : variant? p.algorithm = some variant)
    (numbered : version? p.version = some version) (taken : stated? p.parameters = some stated)
    (salted : p.salt = some text) (decoded : Base64.decode? Base64.standard text = some salt)
    (least : minSaltLength ≤ salt.length) (size : Nat) (password : List UInt8) :
    recompute? p size password = some (Argon2.hash
      ⟨variant, version, stated.costs, password, salt, stated.associated⟩ size) := by
  simp only [recompute?, named, numbered, taken, salted, decoded, bind, Option.bind,
    if_neg (Nat.not_lt.mpr least)]

/-- All that a hash states but its own bytes is enough to come to the bytes of a password. -/
theorem recompute?_newPhc (accepted : IsAccepted costs) (least : minSaltLength ≤ salt.length)
    (password candidate : List UInt8) :
    recompute? (newPhc costs salt password) newHashLength candidate =
      some (output costs salt candidate) := by
  have named : variant? (newPhc costs salt password).algorithm = some .hybrid :=
    if_pos (beq_self_eq_true _)
  have numbered : version? (newPhc costs salt password).version = some .v19 := rfl
  have taken : stated? (newPhc costs salt password).parameters = some ⟨costs, []⟩ :=
    stated?_costParameters accepted
  have decoded := Base64.decode?_encode Base64.standard_isFaithful salt
  rw [output, recompute?_eq named numbered taken rfl decoded least]

/-- A hash is checked with the costs and the salt that it was made with, whatever costs are in use
by now: a password passes just when it comes to the same bytes. -/
theorem verify_hash (accepted : IsAccepted costs) (least : minSaltLength ≤ salt.length)
    (greatest : salt.length ≤ 48) (password candidate : List UInt8) :
    verify (hash costs salt password) candidate =
      if output costs salt candidate = output costs salt password then .ok ()
      else .error .mismatch := by
  rw [verify, read?_hash accepted least greatest]
  change (if recompute? (newPhc costs salt password) (output costs salt password).length candidate =
    some (output costs salt password) then _ else _) = _
  rw [length_output, recompute?_newPhc accepted least password candidate]
  simp only [Option.some.injEq]

end Password

end SessionTokens
