import SessionTokens.Password.Manager
import SessionTokens.Proofs.Password.Verification

set_option autoImplicit false

namespace SessionTokens

open Text Crypto

namespace Hasher

/-- A hasher that is set up anew comes to the bytes that the stored hash alone determines. -/
theorem accepts_eq (h : Hasher) {p : Phc} {expected : List UInt8} (stated : p.hash = some expected)
    (password : List UInt8) :
    h.accepts p password =
      decide (Password.recompute? p expected.length password = some expected) := by
  have recomputed : (p.salt.bind fun salt =>
      (h.restated? p).bind fun h => h.output? expected.length salt password) =
      Password.recompute? p expected.length password := by
    unfold restated? output? output Password.recompute?
    cases Password.variant? p.algorithm
    · cases p.salt <;> rfl
    cases Password.version? p.version
    · cases p.salt <;> rfl
    cases Password.stated? p.parameters
    · cases p.salt <;> rfl
    cases p.salt <;> rfl
  rw [← recomputed, accepts, stated]
  cases p.salt with
  | none => rfl
  | some salt => rw [Option.bind_some, ← Bool.beq_eq_decide_eq]

end Hasher

namespace PasswordManager

/-- A manager is made of its parameters, and of no others. -/
theorem make_eq_ok {params : PasswordParams} {m : PasswordManager} :
    make params = .ok m ↔ m.params = params := by
  constructor
  · intro made
    unfold make at made
    split at made
    · cases made
    · rw [← Except.ok.inj made]
  · rintro rfl
    unfold make
    split
    · rename_i flaw found
      rw [m.sound] at found
      cases found
    · rfl

/-- The parameters that make a manager are those whose costs pass the check. -/
theorem map_make (params : PasswordParams) :
    (make params).map (fun m => m.params.costs) = Password.checkCosts params.costs := by
  unfold make Password.checkCosts
  split
  · rename_i flaw found
    rw [found]
    rfl
  · rename_i sound
    simp only [Except.map, sound]

/-- The costs of a manager have no part in how it checks. -/
theorem verify_eq (m : PasswordManager) (stored : String) (password : List UInt8) :
    m.verify stored password = Password.verify stored password := by
  unfold verify Password.verify
  cases Phc.read? stored.toList with
  | none => rfl
  | some phc =>
    dsimp only
    cases stated : phc.hash with
    | none =>
      have rejected : m.hasher.accepts phc password = false := by
        rw [Hasher.accepts, stated]
        cases phc.salt <;> rfl
      rw [rejected]
      rfl
    | some expected =>
      rw [m.hasher.accepts_eq stated]
      simp only [decide_eq_true_eq]

theorem isAccepted (m : PasswordManager) : Password.IsAccepted m.params.costs :=
  ⟨m.sound, m.params.memoryCost.toNat_lt, m.params.iterations.toNat_lt⟩

theorem verify_hash (P Q : PasswordManager) (salt : Salt) (password candidate : List UInt8) :
    Q.verify (P.hash salt password) candidate =
      if Password.output P.params.costs salt.bytes candidate =
        Password.output P.params.costs salt.bytes password then .ok () else .error .mismatch := by
  rw [verify_eq, hash, Password.verify_hash P.isAccepted salt.least salt.greatest]

/-- A hash made at one manager's costs is judged by another as by the first: the password that was
hashed passes, another one just when it comes to the same bytes at the first one's costs, and else
it is a mismatch. -/
theorem hashes_outlive_costs (P Q : PasswordManager) (salt : Salt)
    (password candidate : List UInt8) :
    Q.verify (P.hash salt password) candidate = P.verify (P.hash salt password) candidate ∧
      Q.verify (P.hash salt password) password = .ok () ∧
      (Q.verify (P.hash salt password) candidate = .ok () ↔
        Password.output P.params.costs salt.bytes candidate =
          Password.output P.params.costs salt.bytes password) ∧
      (Q.verify (P.hash salt password) candidate ≠ .ok () →
        Q.verify (P.hash salt password) candidate = .error .mismatch) := by
  simp only [verify_hash, if_true]
  refine ⟨trivial, trivial, ?_, fun failed => if_neg fun same => failed (if_pos same)⟩
  split
  · rename_i same
    exact ⟨fun _ => same, fun _ => rfl⟩
  · rename_i other
    exact ⟨nofun, fun same => absurd same other⟩

end PasswordManager

end SessionTokens
