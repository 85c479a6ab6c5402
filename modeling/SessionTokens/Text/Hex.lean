import SessionTokens.Arithmetic

set_option autoImplicit false

namespace SessionTokens.Text.Hex

def value? (c : Char) : Option Nat :=
  let n := c.toNat
  if 48 ≤ n && n ≤ 57 then some (n - 48)
  else if 65 ≤ n && n ≤ 70 then some (n - 55)
  else if 97 ≤ n && n ≤ 102 then some (n - 87)
  else none

/-- The number that digits write. -/
def number? (s : List Char) : Option Nat :=
  (s.mapM value?).map fun digits => digits.foldl (fun n d => n * 16 + d) 0

/-- The last `k` digits of a number. -/
def digits : Nat → Nat → List Char
  | 0, _ => []
  | k + 1, n => Nat.digitChar (n / 16 ^ k % 16) :: digits k n

theorem length_digits (k n : Nat) : (digits k n).length = k := by
  induction k with
  | zero => rfl
  | succ k ih => simp only [digits, List.length_cons, ih]

end SessionTokens.Text.Hex
