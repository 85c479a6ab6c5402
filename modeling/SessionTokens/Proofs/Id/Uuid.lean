import SessionTokens.Id.Ids

set_option autoImplicit false

namespace SessionTokens

open Text

theorem value?_digitChar : ∀ n < 16, Hex.value? (Nat.digitChar n) = some n := by
  decide

theorem foldl_digits (k n acc : Nat) :
    ∃ values, (Hex.digits k n).mapM Hex.value? = some values ∧
      values.foldl (fun n d => n * 16 + d) acc = acc * 16 ^ k + n % 16 ^ k := by
  induction k generalizing acc with
  | zero => exact ⟨[], rfl, by simp [Nat.mod_one]⟩
  | succ k ih =>
    obtain ⟨values, read, sum⟩ := ih (acc * 16 + n / 16 ^ k % 16)
    refine ⟨n / 16 ^ k % 16 :: values, ?_, ?_⟩
    · rw [Hex.digits, List.mapM_cons, value?_digitChar _ (Nat.mod_lt _ (by omega)), read]
      rfl
    · rw [List.foldl_cons, sum, Nat.pow_succ, Nat.mod_mul, Nat.add_mul, Nat.mul_assoc,
        Nat.mul_comm 16, Nat.mul_comm (n / 16 ^ k % 16)]
      omega

theorem number?_digits (k n : Nat) : Hex.number? (Hex.digits k n) = some (n % 16 ^ k) := by
  obtain ⟨values, read, sum⟩ := foldl_digits k n 0
  rw [Hex.number?, read, Option.map_some, sum, Nat.zero_mul, Nat.zero_add]

theorem exists_of_mem_digits (k n : Nat) :
    ∀ c ∈ Hex.digits k n, ∃ d < 16, c = Nat.digitChar d := by
  induction k with
  | zero => exact fun _ member => nomatch member
  | succ k ih =>
    rw [Hex.digits, List.forall_mem_cons]
    exact ⟨⟨_, Nat.mod_lt _ (by omega), rfl⟩, ih⟩

namespace Uuid

theorem ofGroups?_toList (u : Uuid) :
    ofGroups? u.toList = ofDigits? (Hex.digits 32 u.bits.toNat) := rfl

theorem utf8Length_of_narrow {s : List Char} (narrow : ∀ c ∈ s, c.utf8Size = 1) :
    utf8Length s = s.length := by
  induction s with
  | nil => rfl
  | cons c s ih =>
    rw [List.forall_mem_cons] at narrow
    rw [utf8Length, List.map_cons, List.sum_cons, narrow.1, List.length_cons, Nat.add_comm]
    exact congrArg (· + 1) (ih narrow.2)

theorem utf8Size_digitChar : ∀ n < 16, (Nat.digitChar n).utf8Size = 1 := by
  decide

/-- The text has digits and hyphens. -/
theorem mem_toList {u : Uuid} {c : Char} (member : c ∈ u.toList) :
    c = '-' ∨ ∃ n < 16, c = Nat.digitChar n := by
  have digit (inside : c ∈ Hex.digits 32 u.bits.toNat) : c = '-' ∨ ∃ n < 16, c = Nat.digitChar n :=
    .inr (exists_of_mem_digits 32 _ c inside)
  simp only [toList, List.mem_append, List.mem_cons] at member
  rcases member with (((member | rfl | member) | rfl | member) | rfl | member) | rfl | member
  · exact digit (List.mem_of_mem_take member)
  · exact .inl rfl
  · exact digit (List.mem_of_mem_drop (List.mem_of_mem_take member))
  · exact .inl rfl
  · exact digit (List.mem_of_mem_drop (List.mem_of_mem_take member))
  · exact .inl rfl
  · exact digit (List.mem_of_mem_drop (List.mem_of_mem_take member))
  · exact .inl rfl
  · exact digit (List.mem_of_mem_drop member)

/-- Five groups of lower-case hexadecimal digits with hyphens between them, of 8, 4, 4, 4 and 12
digits. -/
def IsHyphenated (s : List Char) : Prop :=
  ∃ a b c d e : List Char, s = a ++ '-' :: b ++ '-' :: c ++ '-' :: d ++ '-' :: e ∧
    a.length = 8 ∧ b.length = 4 ∧ c.length = 4 ∧ d.length = 4 ∧ e.length = 12 ∧
    ∀ x ∈ a ++ b ++ c ++ d ++ e, x ∈ "0123456789abcdef".toList

theorem isHyphenated_toList (u : Uuid) : IsHyphenated u.toList := by
  have length := Hex.length_digits 32 u.bits.toNat
  have digit : ∀ n < 16, Nat.digitChar n ∈ "0123456789abcdef".toList := by
    decide
  refine ⟨_, _, _, _, _, rfl, ?_, ?_, ?_, ?_, ?_, ?_⟩
  iterate 5 simp [length]
  intro x inside
  simp only [List.mem_append] at inside
  have drawn : x ∈ Hex.digits 32 u.bits.toNat := by
    rcases inside with (((inside | inside) | inside) | inside) | inside
    · exact List.mem_of_mem_take inside
    · exact List.mem_of_mem_drop (List.mem_of_mem_take inside)
    · exact List.mem_of_mem_drop (List.mem_of_mem_take inside)
    · exact List.mem_of_mem_drop (List.mem_of_mem_take inside)
    · exact List.mem_of_mem_drop inside
  obtain ⟨n, bound, rfl⟩ := exists_of_mem_digits 32 _ x drawn
  exact digit n bound

theorem IsHyphenated.length {s : List Char} (hyphenated : IsHyphenated s) : s.length = 36 := by
  obtain ⟨a, b, c, d, e, rfl, first, second, third, fourth, fifth, -⟩ := hyphenated
  simp only [List.length_append, List.length_cons, first, second, third, fourth, fifth]

theorem utf8Size_of_mem_toList (u : Uuid) : ∀ c ∈ u.toList, c.utf8Size = 1 := by
  intro c member
  obtain rfl | ⟨n, bound, rfl⟩ := mem_toList member
  · rfl
  · exact utf8Size_digitChar n bound

theorem read_toList (u : Uuid) : read u.toList = .ok u := by
  have length : utf8Length u.toList = 36 := utf8Length_of_narrow (utf8Size_of_mem_toList u)
  have digits : ofDigits? (Hex.digits 32 u.bits.toNat) = some u := by
    rw [ofDigits?, Hex.length_digits, if_pos (by decide), number?_digits, Option.map_some,
      Nat.mod_eq_of_lt (by exact u.bits.isLt), BitVec.ofNat_toNat, BitVec.setWidth_eq]
  simp only [read, groups?, length, ofGroups?_toList, digits]

end Uuid

theorem UserId.read?_toText (id : UserId) : UserId.read? id.toText = some id := by
  rw [read?, UserId.read, readId, toText, Uuid.toText, String.toList_ofList, Uuid.read_toList]
  rfl

end SessionTokens
