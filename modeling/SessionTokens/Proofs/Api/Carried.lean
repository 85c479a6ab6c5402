import SessionTokens.Proofs.Api.Bearer
import SessionTokens.Proofs.Token.RoundTrip

set_option autoImplicit false

namespace SessionTokens

open Text

namespace Text

/-- An ASCII character that leaves a mark. -/
def IsGraphic (c : Char) : Prop :=
  33 ≤ c.toNat ∧ c.toNat < 127

instance (c : Char) : Decidable (IsGraphic c) :=
  inferInstanceAs (Decidable (_ ∧ _))

theorem Base64.isGraphic_of_mem_encode {bytes : List UInt8} {c : Char}
    (inside : c ∈ encode urlSafe bytes) : IsGraphic c := by
  have each : ∀ n < 64, IsGraphic (urlSafe.digit n) := by decide
  rw [encode_eq_map_pack] at inside
  obtain ⟨n, member, rfl⟩ := List.mem_map.mp inside
  exact each n (lt_of_mem_pack bytes n member)

theorem isBlank_of_isGraphic {c : Char} (graphic : IsGraphic c) : isBlank c = false := by
  obtain ⟨low, high⟩ := graphic
  simp only [isBlank, Bool.or_eq_false_iff, Bool.and_eq_false_iff, decide_eq_false_iff_not,
    beq_eq_false_iff_ne]
  omega

theorem dropWhile_isBlank {s : List Char} (graphic : ∀ c ∈ s, IsGraphic c) :
    s.dropWhile isBlank = s := by
  cases s with
  | nil => rfl
  | cons c rest =>
    rw [List.dropWhile_cons, isBlank_of_isGraphic (graphic c List.mem_cons_self),
      if_neg Bool.false_ne_true]

/-- There is nothing to trim from a text without blanks. -/
theorem trim_of_isGraphic {s : List Char} (graphic : ∀ c ∈ s, IsGraphic c) : trim s = s := by
  rw [trim, trimStart, dropWhile_isBlank graphic, trimEnd, dropWhile_isBlank, List.reverse_reverse]
  exact fun c inside => graphic c (List.mem_reverse.mp inside)

namespace Utf8

theorem encodeChar_ascii {c : Char} (ascii : c.toNat < 128) :
    encodeChar c = [UInt8.ofNat c.toNat] :=
  if_pos ascii

theorem encode_ascii {s : List Char} (ascii : ∀ c ∈ s, c.toNat < 128) :
    encode s = s.map fun c => UInt8.ofNat c.toNat := by
  induction s with
  | nil => rfl
  | cons c rest ih =>
    rw [List.forall_mem_cons] at ascii
    rw [encode, List.flatMap_cons, encodeChar_ascii ascii.1, List.map_cons, ← ih ascii.2]
    rfl

end Utf8

end Text

namespace Request

theorem chars_encode {s : List Char} (ascii : ∀ c ∈ s, c.toNat < 128) :
    chars (Utf8.encode s) = s := by
  rw [Utf8.encode_ascii ascii, chars, List.map_map]
  refine (List.map_congr_left fun c inside => ?_).trans (List.map_id s)
  have small : c.toNat < 256 := Nat.lt_trans (ascii c inside) (by decide)
  rw [Function.comp_apply, Utf8.toNat_ofNat_of_lt small, Char.ofNat_toNat]
  rfl

theorem isVisible_encode {s : List Char} (graphic : ∀ c ∈ s, 32 ≤ c.toNat ∧ c.toNat < 127) :
    ∀ b ∈ Utf8.encode s, isVisible b = true := by
  have ascii : ∀ c ∈ s, c.toNat < 128 := fun c inside =>
    Nat.lt_trans (graphic c inside).2 (by decide)
  rw [Utf8.encode_ascii ascii]
  intro b inside
  obtain ⟨c, member, rfl⟩ := List.mem_map.mp inside
  obtain ⟨low, high⟩ := graphic c member
  have small : c.toNat < 256 := by omega
  have value : (UInt8.ofNat c.toNat).toNat = c.toNat := Utf8.toNat_ofNat_of_lt small
  simp only [isVisible, Bool.or_eq_true, Bool.and_eq_true, decide_eq_true_eq, UInt8.le_iff_toNat_le,
    UInt8.lt_iff_toNat_lt, value]
  exact Or.inl ⟨low, high⟩

/-- The value of an authorization header with a token. -/
def bearing (token : String) : List UInt8 :=
  Utf8.bytes ("Bearer " ++ token)

/-- A request whose authorization header is made of a graphic token shows this token. -/
theorem shows_of_isGraphic {r : Request} {token : String}
    (present : r.header? "authorization" = some (bearing token))
    (graphic : ∀ c ∈ token.toList, IsGraphic c) (filled : token.toList ≠ []) :
    r.Shows (.bearer token) := by
  have value : bearing token = Utf8.encode ("Bearer".toList ++ ' ' :: token.toList) := by
    rw [bearing, Utf8.bytes, String.toList_append]
    rfl
  have wide : ∀ c ∈ "Bearer".toList ++ ' ' :: token.toList, 32 ≤ c.toNat ∧ c.toNat < 127 := by
    intro c inside
    rcases List.mem_append.mp inside with scheme | rest
    · have each : "Bearer".toList.all (fun c => 32 ≤ c.toNat ∧ c.toNat < 127) = true := by
        decide
      exact of_decide_eq_true (List.all_eq_true.mp each c scheme)
    · rcases List.mem_cons.mp rest with rfl | inside
      · decide
      · exact ⟨Nat.le_of_lt (graphic c inside).1, (graphic c inside).2⟩
  have untouched : trim token.toList = token.toList := trim_of_isGraphic graphic
  have read : Credential.IsIn (.bearer token) ("Bearer".toList ++ ' ' :: token.toList) := by
    have shown := @Credential.IsIn.token "Bearer".toList token.toList
      (by decide) (by decide) (by rwa [untouched])
    rwa [untouched, String.ofList_toList] at shown
  rw [value] at present
  refine .visible present (isVisible_encode wide) ?_
  rw [chars_encode fun c inside => Nat.lt_trans (wide c inside).2 (by decide)]
  exact read

/-- Whatever a codec signs travels in the header as it is. -/
theorem shows_of_encode {r : Request} {codec : Codec} {claims : Claims} {token : String}
    (encoded : codec.encode claims = .ok token)
    (present : r.header? "authorization" = some (bearing token)) : r.Shows (.bearer token) := by
  obtain ⟨-, signature, rfl, -⟩ := Codec.encode_ok encoded
  refine shows_of_isGraphic present ?_ ?_
  · intro c inside
    simp only [Token.Parts.text, String.toList_ofList, List.mem_append, List.mem_cons] at inside
    rcases inside with (header | rfl | payload) | rfl | signed
    · exact Base64.isGraphic_of_mem_encode header
    · decide
    · exact Base64.isGraphic_of_mem_encode payload
    · decide
    · exact Base64.isGraphic_of_mem_encode signed
  · rw [Token.Parts.text, String.toList_ofList]
    simp

end Request

end SessionTokens
