import SessionTokens.Claims.Wire
import SessionTokens.Proofs.Json.Record

set_option autoImplicit false

namespace SessionTokens.WireClaims

open Json

theorem mapM_audienceItem (audience : List String) :
    (audience.map Json.string).mapM audienceItem = .ok audience := by
  induction audience with
  | nil => rfl
  | cons s more ih =>
    rw [List.map_cons, List.mapM_cons, ih]
    rfl

theorem returns_audience (audience : List String) : audienceField.Returns audience := by
  rw [Field.Returns]
  cases audience with
  | nil => rfl
  | cons s more =>
    refine ⟨isPlain_texts _, ?_⟩
    change ((tree (texts (s :: more))).keep innerDepth).bind _ = _
    rw [innerDepth, depthLimit, keep_texts]
    exact mapM_audienceItem (s :: more)

theorem returns_kind (kind : TokenKind) : kindField.Returns kind := by
  cases kind <;> exact ⟨.string _, rfl⟩

/-- Times within 64 bits. -/
theorem returns_values {w : WireClaims}
    (issued : -9223372036854775808 ≤ w.issuedAt ∧ w.issuedAt ≤ 9223372036854775807)
    (expires : -9223372036854775808 ≤ w.expiresAt ∧ w.expiresAt ≤ 9223372036854775807) :
    w.values.Return :=
  ⟨returns_text _ _, returns_text _ _, returns_audience _, returns_int64 _ issued.1 issued.2,
    returns_int64 _ expires.1 expires.2, returns_kind _, returns_omittableText _ _,
    returns_omittableFlag _ _, trivial⟩

theorem name_mem_registered : ∀ name ∈ fields.map Field.name, name ∈ registeredClaims := by
  decide

/-- Members besides the fixed ones, if there is at most one and it is a list of texts. -/
theorem read_toJson {w : WireClaims} (returns : w.values.Return)
    (apart : ∀ m ∈ w.extra, m.1 ∉ fields.map Field.name)
    (kept : readOthers keepExtra w.extra [] = .ok w.extra) : read (tree w.toJson) = .ok w := by
  have members : (treeMembers (w.values.members fields ++ w.extra)).readInto fields keepExtra
      (Slots.empty fields) [] = .ok (Slots.filled fields w.values, w.extra) := by
    rw [readInto_members fields w.values w.extra [] (by decide) returns apart, kept]
    rfl
  rw [toJson, tree, read, members]
  dsimp only [bind, Except.bind]
  rw [finish_filled fields w.values returns]
  rfl

theorem isPlain_toJson {w : WireClaims} (returns : w.values.Return)
    (plain : ∀ m ∈ w.extra, IsPlain m.2) : w.toJson.IsPlain := by
  refine .object ?_
  intro m member
  rcases List.mem_append.mp member with field | outside
  · exact isPlain_of_mem_members fields w.values returns m field
  · exact plain m outside

section Claims

variable (c : Claims) (rolesClaim : RolesClaim)

theorem returns_ofClaims : (ofClaims c rolesClaim).values.Return := by
  have issued := c.issuedAt.ge_earliest
  have issued' := c.issuedAt.le_latest
  have expires := c.expiresAt.ge_earliest
  have expires' := c.expiresAt.le_latest
  exact returns_values
    ⟨by change _ ≤ c.issuedAt.seconds; omega, by change c.issuedAt.seconds ≤ _; omega⟩
    ⟨by change _ ≤ c.expiresAt.seconds; omega, by change c.expiresAt.seconds ≤ _; omega⟩

/-- Besides the fixed fields there are at most the roles. -/
theorem extra_ofClaims : (ofClaims c rolesClaim).extra = [] ∨
    ∃ names, (ofClaims c rolesClaim).extra = [(rolesClaim.name, texts names)] := by
  unfold ofClaims
  cases c.roles with
  | none => exact Or.inl rfl
  | some roles => exact Or.inr ⟨_, rfl⟩

theorem isPlain_ofClaims : (ofClaims c rolesClaim).toJson.IsPlain := by
  refine isPlain_toJson (returns_ofClaims c rolesClaim) ?_
  intro m member
  rcases extra_ofClaims c rolesClaim with none | ⟨names, roles⟩
  · rw [none] at member
    cases member
  · rw [roles] at member
    rw [List.mem_singleton.mp member]
    exact isPlain_texts names

/-- A payload reads back as it was written. -/
theorem read_ofClaims :
    read (tree (ofClaims c rolesClaim).toJson) = .ok (ofClaims c rolesClaim) := by
  refine read_toJson (returns_ofClaims c rolesClaim) ?_ ?_
  · intro m member inside
    rcases extra_ofClaims c rolesClaim with none | ⟨names, roles⟩
    · rw [none] at member
      cases member
    · rw [roles] at member
      rw [List.mem_singleton.mp member] at inside
      exact rolesClaim.not_registered (name_mem_registered _ inside)
  · rcases extra_ofClaims c rolesClaim with none | ⟨names, roles⟩
    · rw [none]
      rfl
    · rw [roles, readOthers, keepExtra, innerDepth, depthLimit, keep_texts]
      rfl

theorem mapM_roleOf? (roles : List Role) :
    ((roles.map Role.name).map Json.string).mapM roleOf? = some roles := by
  induction roles with
  | nil => rfl
  | cons role roles ih =>
    rw [List.map_cons, List.map_cons, List.mapM_cons, ih]
    rfl

theorem ofSeconds?_seconds {t : Instant} (whole : t.nanos = 0) :
    Instant.ofSeconds? t.seconds = some t := by
  have bounds := And.intro t.ge_earliest t.le_latest
  rw [Instant.ofSeconds?, Instant.make?, dif_pos ⟨bounds, by decide⟩]
  cases t
  subst whole
  rfl

/-- The claim set of a payload, with the roles that the reader's own name for them leads to. -/
theorem toClaims?_ofClaims (other : RolesClaim) (issued : c.issuedAt.nanos = 0)
    (expires : c.expiresAt.nanos = 0) :
    (ofClaims c rolesClaim).toClaims? other =
      some (if other.name = rolesClaim.name then c else { c with roles := none }) := by
  obtain ⟨subject, issuer, audience, issuedAt, expiresAt, kind, roles, tokenId, s2s⟩ := c
  have ids : (tokenId.map TokenId.text).map TokenId.mk = tokenId := by
    cases tokenId <;> rfl
  simp only [ofClaims, toClaims?, ofSeconds?_seconds issued, ofSeconds?_seconds expires, ids,
    Option.bind_eq_bind, Option.bind_some]
  cases roles with
  | none =>
    rw [List.lookup_nil, rolesOf?, Option.bind_some, ite_self]
  | some roles =>
    by_cases same : other.name = rolesClaim.name
    · rw [List.lookup_cons, same, beq_self_eq_true, if_pos rfl]
      simp only [rolesOf?, texts, mapM_roleOf?, Option.map_some, Option.bind_some]
    · rw [List.lookup_cons, beq_eq_false_iff_ne.mpr same, if_neg same]
      rfl

end Claims

end SessionTokens.WireClaims
