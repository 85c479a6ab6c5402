import SessionTokens.Proofs.Claims.Wire
import SessionTokens.Proofs.Json.Stated

set_option autoImplicit false

namespace SessionTokens

open Json Token

/-- The value that members of one name tell. Without any, or with `null`, there is none. -/
inductive Tells : List Tree → Option Tree → Prop
  | absent : Tells [] none
  | null : Tells [.null] none
  | value (v : Tree) : Tells [v] (some v)

/-- The name of a kind stands as a text, or as the only member of an object. -/
inductive Names (name : String) : Tree → Prop
  | text : Names name (.string (some name))
  | member : Names name (.object (.cons (some name) .null .closed))

/-- The audience is left out, one text or a list of texts. -/
inductive Addresses : List Tree → List String → Prop
  | absent : Addresses [] []
  | one (s : String) : Addresses [.string (some s)] [s]
  | list (audience : List String) : Addresses [tree (texts audience)] audience

/-- A whole number, as the only value. -/
def IsWhole (values : List Tree) (n : Int) : Prop :=
  ∃ spelled, values = [.number spelled] ∧ spelled.value? = some (.integer n)

/-- The members of a payload state the claims, with roles under the given name alone. -/
structure Claims.StatedBy (c : Claims) (rolesClaim : RolesClaim) (members : Members) : Prop where
  subject : membersNamed "sub" members = [.string (some c.subject)]
  issuer : membersNamed "iss" members = [.string (some c.issuer)]
  audience : Addresses (membersNamed "aud" members) c.audience
  issuedAt : IsWhole (membersNamed "iat" members) c.issuedAt.seconds
  expiresAt : IsWhole (membersNamed "exp" members) c.expiresAt.seconds
  whole : c.issuedAt.nanos = 0 ∧ c.expiresAt.nanos = 0
  kind : ∃ value, membersNamed "typ" members = [value] ∧ Names c.kind.name value
  tokenId : Tells (membersNamed "jti" members) (c.tokenId.map fun id => .string (some id.text))
  s2s : Tells (membersNamed "s2s" members) (c.s2s.map .bool)
  roles : Tells (membersNamed rolesClaim.name members).getLast?.toList
    (c.roles.map fun roles => tree (texts (roles.map Role.name)))

theorem Instant.ofSeconds?_eq_some {n : Int} {t : Instant} (read : ofSeconds? n = some t) :
    t.seconds = n ∧ t.nanos = 0 :=
  make?_eq_some read

theorem TokenKind.name_of_ofName? {s : String} {k : TokenKind} (named : ofName? s = some k) :
    k.name = s := by
  unfold ofName? at named
  have same := List.find?_some named
  exact eq_of_beq same

namespace WireClaims

theorem lookup_insertMember_self (name : String) (v : Json) : ∀ ms : List (String × Json),
    (insertMember name v ms).lookup name = some v
  | [] => by rw [insertMember, List.lookup_cons, beq_self_eq_true]
  | m :: ms => by
    rw [insertMember]
    split
    · rw [List.lookup_cons, beq_self_eq_true]
    · split
      · rw [List.lookup_cons, beq_self_eq_true]
      · rename_i other
        rw [List.lookup_cons, Bool.eq_false_iff.mpr other, lookup_insertMember_self name v ms]

theorem lookup_insertMember_other {name other : String} (different : name ≠ other) (v : Json) :
    ∀ ms : List (String × Json), (insertMember other v ms).lookup name = ms.lookup name
  | [] => by rw [insertMember, List.lookup_cons, beq_eq_false_iff_ne.mpr different]
  | m :: ms => by
    rw [insertMember]
    split
    · rw [List.lookup_cons, beq_eq_false_iff_ne.mpr different]
    · split
      · rename_i same
        rw [List.lookup_cons, List.lookup_cons, ← eq_of_beq same,
          beq_eq_false_iff_ne.mpr different]
      · rw [List.lookup_cons, List.lookup_cons, lookup_insertMember_other different v ms]

/-- What is kept under a name that no field has is the value of the last member of that name. -/
theorem lookup_of_readInto {fs : List Field} {name : String} (free : name ∉ fs.map Field.name) :
    ∀ {members : Members} {slots after : Slots fs} {extra extra' : List (String × Json)},
      members.readInto fs keepExtra slots extra = .ok (after, extra') →
        (membersNamed name members = [] ∧ extra'.lookup name = extra.lookup name) ∨
        ∃ value v, (membersNamed name members).getLast? = some value ∧
          value.keep innerDepth = .ok v ∧ extra'.lookup name = some v
  | .closed, _, _, _, _, read => by
    obtain ⟨-, rfl⟩ := Prod.mk.inj (Except.ok.inj read)
    exact Or.inl ⟨rfl, rfl⟩
  | .cut, _, _, _, _, read => nomatch read
  | .cons none _ _, _, _, _, _, read => nomatch read
  | .cons (some other) value more, slots, _, extra, _, read => by
    rw [Members.readInto] at read
    split at read
    · rename_i assigned here
      obtain ⟨_, -, later⟩ := Read.bind_eq_ok.mp read
      have different : other ≠ name := by
        rintro rfl
        exact free (Slots.mem_of_assign here)
      rw [membersNamed_cons_other different]
      exact lookup_of_readInto free later
    · obtain ⟨between, kept, later⟩ := Read.bind_eq_ok.mp read
      obtain ⟨v, keeps, rfl⟩ := Read.map_eq_ok.mp kept
      have inMore := lookup_of_readInto free later
      by_cases same : other = name
      · subst same
        rw [membersNamed_cons_self, List.getLast?_cons]
        right
        -- a later member of the name, if there is one, has replaced this one
        rcases inMore with ⟨none, found⟩ | ⟨last, v', isLast, keeps', found⟩
        · rw [lookup_insertMember_self] at found
          exact ⟨value, v, by rw [none]; rfl, keeps, found⟩
        · exact ⟨last, v', by rw [isLast]; rfl, keeps', found⟩
      · rw [membersNamed_cons_other same]
        rw [lookup_insertMember_other (Ne.symm same)] at inMore
        exact inMore

theorem eq_texts_of_audienceItem : ∀ {items : List Json} {audience : List String},
    items.mapM audienceItem = .ok audience → items = audience.map .string
  | [], _, read => by
    obtain rfl := Except.ok.inj read
    rfl
  | item :: items, _, read => by
    rw [List.mapM_cons] at read
    obtain ⟨s, first, more⟩ := Read.bind_eq_ok.mp read
    obtain ⟨later, rest, same⟩ := Read.bind_eq_ok.mp more
    obtain rfl := Except.ok.inj same
    unfold audienceItem at first
    split at first
    · obtain rfl := Except.ok.inj first
      rw [List.map_cons, eq_texts_of_audienceItem rest]
    · cases first

theorem eq_texts_of_roleOf? : ∀ {items : List Json} {roles : List Role},
    items.mapM roleOf? = some roles → items = (roles.map Role.name).map .string
  | [], _, read => by
    obtain rfl := Option.some.inj read
    rfl
  | item :: items, _, read => by
    rw [List.mapM_cons] at read
    obtain ⟨role, first, more⟩ := Option.bind_eq_some_iff.mp read
    obtain ⟨later, rest, same⟩ := Option.bind_eq_some_iff.mp more
    obtain rfl := Option.some.inj same
    unfold roleOf? at first
    split at first
    · obtain rfl := Option.some.inj first
      rw [List.map_cons, List.map_cons, eq_texts_of_roleOf? rest]
    · cases first

variable {members : Members}

theorem addresses_of_statedBy {audience : List String}
    (stated : audienceField.StatedBy members audience) :
    Addresses (membersNamed "aud" members) audience := by
  rcases stated with ⟨missing, absent⟩ | ⟨value, alone, read⟩
  · obtain rfl := Option.some.inj absent
    rw [show membersNamed "aud" members = [] from missing]
    exact .absent
  · rw [show membersNamed "aud" members = [value] from alone]
    obtain ⟨v, kept, shown⟩ := Read.bind_eq_ok.mp read
    split at shown
    · rename_i s
      obtain rfl := Except.ok.inj shown
      rw [show value = .string (some s) from shows_of_keep kept]
      exact .one s
    · rename_i items
      obtain rfl := eq_texts_of_audienceItem shown
      rw [keep_texts_ok kept]
      exact .list audience
    · cases shown

theorem isWhole_of_statedBy {name : String} {n : Int}
    (stated : (int64Field name).StatedBy members n) : IsWhole (membersNamed name members) n := by
  rcases stated with ⟨-, absent⟩ | ⟨value, alone, read⟩
  · cases absent
  · obtain ⟨spelled, rfl, whole⟩ := readInt64_ok read
    exact ⟨spelled, alone, whole⟩

theorem eq_text_of_statedBy {name s : String} (stated : (textField name).StatedBy members s) :
    membersNamed name members = [.string (some s)] := by
  rcases stated with ⟨-, absent⟩ | ⟨value, alone, read⟩
  · cases absent
  · rw [← readText_ok read]
    exact alone

theorem names_of_statedBy {kind : TokenKind} (stated : kindField.StatedBy members kind) :
    ∃ value, membersNamed "typ" members = [value] ∧ Names kind.name value := by
  rcases stated with ⟨-, absent⟩ | ⟨value, alone, read⟩
  · cases absent
  · obtain ⟨s, named, shape⟩ := readName_ok read
    obtain rfl := TokenKind.name_of_ofName? named
    refine ⟨value, alone, ?_⟩
    rcases shape with rfl | rfl
    · exact .text
    · exact .member

theorem tells_of_statedBy {α : Type} {name : String} {read : Tree → Read α} {write : α → Json}
    {tell : α → Tree} (shown : ∀ {t : Tree} {a : α}, read t = .ok a → t = tell a)
    {o : Option α} (stated : (Field.omittable name read write).StatedBy members o) :
    Tells (membersNamed name members) (o.map tell) := by
  rcases stated with ⟨missing, absent⟩ | ⟨value, alone, reads⟩
  · obtain rfl := Option.some.inj absent
    rw [show membersNamed name members = [] from missing]
    exact .absent
  · rw [show membersNamed name members = [value] from alone]
    rcases readOptional_ok reads with ⟨rfl, rfl⟩ | ⟨a, rfl, here⟩
    · exact .null
    · rw [shown here]
      exact .value _

/-- Roles are those of the last member of their name. -/
theorem tells_of_rolesOf? {values : List Tree} {found : Option Json} {roles : Option (List Role)}
    (meant : rolesOf? found = some roles)
    (last : (values = [] ∧ found = none) ∨ ∃ value v, values.getLast? = some value ∧
      value.keep innerDepth = .ok v ∧ found = some v) :
    Tells values.getLast?.toList
      (roles.map fun roles => tree (texts (roles.map Role.name))) := by
  rcases last with ⟨rfl, rfl⟩ | ⟨value, v, isLast, kept, rfl⟩
  · obtain rfl := Option.some.inj meant
    exact .absent
  · rw [isLast]
    unfold rolesOf? at meant
    split at meant
    · rename_i none
      cases none
    · rename_i null
      obtain rfl := Option.some.inj null
      obtain rfl := Option.some.inj meant
      rw [show value = .null from shows_of_keep kept]
      exact .null
    · rename_i items list
      obtain rfl := Option.some.inj list
      obtain ⟨named, read, rfl⟩ := Option.map_eq_some_iff.mp meant
      obtain rfl := eq_texts_of_roleOf? read
      rw [keep_texts_ok kept]
      exact .value _
    · cases meant

/-- A claim set that is read from a payload is what the payload states. -/
theorem statedBy_of_read {rolesClaim : RolesClaim} {w : WireClaims} {c : Claims}
    (reads : read (.object members) = .ok w) (meant : w.toClaims? rolesClaim = some c) :
    c.StatedBy rolesClaim members := by
  obtain ⟨⟨slots, extra⟩, into, more⟩ := Read.bind_eq_ok.mp reads
  obtain ⟨v, finished, same⟩ := Read.bind_eq_ok.mp more
  obtain rfl := Except.ok.inj same
  obtain ⟨sub, iss, aud, iat, exp, typ, jti, s2s, -⟩ :=
    statedBy_of_finish (filledBy_of_readInto (by decide) into) finished
  obtain ⟨issuedAt, issued, meant⟩ := Option.bind_eq_some_iff.mp meant
  obtain ⟨expiresAt, expires, meant⟩ := Option.bind_eq_some_iff.mp meant
  obtain ⟨roles, found, meant⟩ := Option.bind_eq_some_iff.mp meant
  obtain rfl := Option.some.inj meant
  have issued := Instant.ofSeconds?_eq_some issued
  have expires := Instant.ofSeconds?_eq_some expires
  have free : rolesClaim.name ∉ fields.map Field.name := fun inside =>
    rolesClaim.not_registered (name_mem_registered _ inside)
  exact
    { subject := eq_text_of_statedBy sub
      issuer := eq_text_of_statedBy iss
      audience := addresses_of_statedBy aud
      issuedAt := issued.1 ▸ isWhole_of_statedBy iat
      expiresAt := expires.1 ▸ isWhole_of_statedBy exp
      whole := ⟨issued.2, expires.2⟩
      kind := names_of_statedBy typ
      tokenId := by
        rw [Option.map_map]
        exact tells_of_statedBy readText_ok jti
      s2s := tells_of_statedBy readFlag_ok s2s
      roles := by
        refine tells_of_rolesOf? found ?_
        have last := lookup_of_readInto free into
        rw [List.lookup_nil] at last
        exact last }

end WireClaims

end SessionTokens
