import SessionTokens.Api.Body
import SessionTokens.Claims.Principal
import SessionTokens.Ledger.Record
import SessionTokens.Proofs.Id.Uuid
import SessionTokens.Proofs.Json.Record
import SessionTokens.Proofs.Time.Rfc3339

set_option autoImplicit false

namespace SessionTokens

namespace Json

theorem returns_flag (name : String) (b : Bool) : (flagField name).Returns b :=
  ⟨.bool b, rfl⟩

theorem returns_nullableText (name : String) (s : Option String) :
    (nullableTextField name).Returns s := by
  cases s with
  | none => exact ⟨.null, rfl⟩
  | some s => exact ⟨.string s, rfl⟩

theorem readList_texts (l : List String) : Tree.readList Tree.readText (tree (texts l)) = .ok l := by
  rw [texts, tree, Tree.readList]
  induction l with
  | nil => rfl
  | cons s l ih =>
    rw [List.map_cons, treeItems, Items.read, ih]
    rfl

theorem returns_texts (name : String) (l : List String) : (textsField name).Returns l :=
  ⟨isPlain_texts l, readList_texts l⟩

/-- A value that is written as a text reads back when the rule takes the text for it. -/
theorem returns_readBy {α : Type} (name : String) {rule : String → Option α} {write : α → String}
    {a : α} (taken : rule (write a) = some a) :
    (Field.required name (Tree.readBy rule) fun a => .string (write a)).Returns a := by
  refine ⟨.string (write a), ?_⟩
  change ((rule (write a)).elim (.error .mistyped) .ok : Read α) = .ok a
  rw [taken]
  rfl

theorem returns_uuid (name : String) (u : Uuid) : (uuidField name).Returns u := by
  have taken : (Uuid.read u.toText.toList).toOption = some u := by
    rw [Uuid.toText, String.toList_ofList, Uuid.read_toList]
    rfl
  exact returns_readBy name taken

theorem returns_instant (name : String) {t : Instant} (ordinary : t.nanos < 1000000000) :
    (instantField name).Returns t := by
  have taken : Rfc3339.read? (String.ofList (Rfc3339.write t)).toList = some t := by
    rw [String.toList_ofList]
    exact Rfc3339.read?_write ordinary
  exact returns_readBy name taken

theorem readNat64_ofNat {n : Nat} (bound : n < 2 ^ 64) : readNat64 (tree (ofNat n)) = .ok n := by
  have whole : (tree (ofNat n)).readInteger 0 18446744073709551615 = .ok (n : Int) := by
    rw [ofNat, tree, Tree.readInteger, value?_spelling (by omega) (by omega)]
    exact if_pos ⟨by omega, by omega⟩
  rw [readNat64, whole]
  rfl

theorem returns_trailingNat64 (name : String) {n : Option Nat} (bound : ∀ k ∈ n, k < 2 ^ 64) :
    (Field.trailing name readNat64 ofNat).Returns n := by
  cases n with
  | none => rfl
  | some n => exact ⟨.integer n, congrArg (Except.map some) (readNat64_ofNat (bound n rfl))⟩

/-- A record is written as an object and read back from its text. -/
theorem readChars_members {α : Type} {fs : List Field} (make : Values fs → α) (v : Values fs)
    (distinct : (fs.map Field.name).Nodup) (returns : v.Return) :
    readChars (fun t => (t.readRecord fs).map make) (Json.object (v.members fs)).write =
      .ok (make v) := by
  rw [readChars, scan_write (.object (isPlain_of_mem_members fs v returns)), Document.read,
    readRecord_members v distinct returns]
  rfl

end Json

open Json

namespace Record

theorem readChars_write {r : Record} (created : r.createdAt.nanos < 1000000000)
    (expires : r.expiresAt.nanos < 1000000000) : readChars read r.toJson.write = .ok r := by
  have returns : Values.Return fields r.values :=
    ⟨returns_uuid _ _, returns_uuid _ _, returns_text _ _, returns_instant _ expires,
      returns_flag _ _, returns_instant _ created, returns_nullableText _ _, trivial⟩
  have readBack := readChars_members ofValues r.values (by decide) returns
  rwa [ofValues_values] at readBack

end Record

namespace UserSummary

theorem readChars_write {s : UserSummary} (created : s.createdAt.nanos < 1000000000)
    (sessions : ∀ n ∈ s.activeSessions, n < 2 ^ 64) : readChars read s.toJson.write = .ok s := by
  have returns : Values.Return fields s.values :=
    ⟨returns_text _ _, returns_text _ _, returns_text _ _, returns_texts _ _, returns_flag _ _,
      returns_instant _ created, returns_trailingNat64 _ sessions, trivial⟩
  exact readChars_members ofValues s.values (by decide) returns

end UserSummary

namespace TokenResponse

theorem readChars_write {r : TokenResponse} (least : -2 ^ 63 ≤ r.expiresIn)
    (greatest : r.expiresIn < 2 ^ 63) : readChars read r.toJson.write = .ok r := by
  have returns : Values.Return fields r.values :=
    ⟨returns_text _ _, returns_nullableText _ _, returns_text _ _,
      returns_int64 _ (by omega) (by omega), trivial⟩
  exact readChars_members ofValues r.values (by decide) returns

end TokenResponse

namespace Principal

theorem ofValues_values (p : Principal) : ofValues p.values = p := by
  have roles : (p.roles.map Role.name).map Role.mk = p.roles := by
    rw [List.map_map]
    exact List.map_id p.roles
  rw [values, ofValues, roles]

theorem readChars_write (p : Principal) : readChars read p.toJson.write = .ok p := by
  have returns : Values.Return fields p.values := ⟨returns_text _ _, returns_texts _ _, trivial⟩
  have readBack := readChars_members ofValues p.values (by decide) returns
  rwa [ofValues_values] at readBack

end Principal

/-- What is stored and exchanged reads back from its text: any texts and identifiers, members that
are present or not, and any instant that is no leap second. -/
theorem records_read_back :
    (∀ r : Record, r.createdAt.nanos < 1000000000 → r.expiresAt.nanos < 1000000000 →
      readChars Record.read r.toJson.write = .ok r) ∧
    (∀ s : UserSummary, s.createdAt.nanos < 1000000000 → (∀ n ∈ s.activeSessions, n < 2 ^ 64) →
      readChars UserSummary.read s.toJson.write = .ok s) ∧
    (∀ r : TokenResponse, -2 ^ 63 ≤ r.expiresIn → r.expiresIn < 2 ^ 63 →
      readChars TokenResponse.read r.toJson.write = .ok r) ∧
    ∀ p : Principal, readChars Principal.read p.toJson.write = .ok p :=
  ⟨fun _ created expires => Record.readChars_write created expires,
    fun _ created sessions => UserSummary.readChars_write created sessions,
    fun _ least greatest => TokenResponse.readChars_write least greatest,
    Principal.readChars_write⟩

namespace Sample

/-- The last instant there is. -/
def lastInstant : Instant :=
  ⟨8210266876799, 999999999, by decide, by decide, by decide⟩

/-- An instant of the year -1, with whole milliseconds. -/
def earlyInstant : Instant :=
  ⟨-62183203200, 120000000, by decide, by decide, by decide⟩

/-- A superseded record whose token has a quote, a backslash, a line feed and a character outside
the first plane. -/
def earlyRecord : Record :=
  ⟨⟨⟨7⟩⟩, ⟨⟨0x80000000000000000000000000000000⟩⟩, ⟨"\"é\\\n𝄞"⟩, lastInstant, true, earlyInstant,
    some ⟨""⟩⟩

/-- A summary without roles and without a count of sessions. -/
def earlySummary : UserSummary :=
  ⟨"", "\x00", "a@b", [], false, earlyInstant, none⟩

/-- A response without a refresh token, whose access token ended long ago. -/
def spentResponse : TokenResponse :=
  ⟨"a.b.c", none, "Bearer", -2 ^ 63⟩

theorem early_records_read_back :
    earlyRecord.toJson.write =
      ("\x7b\"record_id\":\"00000000-0000-0000-0000-000000000007\"," ++
        "\"user_id\":\"80000000-0000-0000-0000-000000000000\",\"jti\":\"\\\"é\\\\\\n𝄞\"," ++
        "\"expires_at\":\"+262142-12-31T23:59:59.999999999Z\",\"revoked\":true," ++
        "\"created_at\":\"-0001-06-30T00:00:00.120Z\",\"replaced_by\":\"\"\x7d").toList ∧
      readChars Record.read earlyRecord.toJson.write = .ok earlyRecord ∧
      readChars UserSummary.read earlySummary.toJson.write = .ok earlySummary ∧
      readChars TokenResponse.read spentResponse.toJson.write = .ok spentResponse := by
  obtain ⟨record, summary, response, -⟩ := records_read_back
  exact ⟨by decide +kernel, record _ (by decide) (by decide), summary _ (by decide) (by decide),
    response _ (by decide) (by decide)⟩

end Sample

end SessionTokens
