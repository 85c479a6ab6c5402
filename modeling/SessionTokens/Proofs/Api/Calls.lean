import Mathlib.Data.List.TakeWhile
import SessionTokens.Proofs.Api.Handlers
import SessionTokens.Proofs.Api.Internal
import SessionTokens.Proofs.Json.Record
import SessionTokens.World.Neighbour

set_option autoImplicit false

namespace SessionTokens

open Text

/-- A character that stands for itself in a path, and does not end a part of it. -/
def Text.IsPathWord (c : Char) : Prop :=
  c ≠ '/' ∧ c ≠ '%' ∧ Request.isPathChar c = true

instance (c : Char) : Decidable (Text.IsPathWord c) :=
  inferInstanceAs (Decidable (_ ∧ _))

theorem UserId.isPathWord_of_mem {id : UserId} {c : Char} (inside : c ∈ id.toText.toList) :
    IsPathWord c := by
  have digit : ∀ n < 16, IsPathWord (Nat.digitChar n) := by
    decide
  rw [toText, Uuid.toText, String.toList_ofList] at inside
  obtain rfl | ⟨n, bound, rfl⟩ := Uuid.mem_toList inside
  · decide
  · exact digit n bound

theorem Text.Utf8.decode?_encode (s : List Char) : decode? (encode s) = some s := by
  rw [decode?, units_encode]
  induction s with
  | nil => rfl
  | cons c rest ih =>
    rw [List.map_cons, List.mapM_cons, ih]
    rfl

theorem Text.Percent.decode_of_not_mem {s : List Char} (plain : '%' ∉ s) :
    decode s = Utf8.encode s := by
  induction s with
  | nil => rfl
  | cons c rest ih =>
    rw [List.mem_cons, not_or] at plain
    have other : ∀ x y more, c = '%' → rest = x :: y :: more → False :=
      fun _ _ _ same _ => plain.1 same.symm
    rw [decode, ih plain.2, Utf8.encode, Utf8.encode, List.flatMap_cons]
    exact other

theorem Text.Percent.decodeText?_of_not_mem {s : List Char} (plain : '%' ∉ s) :
    decodeText? s = some (String.ofList s) := by
  rw [decodeText?, decode_of_not_mem plain, Utf8.decode?_encode]
  rfl

theorem UserId.decodeText?_toText (id : UserId) :
    Percent.decodeText? id.toText.toList = some id.toText := by
  have plain : '%' ∉ id.toText.toList := fun inside => (isPathWord_of_mem inside).2.1 rfl
  rw [Percent.decodeText?_of_not_mem plain, String.ofList_toList]

namespace Neighbour

variable {n : Neighbour} {w : World}

/-- A call as it arrives. -/
def arrival (method path token : String) : Request :=
  ⟨method, path, [⟨"authorization", Request.bearing token⟩], []⟩

theorem request?_eq (n : Neighbour) (method path token : String) :
    n.request? ⟨method, n.baseUrl ++ path, token⟩ = some (arrival method path token) := by
  have under : startsWith n.baseUrl (n.baseUrl ++ path) = true := by
    rw [startsWith, List.isPrefixOf_iff_prefix, String.toList_append]
    exact List.prefix_append _ _
  have target : String.ofList ((n.baseUrl ++ path).toList.drop n.baseUrl.length) = path := by
    rw [String.toList_append, ← String.length_toList, List.drop_left, String.ofList_toList]
  rw [request?, if_pos under, target]
  rfl

/-- What a codec signs is shown by the call that it goes with. -/
theorem shows_arrival {codec : Codec} {claims : Claims} {token : String}
    (encoded : codec.encode claims = .ok token) (method path : String) :
    (arrival method path token).Shows (.bearer token) := by
  refine Request.shows_of_encode encoded ?_
  have named : Request.sameName "authorization" "authorization" = true := by decide
  rw [Request.header?, arrival, List.find?_cons_of_pos (by exact named), Option.map_some]

/-- A path of plain parts arrives in these parts. -/
theorem segments_arrival (method token : String) {parts : List String} (filled : parts ≠ [])
    (plain : ∀ part ∈ parts, ∀ c ∈ part.toList, c ≠ '/' ∧ Request.isPathChar c = true) :
    (arrival method ("/".intercalate parts) token).segments = parts := by
  have whole : ∀ c ∈ ("/".intercalate parts).toList, Request.isPathChar c = true := by
    intro c inside
    rw [String.toList_intercalate] at inside
    rcases mem_intercalate inside with rfl | ⟨part, member, inside⟩
    · decide
    · obtain ⟨text, named, rfl⟩ := List.mem_map.mp member
      exact (plain text named c inside).2
  have clean : ∀ part ∈ parts.map String.toList, '/' ∉ part := by
    intro part member inside
    obtain ⟨text, named, rfl⟩ := List.mem_map.mp member
    exact (plain text named _ inside).1 rfl
  have path : (arrival method ("/".intercalate parts) token).path.toList =
      ['/'].intercalate (parts.map String.toList) := by
    rw [Request.path, String.toList_ofList]
    exact (List.takeWhile_eq_self_iff.mpr whole).trans String.toList_intercalate
  rw [Request.segments, path, split_intercalate (mt List.map_eq_nil_iff.mp filled) clean,
    List.map_map]
  refine (List.map_congr_left fun part _ => ?_).trans (List.map_id _)
  exact String.ofList_toList

/-- The user service sees its own endpoint in the path of a call about a user. -/
theorem ofSegments?_arrival {e : UserService.Endpoint} {user : UserId}
    (named : e = .account user.toText ∨ e = .revokeSessions user.toText) (method token : String) :
    UserService.Endpoint.ofSegments? (arrival method e.path token).segments = some e := by
  have filled : user.toText ≠ "" := fun empty => by
    have read := user.read?_toText
    rw [empty] at read
    cases read
  have word : ∀ c ∈ user.toText.toList, c ≠ '/' ∧ Request.isPathChar c = true := fun c inside =>
    ⟨(UserId.isPathWord_of_mem inside).1, (UserId.isPathWord_of_mem inside).2.2⟩
  -- The statement over a word is decided as its check, which does not go through all characters.
  have fixed (text : String)
      (checked : (text.toList.all fun c => c != '/' && Request.isPathChar c) = true) :
      ∀ c ∈ text.toList, c ≠ '/' ∧ Request.isPathChar c = true := by
    intro c inside
    have holds := List.all_eq_true.mp checked c inside
    rw [Bool.and_eq_true, bne_iff_ne] at holds
    exact holds
  have shared : ∀ part ∈ ["", "internal", "users", user.toText], ∀ c ∈ part.toList,
      c ≠ '/' ∧ Request.isPathChar c = true := by
    simp only [List.forall_mem_cons]
    exact ⟨fixed "" (by decide), fixed "internal" (by decide), fixed "users" (by decide), word,
      fun _ none => nomatch none⟩
  rcases named with rfl | rfl
  · have arrived := segments_arrival method token (List.cons_ne_nil _ _) shared
    rw [UserService.Endpoint.intercalate_account] at arrived
    exact (congrArg UserService.Endpoint.ofSegments? arrived).trans (if_neg filled)
  · have plain : ∀ part ∈ ["", "internal", "users", user.toText, "revoke-sessions"],
        ∀ c ∈ part.toList, c ≠ '/' ∧ Request.isPathChar c = true :=
      (@List.forall_mem_append _ _ ["", "internal", "users", user.toText] _).mpr
        ⟨shared, List.forall_mem_singleton.mpr (fixed "revoke-sessions" (by decide))⟩
    have arrived := segments_arrival method token (List.cons_ne_nil _ _) plain
    rw [UserService.Endpoint.intercalate_revokeSessions] at arrived
    exact (congrArg UserService.Endpoint.ofSegments? arrived).trans (if_neg filled)

/-- Clocks are read as they are without a neighbour, and reading them changes nothing. -/
theorem world_eq_of_readsClocks {w' : World} (read : ReadsClocks n.answer w w') : w' = w := by
  induction read with
  | refl w => rfl
  | read later ih => exact ih

theorem readFrom_eq (n : Neighbour) (codec : Codec) (w : World) (token : String) :
    codec.readFrom n.answer w token = codec.decode w.moment.host w.moment.now token :=
  codec.decodeUntil_self w.moment token

end Neighbour

namespace PeerClient

open Neighbour

variable {c : PeerClient} {codec : Codec} {w : World}

/-- A call is the making of a token and the handling of a request that shows it. -/
theorem run_send (users : UserService) (method path : String) {token : String} {claims : Claims}
    (minted : codec.mintS2s w.moment.now [c.audience] = .ok (token, claims)) :
    (c.send codec method path).run.run (answer ⟨users, c.baseUrl⟩) w =
      let (response, w') := (users.handle (arrival method path token)).run World.answer w
      ((resultOf (reply response)).mapError .refused, w') := by
  rw [send, Action.run_bind, Action.run_perform]
  simp only [answer, World.answer]
  rw [Action.run_bind, Action.run_mapCause, Action.run_ofChecked, minted]
  simp only [mapError_ok]
  rw [Action.run_bind, Action.run_perform]
  simp only [answer, request?_eq ⟨users, c.baseUrl⟩]
  rw [Action.run_ofExcept]

theorem run_send_of_error (n : Neighbour) (method path : String) {e : TokenError}
    (fails : codec.mintS2s w.moment.now [c.audience] = .error (.refused e)) :
    (c.send codec method path).run.run n.answer w = (.error (.refused (.token e)), w) := by
  rw [send, Action.run_bind, Action.run_perform]
  simp only [answer, World.answer]
  rw [Action.run_bind, Action.run_mapCause, Action.run_ofChecked, fails]
  rfl

/-- A value that is sent is kept as it is, if it is read as it is. -/
theorem resultOf_sent {status : Nat} (success : Status.isSuccess status = true) {v : Json}
    (plain : v.IsPlain) (kept : (Json.tree v).keep Json.depthLimit = .ok v) :
    resultOf (reply (some (.json status v))) = .ok v := by
  have found : ¬ status = 404 := by
    rintro rfl
    exact absurd success (by decide)
  have read : (Json.Document.scan (Utf8.units (Utf8.encode v.write))).read
      (Json.Tree.keep Json.depthLimit) = .ok v := by
    rw [Utf8.units_encode, Json.scan_write plain, Json.Document.read, kept]
    rfl
  change resultOf (.answered status (Utf8.encode v.write)) = _
  rw [resultOf, if_neg found, success, read]
  rfl

/-- The number of a revocation comes back as it was sent. -/
theorem resultOf_revoked {k : Nat} (small : k < 2 ^ 64) :
    resultOf (reply (some (.json 200 (RevokeResponse.mk k).toJson))) =
      .ok (RevokeResponse.mk k).toJson := by
  have plain : (RevokeResponse.mk k).toJson.IsPlain := by
    refine .object fun member inside => ?_
    rw [List.mem_singleton.mp inside]
    exact .integer k
  refine resultOf_sent (by decide) plain ?_
  have value := Json.value?_spelling (n := k) (by omega) (by omega)
  change ((Json.treeMembers [("revoked", .number (.integer k))]).keep 126 []).map Json.object = _
  rw [Json.treeMembers, Json.treeMembers, Json.tree, Json.Members.keep, Json.Tree.keep, value]
  rfl

/-- What is no success, and not that there is no such user, fails with its status. -/
theorem resultOf_failed {a : Response} (least : 300 ≤ a.status) (other : a.status ≠ 404) :
    ∃ body, resultOf (reply (some a)) = .error (.answered a.status body) := by
  have unsuccessful : (!Status.isSuccess a.status) = true := by
    rw [Status.isSuccess, Bool.not_eq_true', Bool.and_eq_false_iff, decide_eq_false_iff_not,
      decide_eq_false_iff_not]
    omega
  refine ⟨_, (if_neg other).trans (if_pos unsuccessful)⟩

end PeerClient

end SessionTokens
