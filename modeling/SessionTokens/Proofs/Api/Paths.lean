import SessionTokens.Api.UserService
import SessionTokens.Proofs.Text.Split

set_option autoImplicit false

namespace SessionTokens

open Text

/-- The path of a request is its segments with slashes between them. -/
theorem Request.intercalate_segments (r : Request) : "/".intercalate r.segments = r.path := by
  have parts : r.segments.map String.toList = split '/' r.path.toList := by
    rw [segments, List.map_map]
    refine (List.map_congr_left fun part _ => ?_).trans (List.map_id _)
    exact String.toList_ofList
  apply String.toList_injective
  rw [String.toList_intercalate, parts]
  exact intercalate_split '/' r.path.toList

theorem Text.startsWith_trans {a b c : String} (first : startsWith a b = true)
    (second : startsWith b c = true) : startsWith a c = true := by
  rw [startsWith, List.isPrefixOf_iff_prefix] at *
  exact first.trans second

namespace UserService

/-- The path of an endpoint. -/
def Endpoint.path : Endpoint → String
  | .health => "/health"
  | .signup => "/auth/signup"
  | .login => "/auth/login"
  | .refresh => "/auth/refresh"
  | .logout => "/auth/logout"
  | .me => "/users/me"
  | .account id => "/internal/users/" ++ id
  | .revokeSessions id => "/internal/users/" ++ id ++ "/revoke-sessions"

/-- The endpoints that other services call. -/
def Endpoint.isInternal : Endpoint → Bool
  | .account _ => true
  | .revokeSessions _ => true
  | _ => false

theorem Endpoint.intercalate_account (id : String) :
    "/".intercalate ["", "internal", "users", id] = "/internal/users/" ++ id := by
  apply String.toList_injective
  rw [String.toList_intercalate, String.toList_append]
  change "/internal/users/".toList ++ (id.toList ++ []) = _
  rw [List.append_nil]

theorem Endpoint.intercalate_revokeSessions (id : String) :
    "/".intercalate ["", "internal", "users", id, "revoke-sessions"] =
      "/internal/users/" ++ id ++ "/revoke-sessions" := by
  apply String.toList_injective
  rw [String.toList_intercalate, String.toList_append, String.toList_append,
    List.append_assoc]
  rfl

theorem Endpoint.intercalate_eq_path {segments : List String} {e : Endpoint}
    (found : ofSegments? segments = some e) : "/".intercalate segments = e.path := by
  unfold ofSegments? at found
  split at found
  case h_7 =>
    split at found <;> cases found
    exact intercalate_account _
  case h_8 =>
    split at found <;> cases found
    exact intercalate_revokeSessions _
  case h_9 => cases found
  all_goals
    cases found
    decide

/-- The path that leads to an endpoint is its own. -/
theorem Endpoint.path_of_segments {r : Request} {e : Endpoint}
    (found : ofSegments? r.segments = some e) : r.path = e.path := by
  rw [← r.intercalate_segments]
  exact intercalate_eq_path found

theorem Endpoint.startsWith_users_path {e : Endpoint} (internal : e.isInternal = true) :
    startsWith "/internal/users/" e.path = true := by
  rw [startsWith, List.isPrefixOf_iff_prefix]
  cases e with
  | account id => exact ⟨id.toList, (String.toList_append (s := "/internal/users/")).symm⟩
  | revokeSessions id =>
    refine ⟨id.toList ++ "/revoke-sessions".toList, ?_⟩
    change _ = ("/internal/users/" ++ id ++ "/revoke-sessions").toList
    rw [String.toList_append, String.toList_append, List.append_assoc]
  | _ => cases internal

theorem Endpoint.startsWith_path {e : Endpoint} (internal : e.isInternal = true) :
    startsWith "/internal/" e.path = true :=
  startsWith_trans (by decide) (startsWith_users_path internal)

end UserService

/-- Everything under `/internal/` is for services alone. -/
def Gate.CoversInternal (g : Gate) : Prop :=
  ∃ start ∈ g.internalPrefixes, startsWith start "/internal/" = true

theorem Gate.CoversInternal.isInternal {g : Gate} (covers : g.CoversInternal) {r : Request}
    {e : UserService.Endpoint} (found : UserService.Endpoint.ofSegments? r.segments = some e)
    (internal : e.isInternal = true) : g.isInternal r.path = true := by
  obtain ⟨start, listed, under⟩ := covers
  rw [UserService.Endpoint.path_of_segments found]
  exact List.any_eq_true.mpr
    ⟨start, listed, startsWith_trans under (UserService.Endpoint.startsWith_path internal)⟩

end SessionTokens
