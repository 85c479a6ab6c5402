import Mathlib.Data.List.TakeWhile
import SessionTokens.Api.AdminService

set_option autoImplicit false

namespace SessionTokens

theorem exists_withoutEndSlashes (s : String) : ∃ k,
    s = withoutEndSlashes s ++ String.ofList (List.replicate k '/') := by
  let back := s.toList.reverse
  have slashes : back.takeWhile (· == '/') =
      List.replicate (back.takeWhile (· == '/')).length '/' := by
    refine List.eq_replicate_iff.mpr ⟨rfl, fun c inside => ?_⟩
    have slash := List.mem_takeWhile_imp inside
    exact eq_of_beq slash
  refine ⟨(back.takeWhile (· == '/')).length, String.toList_injective ?_⟩
  rw [String.toList_append, withoutEndSlashes, String.toList_ofList, String.toList_ofList,
    ← List.reverse_replicate, ← slashes, ← List.reverse_append, List.takeWhile_append_dropWhile,
    List.reverse_reverse]

theorem getLast?_withoutEndSlashes (s : String) :
    (withoutEndSlashes s).toList.getLast? ≠ some '/' := by
  intro last
  rw [withoutEndSlashes, String.toList_ofList, List.getLast?_reverse] at last
  have first := List.head?_dropWhile_not (· == '/') s.toList.reverse
  rw [last] at first
  cases first

theorem withoutEndSlashes_of_getLast? {s : String} (ended : s.toList.getLast? ≠ some '/') :
    withoutEndSlashes s = s := by
  have first : s.toList.reverse.dropWhile (· == '/') = s.toList.reverse := by
    rw [List.dropWhile_eq_self_iff]
    intro filled same
    apply ended
    rw [← List.head?_reverse, List.head?_eq_getElem?, List.getElem?_eq_getElem filled]
    exact congrArg some (eq_of_beq same)
  rw [withoutEndSlashes, first, List.reverse_reverse, String.ofList_toList]

theorem AdminConfig.peerUrl_of_load {env : Environment} {admin : AdminConfig}
    (loaded : load env = .ok admin) :
    admin.peerUrl = withoutEndSlashes (env.getD "WARDEN_PEER_URL" "http://localhost:8080") := by
  simp only [load, bind, Except.bind] at loaded
  split at loaded
  · cases loaded
  split at loaded
  · cases loaded
  · cases loaded
    rfl

/-- The client calls the address that is configured, less the slashes at its end. -/
theorem PeerClient.baseUrl_of_load {env : Environment} {admin : AdminConfig}
    (loaded : AdminConfig.load env = .ok admin) : (make admin).baseUrl =
      withoutEndSlashes (env.getD "WARDEN_PEER_URL" "http://localhost:8080") := by
  rw [make, AdminConfig.peerUrl_of_load loaded]
  exact withoutEndSlashes_of_getLast? (getLast?_withoutEndSlashes _)

end SessionTokens
