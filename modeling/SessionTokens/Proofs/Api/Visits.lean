import SessionTokens.Proofs.Api.Enrolling
import SessionTokens.Proofs.Api.Sessions

set_option autoImplicit false

namespace SessionTokens

/-- A request, with the clocks and the random bits that it finds. -/
structure Visit where
  request : Request
  moment : Moment
  supply : Supply

/-- The world as a visit finds it. -/
def Visit.finds (v : Visit) (w : World) : World :=
  { w with moment := v.moment, supply := v.supply }

/-- No user identifier that is drawn from now on is that of an account. -/
def World.IsVacant (w : World) : Prop :=
  ∀ n, w.supply.drawn ≤ n →
    w.directory.find? ⟨Uuid.timed (w.moment.host * 1000).toNat (w.supply.source n)⟩ = none

theorem Directory.eq_of_insert_eq {d d' : Directory} {a b : Account} (one : d.insert a = .ok d')
    (other : d.insert b = .ok d') : a = b := by
  obtain ⟨-, rfl⟩ := (insert_ok_iff d d' a).mp one
  obtain ⟨-, same⟩ := (insert_ok_iff d _ b).mp other
  have last := congrArg (fun e => e.accounts.getLast?) same
  simpa only [List.getLast?_append, List.getLast?_singleton, Option.some_or,
    Option.some.injEq] using last

theorem Directory.not_mem_of_find?_eq_none {d : Directory} {id : UserId}
    (absent : d.find? id = none) {a : Account} (inside : a ∈ d.accounts) : a.id ≠ id := fun same =>
  List.find?_eq_none.mp absent a inside (beq_iff_eq.mpr same)

namespace UserService

variable {s : UserService} {w : World} {v : Visit} {visits : List Visit} {body : SignupRequest}
  {account : Account}

/-- What a visit is answered, and the world that it leaves. -/
def visit (s : UserService) (w : World) (v : Visit) : Option Response × World :=
  (s.handle v.request).run World.answer (v.finds w)

/-- The world that visits leave. -/
def after (s : UserService) (w : World) (visits : List Visit) : World :=
  visits.foldl (fun w v => (s.visit w v).2) w

theorem after_nil (s : UserService) (w : World) : s.after w [] = w := rfl

theorem after_snoc (s : UserService) (w : World) (visits : List Visit) (v : Visit) :
    s.after w (visits ++ [v]) = (s.visit (s.after w visits) v).2 := by
  rw [after, List.foldl_append]
  rfl

theorem after_singleton (s : UserService) (w : World) (v : Visit) :
    s.after w [v] = (s.visit w v).2 := rfl

/-- A visit among others and one more is that one, or is among the others. -/
theorem snoc_eq_append_cons {before later : List Visit} {u : Visit}
    (same : visits ++ [v] = before ++ u :: later) :
    (before = visits ∧ u = v) ∨ ∃ later', visits = before ++ u :: later' := by
  cases later using List.reverseRecOn with
  | nil =>
    obtain ⟨rfl, rfl⟩ := List.append_singleton_inj.mp same
    exact .inl ⟨rfl, rfl⟩
  | append_singleton later x =>
    rw [← List.cons_append, ← List.append_assoc] at same
    exact .inr ⟨later, (List.append_singleton_inj.mp same).1⟩

/-- Where the tokens of a session expire at an instant, they can be made. -/
def MintsWithin (s : UserService) : Prop :=
  ∀ now : Instant, (now.add? s.codec.settings.lifetimes.access).isSome →
    (now.add? s.codec.settings.lifetimes.refresh).isSome → s.CanMint now

/-- The tokens that a visit may be given expire at an instant, and the identifiers that it draws are
new. -/
structure IsRegular (s : UserService) (w : World) (v : Visit) : Prop where
  access : (v.moment.now.add? s.codec.settings.lifetimes.access).isSome
  refresh : (v.moment.now.add? s.codec.settings.lifetimes.refresh).isSome
  unused : (v.finds w).IsUnused
  vacant : (v.finds w).IsVacant

/-- Every one of these visits is regular in the world that it comes to. -/
def AreRegular (s : UserService) (w : World) (visits : List Visit) : Prop :=
  ∀ before v later, visits = before ++ v :: later → s.IsRegular (s.after w before) v

theorem areRegular_nil (s : UserService) (w : World) : s.AreRegular w [] := by
  intro before v later same
  exact absurd same.symm (List.append_ne_nil_of_right_ne_nil before (List.cons_ne_nil v later))

theorem areRegular_snoc_iff : s.AreRegular w (visits ++ [v]) ↔
    s.AreRegular w visits ∧ s.IsRegular (s.after w visits) v := by
  constructor
  · refine fun regular => ⟨?_, regular visits v [] rfl⟩
    rintro before u later rfl
    exact regular before u (later ++ [v]) (by rw [List.append_assoc, List.cons_append])
  · rintro ⟨regular, last⟩ before u later same
    rcases snoc_eq_append_cons same with ⟨rfl, rfl⟩ | ⟨later', rfl⟩
    · exact last
    · exact regular before u later' rfl

theorem areRegular_singleton_iff : s.AreRegular w [v] ↔ s.IsRegular w v := by
  rw [← List.nil_append [v], areRegular_snoc_iff, after_nil]
  exact and_iff_right (areRegular_nil s w)

/-- The visit is a signup that is answered with 201. -/
structure SignsUp (s : UserService) (w : World) (v : Visit) (body : SignupRequest) : Prop where
  posted : v.request.method = "POST"
  found : Endpoint.ofSegments? v.request.segments = some .signup
  read : v.request.readBody SignupRequest.read = .ok body
  status : (s.visit w v).1.map Response.status = some 201

/-- It is one, and this is the account that it stores. -/
structure Creates (s : UserService) (w : World) (v : Visit) (body : SignupRequest)
    (account : Account) : Prop extends SignsUp s w v body where
  stored : w.directory.insert account = .ok (s.visit w v).2.directory

/-- It stores one with the name, and the hash of the password, that were sent. -/
theorem SignsUp.creates (signsUp : s.SignsUp w v body) :
    s.Creates w v body (s.enrollee (v.finds w) body) := by
  obtain ⟨response, answered, status⟩ := Option.map_eq_some_iff.mp signsUp.status
  have runs : (s.handle v.request).run World.answer (v.finds w) =
      (some response, (s.visit w v).2) := Prod.ext answered rfl
  have success := Response.isSuccess_of_created status
  obtain ⟨account, _, opens, -⟩ := opens_of_isSuccess signsUp.found (Or.inl rfl) runs success
  cases opens with
  | signup read new enrolled =>
    rw [signsUp.read] at read
    obtain rfl := Except.ok.inj read
    exact ⟨signsUp, new ▸ enrolled⟩

/-- And no other. -/
theorem Creates.eq_enrollee (creates : s.Creates w v body account) :
    account = s.enrollee (v.finds w) body :=
  Directory.eq_of_insert_eq creates.stored creates.toSignsUp.creates.stored

/-- The directory changes by a signup alone. -/
theorem Deed.signup_of_changed {r : Request} {w' : World} {response : Option Response}
    (deed : Deed s r w response w') (changed : w'.directory ≠ w.directory) :
    r.method = "POST" ∧ r.path = "/auth/signup" := by
  cases deed with
  | signup posted path => exact ⟨posted, path⟩
  | idle resembles => exact absurd resembles.directory changed
  | login _ _ resembles => exact absurd resembles.directory changed
  | refresh _ _ _ _ resembles => exact absurd resembles.directory changed
  | logout _ _ _ _ resembles => exact absurd resembles.directory changed
  | revocation _ _ _ _ _ resembles => exact absurd resembles.directory changed

/-- Where tokens can be made, it changes by a signup that is answered with 201. -/
theorem exists_creates (mints : s.MintsWithin) (regular : s.IsRegular w v)
    (changed : (s.visit w v).2.directory ≠ w.directory) :
    ∃ body account, s.Creates w v body account := by
  have deed := handle_deed s v.request (v.finds w)
  have able : s.CanMint (v.finds w).moment.now := mints _ regular.access regular.refresh
  obtain ⟨-, -, access, -, issued, -, -, -, answered⟩ :=
    (deed.isAllOrNothing able regular.unused).enrolled changed
  obtain ⟨posted, path⟩ := deed.signup_of_changed changed
  have found : Endpoint.ofSegments? v.request.segments = some .signup := by
    rw [Request.segments, path]
    decide
  have success : Response.IsSuccess (.json 201 (s.session access issued.token).toJson) :=
    Response.isSuccess_of_created rfl
  have runs : (s.handle v.request).run World.answer (v.finds w) =
      (some (.json 201 (s.session access issued.token).toJson), (s.visit w v).2) :=
    Prod.ext answered rfl
  obtain ⟨_, _, opens, -⟩ := opens_of_isSuccess found (Or.inl rfl) runs success
  cases opens with
  | signup read _ _ =>
    have signsUp : s.SignsUp w v _ :=
      ⟨posted, found, read, congrArg (Option.map Response.status) answered⟩
    exact ⟨_, _, signsUp.creates⟩

/-- The account of a signup has an identifier of its own, so it takes the place of no other. -/
theorem Creates.mem_iff (creates : s.Creates w v body account) (regular : s.IsRegular w v)
    (a : Account) : a ∈ (s.visit w v).2.directory.accounts ↔
      a ∈ w.directory.accounts ∨ a = account := by
  rw [Directory.mem_insert_iff creates.stored]
  refine or_congr_left (and_iff_left_of_imp fun inside => ?_)
  rw [creates.eq_enrollee]
  exact Directory.not_mem_of_find?_eq_none (regular.vacant _ (Nat.le_succ _)) inside

/-- Some visit is a signup that was answered with 201. -/
def HasSignedUp (s : UserService) (w : World) (visits : List Visit) (body : SignupRequest) : Prop :=
  ∃ before v later, visits = before ++ v :: later ∧ s.SignsUp (s.after w before) v body

/-- Some visit is one, and stored this account. -/
def HasCreated (s : UserService) (w : World) (visits : List Visit) (body : SignupRequest)
    (account : Account) : Prop :=
  ∃ before v later, visits = before ++ v :: later ∧
    s.Creates (s.after w before) v body account

theorem hasSignedUp_iff :
    s.HasSignedUp w visits body ↔ ∃ account, s.HasCreated w visits body account := by
  constructor
  · rintro ⟨before, v, later, same, signsUp⟩
    exact ⟨_, before, v, later, same, signsUp.creates⟩
  · rintro ⟨account, before, v, later, same, creates⟩
    exact ⟨before, v, later, same, creates.toSignsUp⟩

theorem not_hasCreated_nil : ¬ s.HasCreated w [] body account := by
  rintro ⟨before, v, later, same, -⟩
  exact List.append_ne_nil_of_right_ne_nil before (List.cons_ne_nil v later) same.symm

theorem hasCreated_snoc_iff : s.HasCreated w (visits ++ [v]) body account ↔
    s.HasCreated w visits body account ∨ s.Creates (s.after w visits) v body account := by
  constructor
  · rintro ⟨before, u, later, same, creates⟩
    rcases snoc_eq_append_cons same with ⟨rfl, rfl⟩ | ⟨later', rfl⟩
    · exact .inr creates
    · exact .inl ⟨before, u, later', rfl, creates⟩
  · rintro (⟨before, u, later, rfl, creates⟩ | creates)
    · exact ⟨before, u, later ++ [v], by rw [List.append_assoc, List.cons_append], creates⟩
    · exact ⟨visits, v, [], rfl, creates⟩

theorem hasCreated_singleton_iff :
    s.HasCreated w [v] body account ↔ s.Creates w v body account := by
  rw [← List.nil_append [v], hasCreated_snoc_iff, after_nil]
  exact or_iff_right not_hasCreated_nil

/-- The accounts of the directory are those that signups have created. -/
theorem mem_after_iff (mints : s.MintsWithin) (empty : w.directory = .empty)
    (regular : s.AreRegular w visits) (a : Account) :
    a ∈ (s.after w visits).directory.accounts ↔ ∃ body, s.HasCreated w visits body a := by
  induction visits using List.reverseRecOn with
  | nil =>
    constructor
    · intro inside
      rw [after_nil, empty] at inside
      cases inside
    · exact fun ⟨_, created⟩ => absurd created not_hasCreated_nil
  | append_singleton visits v ih =>
    obtain ⟨init, last⟩ := areRegular_snoc_iff.mp regular
    simp only [hasCreated_snoc_iff, exists_or, ← ih init, after_snoc]
    by_cases changed : (s.visit (s.after w visits) v).2.directory = (s.after w visits).directory
    · rw [changed]
      refine ⟨.inl, ?_⟩
      rintro (inside | ⟨body, creates⟩)
      · exact inside
      · rw [← changed]
        exact (creates.mem_iff last a).mpr (.inr rfl)
    · obtain ⟨body, account, creates⟩ := exists_creates mints last changed
      rw [creates.mem_iff last]
      refine or_congr_right ⟨?_, ?_⟩
      · rintro rfl
        exact ⟨body, creates⟩
      · rintro ⟨_, other⟩
        exact Directory.eq_of_insert_eq other.stored creates.stored

theorem isDistinct_after (empty : w.directory = .empty) (visits : List Visit) :
    (s.after w visits).directory.IsDistinct := by
  suffices built : (s.after w visits).directory.IsBuiltOf fun _ => True from built.isDistinct
  induction visits using List.reverseRecOn with
  | nil =>
    rw [after_nil, empty]
    exact .empty
  | append_singleton visits v ih =>
    rw [after_snoc]
    exact (enrolls_handle (fun _ _ => trivial) s v.request).isBuiltOf ih

end UserService

end SessionTokens
