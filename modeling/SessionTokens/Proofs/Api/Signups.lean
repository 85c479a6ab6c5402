import SessionTokens.Proofs.Api.Enrolling
import SessionTokens.Proofs.Api.Sessions
import SessionTokens.Proofs.Directory.Names
import SessionTokens.Proofs.Traffic.Threads

set_option autoImplicit false

/- Signups at once. A signup looks for nothing before it hashes the password; what keeps two of them
apart is that the account is stored in one step, which fails if its name is taken. So of all signups
for one name only the first to store its account can be answered with success, in whatever order
their steps come, until an account from outside takes the place of the one with the name. -/
namespace SessionTokens

/-- A program that stores nothing before an account of a name, ends with a refusal if that fails and
stores no account after it. It is not answered with 201 unless it has stored the account. -/
inductive Program.Enlists (username : String) : Program (Option Response) → Prop
  | done {response : Option Response} (other : ∀ a, response = some a → a.status ≠ 201) :
      Enlists username (.done response)
  | quiet {e : Effect} {next : e.Answer → Program (Option Response)} (quiet : e.IsQuiet)
      (later : ∀ answer, Enlists username (next answer)) : Enlists username (.perform e next)
  | insert {a : Account} {next : Except DirectoryError Unit → Program (Option Response)}
      (named : a.username = username)
      (failed : ∀ e, next (.error e) = .done (some (ApiError.ofDirectory e).response))
      (stored : (next (.ok ())).Uses (Effect.Enrolls fun _ => False)) :
      Enlists username (.perform (.directory (.insert a)) next)

namespace Program.Enlists

variable {username : String} {p : Program (Option Response)} {w : World}

/-- One step stores the account, or it changes neither store and the program goes on as before. -/
theorem step (enlists : p.Enlists username) (w : World) :
    ((p.step World.answer w).1.Enlists username ∧
      (p.step World.answer w).2.ledger = w.ledger ∧
      (p.step World.answer w).2.directory = w.directory) ∨
    (¬ w.directory.HasName username ∧ (p.step World.answer w).2.directory.HasName username ∧
      (p.step World.answer w).1.Uses (Effect.Enrolls fun _ => False)) := by
  cases enlists with
  | done other => exact Or.inl ⟨.done other, rfl, rfl⟩
  | quiet quiet later =>
    have same := World.resembles_answer quiet w
    exact Or.inl ⟨later _, same.ledger, same.directory⟩
  | @insert a next named failed stored =>
    have stepped : (Program.perform (.directory (.insert a)) next).step World.answer w =
        (next (commit w.directory (w.directory.insert a)).1,
          { w with directory := (commit w.directory (w.directory.insert a)).2 }) := rfl
    rw [stepped]
    rcases w.directory.insert_ok_or_taken a with ⟨d, inserted⟩ | taken
    · right
      rw [inserted]
      refine ⟨fun has => ?_, named ▸ Directory.hasName_of_insert inserted, stored⟩
      rw [Directory.insert_of_hasName (named ▸ has)] at inserted
      cases inserted
    · left
      rw [taken]
      refine ⟨?_, rfl, rfl⟩
      dsimp only [commit]
      rw [failed]
      apply Enlists.done
      intro response same
      rw [← Option.some.inj same]
      change ApiError.usernameTaken.status ≠ 201
      decide

theorem not_created {a : Response} (created : a.status = 201) :
    ¬ (Program.done (some a)).Enlists username := by
  intro enlists
  cases enlists with
  | done other => exact other a rfl created

/-- Before its account is stored, a program that is about to store one stores the account of the
name. -/
theorem of_insert {a : Account} {next : Except DirectoryError Unit → Program (Option Response)}
    (enlists : (Program.perform (.directory (.insert a)) next).Enlists username) :
    a.username = username ∧
      ∀ e, next (.error e) = .done (some (ApiError.ofDirectory e).response) := by
  cases enlists with
  | quiet quiet later => exact quiet.elim
  | insert named failed stored => exact ⟨named, failed⟩

theorem of_uses_bind {α : Type} {p : Program α} {f : α → Program (Option Response)}
    (quiet : p.Uses Effect.IsQuiet) (later : ∀ a, (f a).Enlists username) :
    (p.bind f).Enlists username := by
  induction p with
  | done a => exact later a
  | perform e next ih => exact .quiet quiet.1 fun answer => ih answer (quiet.2 answer)

end Program.Enlists

namespace Action

variable {ε α : Type} {username : String}

/-- The program that an action with an answer is. -/
def answered (a : Action ApiError Response) : Program (Option Response) :=
  a.run.bind fun result => .done (Routing.answer false result)

theorem enlists_fault (fault : Fault ApiError) :
    (Program.done (Routing.answer false (.error fault))).Enlists username := by
  apply Program.Enlists.done
  rintro a answered created
  cases fault with
  | overflow => cases answered
  | refused e =>
    have refused := e.least_status
    obtain rfl := Option.some.inj answered
    have same : e.status = 201 := created
    omega

/-- What comes first writes nothing, and if it fails it is refused. -/
theorem enlists_bind {a : Action ApiError α} {f : α → Action ApiError Response}
    (quiet : Uses Effect.IsQuiet a) (later : ∀ x, (answered (f x)).Enlists username) :
    (answered (a >>= f)).Enlists username := by
  change ((a.run.bind _).bind _).Enlists username
  rw [Program.bind_assoc]
  refine .of_uses_bind quiet fun result => ?_
  cases result with
  | ok x => exact later x
  | error fault => exact enlists_fault fault

end Action

namespace UserService

open Text

variable {s : UserService} {r : SessionTokens.Request} {username : String}

/-- The request is a signup that can be read, for a name between blanks. -/
structure AsksFor (r : SessionTokens.Request) (username : String) : Prop where
  posted : r.method = "POST"
  found : Endpoint.ofSegments? r.segments = some .signup
  read : ∃ body, r.readBody SignupRequest.read = .ok body ∧ trimmed body.username = username

theorem enlists_createAccount (s : UserService) (body : SignupRequest) (passwordHash : String) :
    (Action.answered (createAccount body passwordHash >>= fun account =>
      s.startSession account >>= fun session => pure (.json 201 session.toJson))).Enlists
        (trimmed body.username) := by
  refine .quiet trivial fun moment => .quiet trivial fun id => ?_
  refine .insert rfl (fun e => rfl) ?_
  refine Program.Uses.bind ?_ fun result => trivial
  exact Action.uses_bind (enrolls_startSession s _) fun session => Action.uses_pure _

theorem enlists_signup (s : UserService) (body : SignupRequest) :
    (Action.answered (s.signup body)).Enlists (trimmed body.username) := by
  refine Action.enlists_bind (Action.uses_ofExcept _) fun _ => ?_
  refine Action.enlists_bind (quiet_hashPassword s _) fun passwordHash => ?_
  exact enlists_createAccount s body passwordHash

/-- Up to the handler a request reads the clocks, so all of a signup enlists its name. -/
theorem enlists_handle (s : UserService) (asks : AsksFor r username) :
    (s.handle r).Enlists username := by
  obtain ⟨posted, found, body, read, rfl⟩ := asks
  have clocks {α : Type} {a : Action ApiError α} (reads : Action.Uses Effect.IsMoment a) :
      Action.Uses Effect.IsQuiet a :=
    Program.Uses.imp reads fun e moment => moment ▸ trivial
  rw [handle, Routing.handle, dropsBody_of_posted posted]
  refine Action.enlists_bind (clocks (Gate.uses_identify _ _)) fun verified => ?_
  refine Action.enlists_bind (clocks (Gate.uses_admitCaller _ _ _)) fun _ => ?_
  have taken : Routing.accepts Endpoint.signup.method r.method = true := by
    rw [posted]
    rfl
  rw [found]
  dsimp only [Routing.dispatch]
  rw [if_pos taken, handler, Routing.withBody, read]
  exact enlists_signup s body

/-- The requests to a service that are under way. -/
abbrev Service : Type :=
  Traffic SessionTokens.Request (Option Response)

/-- The next step of the request is to store the account. -/
def IsStoring (t : Service) (i : Nat) (r : SessionTokens.Request) (a : Account) : Prop :=
  ∃ next, t.threads[i]? = some ⟨r, .perform (.directory (.insert a)) next⟩

/-- What is left of a signup: all of it that matters to the name, or nothing that does. -/
def Settles (username : String) (rest : Program (Option Response)) : Prop :=
  rest.Enlists username ∨ rest.Uses (Effect.Enrolls fun _ => False)

/-- No more than one of the signups for a name is past the storing of its account, and if one is the
name is taken. -/
structure OneFor (username : String) (t : Service) : Prop where
  settles : ∀ (k : Nat) (thread), t.threads[k]? = some thread → AsksFor thread.request username →
    Settles username thread.rest
  taken : ∀ (k : Nat) (thread), t.threads[k]? = some thread → AsksFor thread.request username →
    ¬ thread.rest.Enlists username → t.world.directory.HasName username
  one : ∀ (i j : Nat) (thread thread'), t.threads[i]? = some thread →
    t.threads[j]? = some thread' → AsksFor thread.request username →
    AsksFor thread'.request username → ¬ thread.rest.Enlists username →
    ¬ thread'.rest.Enlists username → i = j

variable {t : Service} {event : Event SessionTokens.Request}

theorem Settles.step {rest : Program (Option Response)} (settles : Settles username rest)
    (w : World) : Settles username (rest.step World.answer w).1 := by
  rcases settles with enlists | uses
  · rcases enlists.step w with ⟨later, -⟩ | ⟨-, -, later⟩
    · exact Or.inl later
    · exact Or.inr later
  · exact Or.inr (uses.step w)

/-- A signup that is past the storing of its account has been so before, or it has just stored it
and the name was free. -/
theorem passed_of_next {k : Nat} {thread : Thread SessionTokens.Request (Option Response)}
    (present : (t.next s.handle event).threads[k]? = some thread)
    (asks : AsksFor thread.request username) (passed : ¬ thread.rest.Enlists username) :
    (∃ rest, t.threads[k]? = some ⟨thread.request, rest⟩ ∧ ¬ rest.Enlists username) ∨
      (event = .step k ∧ ¬ t.world.directory.HasName username ∧
        (t.next s.handle event).world.directory.HasName username) := by
  rcases Traffic.thread_of_next present with begins | ⟨rest, before, moved⟩
  · rw [begins] at passed
    exact absurd (enlists_handle s asks) passed
  · by_cases enlists : rest.Enlists username
    · right
      split at moved
      · rename_i own
        obtain rfl : event = .step k := by
          cases event with
          | step i => rw [eq_of_beq own]
          | _ => cases own
        rw [moved] at passed
        rcases enlists.step t.world with ⟨later, -⟩ | ⟨free, stored, -⟩
        · exact absurd later passed
        · refine ⟨rfl, free, ?_⟩
          change (t.advance k).world.directory.HasName username
          rwa [Traffic.next_own before]
      · rw [moved] at passed
        exact absurd enlists passed
    · exact Or.inl ⟨rest, before, enlists⟩

theorem OneFor.next (one : OneFor username t) (s : UserService)
    {events : List (Event SessionTokens.Request)}
    (keeps : Traffic.Keeps s.handle username t (event :: events)) :
    OneFor username (t.next s.handle event) := by
  constructor
  · intro k thread present asks
    rcases Traffic.thread_of_next present with begins | ⟨rest, before, moved⟩
    · rw [begins]
      exact Or.inl (enlists_handle s asks)
    · have settles := one.settles k _ before asks
      rw [moved]
      split
      · exact settles.step t.world
      · exact settles
  · intro k thread present asks passed
    rcases passed_of_next present asks passed with ⟨rest, before, early⟩ | ⟨-, -, stored⟩
    · exact Traffic.hasName_next keeps (one.taken k _ before asks early)
    · exact stored
  · intro i j thread thread' present present' asks asks' passed passed'
    rcases passed_of_next present asks passed with ⟨rest, before, early⟩ | ⟨own, free, -⟩
    · rcases passed_of_next present' asks' passed' with ⟨rest', before', early'⟩ | ⟨-, free, -⟩
      · exact one.one i j _ _ before before' asks asks' early early'
      · exact absurd (one.taken i _ before asks early) free
    · rcases passed_of_next present' asks' passed' with ⟨rest', before', early'⟩ | ⟨own', -, -⟩
      · exact absurd (one.taken j _ before' asks' early') free
      · exact Event.step.inj (own.symm.trans own')

theorem oneFor_run (one : OneFor username t) (s : UserService)
    {events : List (Event SessionTokens.Request)}
    (keeps : Traffic.Keeps s.handle username t events) :
    OneFor username (t.run s.handle events) := by
  induction events generalizing t with
  | nil => exact one
  | cons event events ih => exact ih (one.next s keeps) keeps.tail

theorem oneFor_start (username : String) (moment : Moment) (supply : Supply) :
    OneFor username (Traffic.start moment supply) := by
  constructor <;> intros <;> contradiction

/-- A signup that has come to the storing of its account has changed neither store before. -/
theorem along_of_storing {i : Nat} {b : Account} (s : UserService)
    {events : List (Event SessionTokens.Request)} (one : OneFor username t)
    (keeps : Traffic.Keeps s.handle username t events) (asks : AsksFor r username)
    (storing : IsStoring (t.run s.handle events) i r b) :
    Traffic.Along s.handle (Traffic.SparesStores i) t events := by
  induction events generalizing t with
  | nil => trivial
  | cons event events ih =>
    refine ⟨?_, ih (one.next s keeps) keeps.tail storing⟩
    rintro k rfl rfl
    obtain ⟨next, waiting⟩ := storing
    cases present : t.threads[k]? with
    | none =>
      rw [Traffic.next_absent present]
      exact ⟨rfl, rfl⟩
    | some thread =>
      have moved := Traffic.thread_next s.handle present (.step k)
      rw [Event.isStep, beq_self_eq_true, if_pos rfl] at moved
      -- a thread that can store no account any more does not come to storing one
      have goes_on : ¬ (thread.rest.step World.answer t.world).1.Uses
          (Effect.Enrolls fun _ => False) := by
        intro uses
        obtain ⟨rest, found, still⟩ := Traffic.uses_run moved uses events
        cases found.symm.trans waiting
        exact still.1
      obtain ⟨rest, found, -⟩ := Traffic.uses_run moved (Program.uses_any _) events
      obtain rfl : thread.request = r :=
        congrArg Thread.request (Option.some.inj (found.symm.trans waiting))
      rw [Traffic.ledger, Traffic.next_own present]
      rcases one.settles k thread present asks with enlists | uses
      · rcases enlists.step t.world with ⟨-, same⟩ | ⟨-, -, later⟩
        · exact same
        · exact absurd later goes_on
      · exact absurd (uses.step t.world) goes_on

/-- After the storing of an account by a signup its name is taken. -/
theorem hasName_of_stored {j : Nat} {a : Account} {d : Directory} (s : UserService)
    {events : List (Event SessionTokens.Request)} (one : OneFor username t)
    (keeps : Traffic.Keeps s.handle username t (.step j :: events)) (asks : AsksFor r username)
    (storing : IsStoring t j r a) (stored : t.world.directory.insert a = .ok d) :
    (t.next s.handle (.step j)).world.directory.HasName username := by
  obtain ⟨next, present⟩ := storing
  by_cases enlists : (Program.perform (.directory (.insert a)) next).Enlists username
  · change (t.advance j).world.directory.HasName username
    rw [Traffic.next_own present]
    change (commit t.world.directory (t.world.directory.insert a)).2.HasName username
    rw [stored, ← enlists.of_insert.1]
    exact Directory.hasName_of_insert stored
  · exact Traffic.hasName_next keeps (one.taken j _ present asks enlists)

/-- A signup that comes to the storing of its account when the name is taken ends there with 409. -/
theorem turned_away {i : Nat} {b : Account} (s : UserService) (one : OneFor username t)
    (asks : AsksFor r username) (storing : IsStoring t i r b)
    (taken : t.world.directory.HasName username) :
    (t.next s.handle (.step i)).threads[i]? =
        some ⟨r, .done (some ApiError.usernameTaken.response)⟩ ∧
      Traffic.SparesStores i i t := by
  obtain ⟨next, present⟩ := storing
  have enlists : (Program.perform (.directory (.insert b)) next).Enlists username := by
    rcases one.settles i _ present asks with enlists | uses
    · exact enlists
    · exact uses.1.elim
  obtain ⟨rfl, failed⟩ := enlists.of_insert
  have refused := Directory.insert_of_hasName taken
  have stepped : (Program.perform (.directory (.insert b)) next).step World.answer t.world =
      (next (commit t.world.directory (t.world.directory.insert b)).1,
        { t.world with
          directory := (commit t.world.directory (t.world.directory.insert b)).2 }) := rfl
  rw [refused] at stepped
  constructor
  · rw [Traffic.thread_next s.handle present (.step i), Event.isStep, beq_self_eq_true, if_pos rfl,
      stepped]
    dsimp only [commit]
    rw [failed]
    rfl
  · intro _
    rw [Traffic.ledger, Traffic.next_own present, stepped]
    exact ⟨rfl, rfl⟩

/-- One account for each name. However requests to a service come and in whatever order their steps
are taken, and whatever accounts are stored beside them, no two accounts come to have one name; so an
account is found by its name in every order of the accounts, and by its identifier as well. Where
signups are given unused identifiers and no account from outside is put in the place of the one with
a name, one signup at most of those for the name is ever answered with 201, and each that comes to
storing its account after another has stored one ends with 409 and has changed neither store. -/
theorem names_are_given_once (s : UserService) (moment : Moment) (supply : Supply)
    (events : List (Event SessionTokens.Request)) :
    let start : Service := Traffic.start moment supply
    (Traffic.IsSeededWith s.handle (fun _ => True) start events →
      ∀ d, d = (start.run s.handle events).world.directory →
        (d.accounts.map Account.username).Nodup ∧
        ∀ d' : Directory, d'.accounts.Perm d.accounts → ∀ username,
          d'.findUsername? username = d.findUsername? username ∧
          ∀ a, d'.findUsername? username = some a → d'.find? a.id = some a) ∧
    (start.Along s.handle Traffic.StoresNew events →
      ∀ username, Traffic.SeedsSpare s.handle username start events →
      (∀ t : Service, t = start.run s.handle events →
        ∀ (i j : Nat) r r' response response', AsksFor r username → AsksFor r' username →
          t.threads[i]? = some ⟨r, .done (some response)⟩ →
          t.threads[j]? = some ⟨r', .done (some response')⟩ →
          response.status = 201 → response'.status = 201 → i = j) ∧
      ∀ before j between i after, events = before ++ .step j :: (between ++ .step i :: after) →
        ∀ (t u : Service) r r' a b, AsksFor r username → AsksFor r' username →
          t = start.run s.handle before → IsStoring t j r a →
          (∃ d, t.world.directory.insert a = .ok d) →
          u = (t.next s.handle (.step j)).run s.handle between → IsStoring u i r' b →
          (start.run s.handle events).threads[i]? =
            some ⟨r', .done (some (.json 409 (.object [("error", .string "username_taken"),
              ("message", .string "username already taken")])))⟩ ∧
          start.Along s.handle (Traffic.SparesStores i) events) := by
  intro start
  constructor
  · rintro seeded d rfl
    have built : Directory.IsBuiltOf (fun _ => True) _ :=
      Traffic.isBuiltOf_run (fun _ _ => trivial)
        (fun request => enrolls_handle (fun _ _ => trivial) s request) moment supply seeded
    have distinct := built.isDistinct
    refine ⟨distinct.usernames, fun d' same username => ⟨?_, fun a found => ?_⟩⟩
    · exact distinct.findUsername?_perm same username
    · exact (distinct.perm same).find?_of_findUsername? found
  · intro new username spare
    have none : OneFor username start := oneFor_start username moment supply
    constructor
    · rintro t rfl i j r r' response response' asks asks' present present' created created'
      have one := oneFor_run none s ⟨new, spare⟩
      exact one.one i j _ _ present present' asks asks'
        (Program.Enlists.not_created created) (Program.Enlists.not_created created')
    · rintro before j between i after rfl t u r r' a b asks asks' rfl stores ⟨d, stored⟩ rfl waits
      have keeps : Traffic.Keeps s.handle username start _ := ⟨new, spare⟩
      obtain ⟨keeps₁, keeps₂⟩ := Traffic.keeps_append.mp keeps
      obtain ⟨keeps₃, -⟩ := Traffic.keeps_append.mp keeps₂.tail
      have one := oneFor_run none s keeps₁
      have taken := hasName_of_stored s one keeps₂ asks stores stored
      have one' := oneFor_run (one.next s keeps₂) s keeps₃
      obtain ⟨ended, spares⟩ := turned_away s one' asks' waits (Traffic.hasName_run keeps₃ taken)
      have reached : start.run s.handle (before ++ .step j :: between) = _ :=
        Traffic.run_append _ _ _ _
      rw [← List.cons_append, ← List.append_assoc] at keeps
      have spared : start.Along s.handle (Traffic.SparesStores i) (before ++ .step j :: between) :=
        along_of_storing s none (Traffic.keeps_append.mp keeps).1 asks' (reached ▸ waits)
      rw [← List.cons_append, ← List.append_assoc, Traffic.run_append, Traffic.along_append, reached]
      refine ⟨Traffic.done_run ended after, spared, ?_, Traffic.along_done ended after⟩
      rintro k same
      cases same
      exact spares

namespace Sample

/-- Another signup for the same name, between blanks. -/
def lateSignup : SessionTokens.Request :=
  ⟨"POST", "/auth/signup", [⟨"content-type", Text.Utf8.bytes "application/json"⟩], Text.Utf8.bytes
    "\x7b\"username\":\" ada \",\"email\":\"ada@example.net\",\"password\":\"another one\"\x7d"⟩

/-- Both are ready to store an account when the first of them does. -/
def before : List (Event SessionTokens.Request) :=
  [.arrive signup, .arrive lateSignup, .step 0, .step 1, .step 1, .step 0, .step 1, .step 0]

/-- The first signup starts its session. -/
def between : List (Event SessionTokens.Request) :=
  List.replicate 5 (.step 0)

def contest : List (Event SessionTokens.Request) :=
  before ++ .step 0 :: (between ++ .step 1 :: [])

def early : Service :=
  (Traffic.start world.moment world.supply).run (service codec).handle before

def late : Service :=
  (early.next (service codec).handle (.step 0)).run (service codec).handle between

def decided : Service :=
  (Traffic.start world.moment world.supply).run (service codec).handle contest

/-- The account that a program is about to store. -/
def storing? : Program (Option Response) → Option Account
  | .perform (.directory (.insert a)) _ => some a
  | _ => none

theorem eq_of_storing? {rest : Program (Option Response)} {a : Account}
    (stores : storing? rest = some a) : ∃ next, rest = .perform (.directory (.insert a)) next := by
  unfold storing? at stores
  split at stores
  · cases stores
    exact ⟨_, rfl⟩
  · cases stores

/-- What is left of the thread, if it is the request's. -/
def restOf? (t : Service) (i : Nat) (r : SessionTokens.Request) :
    Option (Program (Option Response)) :=
  t.threads[i]?.bind fun thread => if thread.request = r then some thread.rest else none

theorem thread_of_restOf? {t : Service} {i : Nat} {r : SessionTokens.Request}
    {rest : Program (Option Response)} (found : restOf? t i r = some rest) :
    t.threads[i]? = some ⟨r, rest⟩ := by
  obtain ⟨⟨request, rest'⟩, present, same⟩ := Option.bind_eq_some_iff.mp found
  dsimp only at same
  split at same
  · rename_i equal
    rw [present, equal, Option.some.inj same]
  · cases same

theorem exists_isStoring {t : Service} {i : Nat} {r : SessionTokens.Request}
    (stores : ((restOf? t i r).bind storing?).isSome) : ∃ a, IsStoring t i r a := by
  obtain ⟨a, stored⟩ := Option.isSome_iff_exists.mp stores
  obtain ⟨rest, found, storing⟩ := Option.bind_eq_some_iff.mp stored
  obtain ⟨next, rfl⟩ := eq_of_storing? storing
  exact ⟨a, next, thread_of_restOf? found⟩

/-- Whether requests store accounts under new identifiers alone. -/
def storesNew (s : UserService) : Service → List (Event SessionTokens.Request) → Bool
  | _, [] => true
  | t, event :: events =>
    (match event with
      | .step i =>
        match t.threads[i]?.bind fun thread => storing? thread.rest with
        | some a => (t.world.directory.find? a.id).isNone
        | none => true
      | _ => true) && storesNew s (t.next s.handle event) events

theorem along_of_storesNew {s : UserService} {t : Service}
    {events : List (Event SessionTokens.Request)} (checked : storesNew s t events = true) :
    t.Along s.handle Traffic.StoresNew events := by
  induction events generalizing t with
  | nil => trivial
  | cons event events ih =>
    obtain ⟨first, later⟩ := Bool.and_eq_true_iff.mp checked
    refine ⟨?_, ih later⟩
    rintro i rfl request e next present
    dsimp only at first
    rw [present] at first
    unfold Effect.StoresNew
    split
    · exact Option.isNone_iff_eq_none.mp first
    · trivial

/-- Whether no account is stored from outside. -/
def isUnseeded : List (Event SessionTokens.Request) → Bool
  | [] => true
  | .enroll _ :: _ => false
  | _ :: events => isUnseeded events

theorem seedsSpare_of_isUnseeded {s : UserService} {username : String} {t : Service}
    {events : List (Event SessionTokens.Request)} (unseeded : isUnseeded events = true) :
    Traffic.SeedsSpare s.handle username t events := by
  induction events generalizing t with
  | nil => trivial
  | cons event events ih =>
    cases event with
    | enroll d => cases unseeded
    | _ => exact ⟨fun _ => nofun, ih unseeded⟩

theorem asksFor_signup : AsksFor signup "ada" :=
  ⟨rfl, by decide +kernel, ⟨"ada", "ada@example.org", "correct horse"⟩, by decide +kernel,
    by decide +kernel⟩

theorem asksFor_lateSignup : AsksFor lateSignup "ada" :=
  ⟨rfl, by decide +kernel, ⟨" ada ", "ada@example.net", "another one"⟩, by decide +kernel,
    by decide +kernel⟩

/-- The status that a program has ended with. -/
def status? : Program (Option Response) → Option Nat
  | .done response => response.map Response.status
  | .perform _ _ => none

theorem exists_of_status? {t : Service} {i status : Nat} {r : SessionTokens.Request}
    (answered : (restOf? t i r).bind status? = some status) :
    ∃ response, t.threads[i]? = some ⟨r, .done (some response)⟩ ∧ response.status = status := by
  obtain ⟨rest, found, ended⟩ := Option.bind_eq_some_iff.mp answered
  cases rest with
  | done response =>
    obtain ⟨response, rfl, same⟩ := Option.map_eq_some_iff.mp ended
    exact ⟨response, thread_of_restOf? found, same⟩
  | perform e next => cases ended

theorem new_contest : Traffic.Along (service codec).handle Traffic.StoresNew
    (Traffic.start world.moment world.supply) contest :=
  along_of_storesNew (by decide +kernel)

theorem spare_contest : Traffic.SeedsSpare (service codec).handle "ada"
    (Traffic.start world.moment world.supply) contest :=
  seedsSpare_of_isUnseeded (by decide)

theorem signup_stores : ∃ a, IsStoring early 0 signup a :=
  exists_isStoring (by decide +kernel)

theorem early_is_empty : early.world.directory = .empty := by
  decide +kernel

theorem lateSignup_stores : ∃ a, IsStoring late 1 lateSignup a :=
  exists_isStoring (by decide +kernel)

theorem signup_succeeds : ∃ response,
    decided.threads[0]? = some ⟨signup, .done (some response)⟩ ∧ response.status = 201 :=
  exists_of_status? (by decide +kernel)

/-- Of two signups for one name that hash their passwords at once, the first to store its account
has it, and the other is turned away. -/
theorem one_of_two_signups_has_the_name :
    (decided.world.directory.accounts.map Account.username).Nodup ∧
      (∃ response, decided.threads[0]? = some ⟨signup, .done (some response)⟩ ∧
        response.status = 201 ∧ ∀ j r other, AsksFor r "ada" →
          decided.threads[j]? = some ⟨r, .done (some other)⟩ → other.status = 201 → j = 0) ∧
      decided.threads[1]? = some ⟨lateSignup, .done (some (.json 409 (.object
        [("error", .string "username_taken"), ("message", .string "username already taken")])))⟩ ∧
      Traffic.Along (service codec).handle (Traffic.SparesStores 1)
        (Traffic.start world.moment world.supply) contest := by
  obtain ⟨distinct, signups⟩ :=
    names_are_given_once (service codec) world.moment world.supply contest
  obtain ⟨once, turned⟩ := signups new_contest "ada" spare_contest
  obtain ⟨response, answered, created⟩ := signup_succeeds
  refine ⟨?_, ⟨response, answered, created, ?_⟩, ?_⟩
  · rw [decided]
    exact (distinct (Traffic.isSeededWith_of_seedsSpare spare_contest) _ rfl).1
  · intro j r other asks present status
    exact once decided rfl j 0 r signup other response asks asksFor_signup present answered status
      created
  · obtain ⟨a, stores⟩ := signup_stores
    obtain ⟨b, waits⟩ := lateSignup_stores
    have stored : ∃ d, early.world.directory.insert a = .ok d := by
      rw [early_is_empty]
      exact ⟨⟨[a]⟩, rfl⟩
    exact turned before 0 between 1 [] rfl early late signup lateSignup a b asksFor_signup
      asksFor_lateSignup rfl stores stored rfl waits

/-- An account under the identifier of the first, with another name. -/
def alicia : Account :=
  ⟨first, "alicia", "alicia@example.org", "", [.user], true, world.moment.now⟩

/-- The first signup by itself. -/
def alone : List (Event SessionTokens.Request) :=
  .arrive signup :: List.replicate 9 (.step 0)

/-- Its account is replaced before the other signup comes. -/
def replacing : List (Event SessionTokens.Request) :=
  alone ++ .enroll ⟨[alicia]⟩ :: .arrive lateSignup :: List.replicate 9 (.step 1)

def replaced : Service :=
  (Traffic.start world.moment world.supply).run (service codec).handle replacing

theorem insert_alicia : ((Traffic.start world.moment world.supply).run (service codec).handle
    alone).world.directory.insert alicia = .ok ⟨[alicia]⟩ := by
  decide +kernel

theorem new_replacing : Traffic.Along (service codec).handle Traffic.StoresNew
    (Traffic.start world.moment world.supply) replacing :=
  along_of_storesNew (by decide +kernel)

theorem seedsSpare_enroll {s : UserService} {username : String} {t : Service} {a : Account}
    {d : Directory} {events : List (Event SessionTokens.Request)}
    (spares : t.world.directory.Spares username a) (stored : t.world.directory.insert a = .ok d)
    (unseeded : isUnseeded events = true) :
    Traffic.SeedsSpare s.handle username t (.enroll d :: events) := by
  refine ⟨?_, seedsSpare_of_isUnseeded unseeded⟩
  rintro d' same
  obtain rfl := Event.enroll.inj same
  exact ⟨a, spares, stored⟩

theorem seeded_replacing : Traffic.IsSeededWith (service codec).handle (fun _ => True)
    (Traffic.start world.moment world.supply) replacing := by
  have free := ((Directory.insert_ok_iff _ _ _).mp insert_alicia).1
  have spares : Directory.Spares _ "alicia" alicia := fun b inside same =>
    absurd same (free b inside)
  have others : isUnseeded (.arrive lateSignup :: List.replicate 9 (.step 1)) = true := by
    decide
  exact Traffic.isSeededWith_of_seedsSpare (Traffic.seedsSpare_append.mpr
    ⟨seedsSpare_of_isUnseeded (by decide), seedsSpare_enroll spares insert_alicia others⟩)

theorem signup_was_answered : ∃ response,
    replaced.threads[0]? = some ⟨signup, .done (some response)⟩ ∧ response.status = 201 :=
  exists_of_status? (by decide +kernel)

theorem lateSignup_succeeds : ∃ response,
    replaced.threads[1]? = some ⟨lateSignup, .done (some response)⟩ ∧ response.status = 201 :=
  exists_of_status? (by decide +kernel)

/-- An account that is stored from outside can take the place of another, whose name is free then.
So two signups for one name can succeed. -/
theorem replaced_name_is_given_again :
    Traffic.IsSeededWith (service codec).handle (fun _ => True)
        (Traffic.start world.moment world.supply) replacing ∧
      Traffic.Along (service codec).handle Traffic.StoresNew
        (Traffic.start world.moment world.supply) replacing ∧
      AsksFor signup "ada" ∧ AsksFor lateSignup "ada" ∧
      (∃ response, replaced.threads[0]? = some ⟨signup, .done (some response)⟩ ∧
        response.status = 201) ∧
      ∃ response, replaced.threads[1]? = some ⟨lateSignup, .done (some response)⟩ ∧
        response.status = 201 :=
  ⟨seeded_replacing, new_replacing, asksFor_signup, asksFor_lateSignup, signup_was_answered,
    lateSignup_succeeds⟩

end Sample

end UserService

end SessionTokens
