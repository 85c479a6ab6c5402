import Mathlib.Control.Monad.Basic
import SessionTokens.Proofs.Config.Settings
import SessionTokens.Proofs.Token.Chain

set_option autoImplicit false

namespace SessionTokens

/-- The variable for the lifetime of tokens of a kind. -/
def TokenKind.ttlVariable : TokenKind → String
  | .access => "WARDEN_ACCESS_TTL_SECS"
  | .refresh => "WARDEN_REFRESH_TTL_SECS"
  | .s2s => "WARDEN_S2S_TTL_SECS"

def Lifetimes.of (all : Lifetimes) : TokenKind → Span
  | .access => all.access
  | .refresh => all.refresh
  | .s2s => all.s2s

namespace ServiceConfig

variable {env : Environment} {kind : TokenKind} {standard d : Span} {e : Fault ConfigError}

/-- The environment gives tokens of a kind a number of seconds to live. -/
def States (env : Environment) (kind : TokenKind) (seconds : Nat) : Prop :=
  ∃ text, env.get? kind.ttlVariable = some text ∧ readSeconds text = .ok seconds

/-- What goes wrong with the lifetime for a kind. A number of seconds that no span holds is not
complained of. -/
inductive Stumbles (env : Environment) (kind : TokenKind) : Fault ConfigError → Prop
  | unread {text reason : String} (given : env.get? kind.ttlVariable = some text)
      (unread : readSeconds text = .error reason) :
      Stumbles env kind (.refused (.invalid kind.ttlVariable reason))
  | tooLong {seconds : Nat} (stated : States env kind seconds) (long : 9223372036854775 < seconds) :
      Stumbles env kind .overflow

/-- A place in an order of kinds, with nothing wrong before it. -/
def Reaches (env : Environment) (order before : List TokenKind) (kind : TokenKind)
    (after : List TokenKind) : Prop :=
  order = before ++ kind :: after ∧ ∀ other ∈ before, ∀ e, ¬ Stumbles env other e

theorem lifetime_eq (env : Environment) (kind : TokenKind) (standard : Span) :
    lifetime env kind.ttlVariable standard =
      match env.get? kind.ttlVariable with
      | none => .ok standard
      | some text =>
        match readSeconds text with
        | .error reason => .error (.refused (.invalid kind.ttlVariable reason))
        | .ok seconds =>
          match Span.ofSeconds? seconds with
          | some d => .ok d
          | none => .error .overflow := by
  rw [lifetime, Environment.readD]
  cases env.get? kind.ttlVariable with
  | none => rfl
  | some text =>
    dsimp only
    cases readSeconds text with
    | error reason => rfl
    | ok seconds => rfl

theorem ofSeconds?_eq_none_iff {seconds : Nat} :
    Span.ofSeconds? seconds = none ↔ 9223372036854775 < seconds := by
  simp only [Span.ofSeconds?, Span.ofMillis?]
  split
  · simp only [reduceCtorEq, false_iff]
    omega
  · simp only [true_iff]
    omega

theorem lifetime_error_iff :
    lifetime env kind.ttlVariable standard = .error e ↔ Stumbles env kind e := by
  rw [lifetime_eq]
  constructor
  · intro fails
    split at fails
    · cases fails
    · rename_i text given
      split at fails
      · rename_i reason unread
        cases fails
        exact .unread given unread
      · rename_i seconds read
        split at fails
        · cases fails
        · rename_i long
          cases fails
          exact .tooLong ⟨text, given, read⟩ (ofSeconds?_eq_none_iff.mp long)
  · intro stumbles
    cases stumbles with
    | unread given unread => simp only [given, unread]
    | tooLong stated long =>
      obtain ⟨text, given, read⟩ := stated
      simp only [given, read, ofSeconds?_eq_none_iff.mpr long]

/-- A lifetime that is taken is the standard one or as long as stated. -/
theorem lifetime_ok (taken : lifetime env kind.ttlVariable standard = .ok d) :
    (env.get? kind.ttlVariable = none ∧ d = standard) ∨
      ∃ seconds, States env kind seconds ∧ d.millis = seconds * 1000 := by
  rw [lifetime_eq] at taken
  split at taken
  · rename_i unset
    exact Or.inl ⟨unset, (Except.ok.inj taken).symm⟩
  · rename_i text given
    split at taken
    · cases taken
    · rename_i seconds read
      split at taken
      · rename_i within
        cases taken
        exact Or.inr ⟨seconds, ⟨text, given, read⟩, Span.millis_of_ofMillis? within⟩
      · cases taken

theorem not_stumbles (taken : lifetime env kind.ttlVariable standard = .ok d) :
    ∀ e, ¬ Stumbles env kind e := by
  intro e stumbles
  rw [lifetime_error_iff.mpr stumbles] at taken
  cases taken

/-- Reads the lifetimes for kinds one after the other. -/
def readInOrder (env : Environment) : List TokenKind → Checked ConfigError Unit
  | [] => .ok ()
  | kind :: order =>
    (lifetime env kind.ttlVariable (Lifetimes.standard.of kind)).bind fun _ => readInOrder env order

/-- The first lifetime that goes wrong ends the reading. -/
theorem readInOrder_error_iff {order : List TokenKind} : readInOrder env order = .error e ↔
    ∃ before kind after, Reaches env order before kind after ∧ Stumbles env kind e := by
  induction order with
  | nil => simp [readInOrder, Reaches]
  | cons first order ih =>
    rw [readInOrder]
    cases taken : lifetime env first.ttlVariable (Lifetimes.standard.of first) with
    | error fault =>
      have stumbled := lifetime_error_iff.mp taken
      constructor
      · intro fails
        cases fails
        exact ⟨[], first, order, ⟨rfl, by simp⟩, stumbled⟩
      · rintro ⟨before, kind, after, ⟨same, sound⟩, stumbles⟩
        cases before with
        | nil =>
          obtain ⟨rfl, -⟩ := List.cons.inj same
          rw [← taken, lifetime_error_iff.mpr stumbles]
          rfl
        | cons other before =>
          obtain ⟨rfl, -⟩ := List.cons.inj same
          exact absurd stumbled (sound first List.mem_cons_self fault)
    | ok d =>
      have sound_here := not_stumbles taken
      refine Iff.trans ih ⟨?_, ?_⟩
      · rintro ⟨before, kind, after, ⟨rfl, sound⟩, stumbles⟩
        refine ⟨first :: before, kind, after, ⟨rfl, ?_⟩, stumbles⟩
        rw [List.forall_mem_cons]
        exact ⟨sound_here, sound⟩
      · rintro ⟨before, kind, after, ⟨same, sound⟩, stumbles⟩
        cases before with
        | nil =>
          obtain ⟨rfl, -⟩ := List.cons.inj same
          exact absurd stumbles (sound_here e)
        | cons other before =>
          obtain ⟨rfl, rest⟩ := List.cons.inj same
          rw [List.forall_mem_cons] at sound
          exact ⟨before, kind, after, ⟨rest, sound.2⟩, stumbles⟩

theorem lifetimes_eq (env : Environment) : lifetimes env =
    (lifetime env TokenKind.access.ttlVariable Lifetimes.standard.access).bind fun access =>
      (lifetime env TokenKind.refresh.ttlVariable Lifetimes.standard.refresh).bind fun refresh =>
        (lifetime env TokenKind.s2s.ttlVariable Lifetimes.standard.s2s).bind fun s2s =>
          .ok ⟨access, refresh, s2s⟩ := rfl

theorem readInOrder_eq (env : Environment) :
    readInOrder env [.access, .refresh, .s2s] = (lifetimes env).map fun _ => () := by
  rw [lifetimes_eq]
  simp only [readInOrder, Lifetimes.of]
  cases lifetime env TokenKind.access.ttlVariable Lifetimes.standard.access with
  | error e => rfl
  | ok access =>
    cases lifetime env TokenKind.refresh.ttlVariable Lifetimes.standard.refresh with
    | error e => rfl
    | ok refresh =>
      cases lifetime env TokenKind.s2s.ttlVariable Lifetimes.standard.s2s with
      | error e => rfl
      | ok s2s => rfl

theorem lifetimes_error_iff : lifetimes env = .error e ↔ ∃ before kind after,
    Reaches env [.access, .refresh, .s2s] before kind after ∧ Stumbles env kind e := by
  rw [← readInOrder_error_iff, readInOrder_eq]
  cases lifetimes env with
  | error fault => simp only [Except.map, Except.error.injEq]
  | ok all => exact ⟨nofun, nofun⟩

theorem lifetime_of_lifetimes {all : Lifetimes} (taken : lifetimes env = .ok all)
    (kind : TokenKind) :
    lifetime env kind.ttlVariable (Lifetimes.standard.of kind) = .ok (all.of kind) := by
  simp only [lifetimes_eq, Except.bind] at taken
  split at taken
  · cases taken
  rename_i access read₁
  split at taken
  · cases taken
  rename_i refresh read₂
  split at taken
  · cases taken
  rename_i s2s read₃
  cases taken
  cases kind with
  | access => exact read₁
  | refresh => exact read₂
  | s2s => exact read₃

theorem load_of_lifetimes {defaults : ServiceDefaults} {id : Identity}
    (identified : readIdentity defaults env = .ok id) (fails : lifetimes env = .error e) :
    load defaults env = .error e := by
  simp only [load, identified, mapError_ok, fails, bind, Except.bind]

theorem refused_bind_overflow_iff {ε α β : Type} {x : Except ε α} {f : α → Checked ε β} :
    (x.mapError .refused >>= f) = .error .overflow ↔ ∃ a, x = .ok a ∧ f a = .error .overflow := by
  cases x <;> simp [Except.mapError, bind, Except.bind]

/-- Nothing but a lifetime overflows while a configuration is loaded. -/
theorem load_overflow_iff {defaults : ServiceDefaults} : load defaults env = .error .overflow ↔
    (∃ id, readIdentity defaults env = .ok id) ∧ lifetimes env = .error .overflow := by
  constructor
  · intro fails
    obtain ⟨id, identified, fails⟩ := refused_bind_overflow_iff.mp fails
    refine ⟨⟨id, identified⟩, ?_⟩
    cases taken : lifetimes env with
    | error e =>
      rw [taken] at fails
      cases fails
      rfl
    | ok all =>
      rw [taken] at fails
      obtain ⟨address, -, fails⟩ := refused_bind_overflow_iff.mp fails
      obtain ⟨url, -, fails⟩ := refused_bind_overflow_iff.mp fails
      cases fails
  · rintro ⟨⟨id, identified⟩, fails⟩
    exact load_of_lifetimes identified fails

end ServiceConfig

namespace Codec

variable {c : Codec} {now : Instant}

/-- The expiry of some token of a kind is out of bounds. -/
def Overflows (c : Codec) (now : Instant) : TokenKind → Prop
  | .access => ∃ subject roles audience, c.mintAccess now subject roles audience = .error .overflow
  | .refresh => ∃ subject id, c.mintRefresh now subject id = .error .overflow
  | .s2s => ∃ audience, c.mintS2s now audience = .error .overflow

theorem mint_overflow_iff {claimsUntil : Instant → Claims} {expiry : Option Instant} :
    c.mint (expiry.map claimsUntil) = .error .overflow ↔ expiry = none := by
  cases expiry with
  | none => simp [mint]
  | some expiresAt =>
    rw [Option.map_some, mint]
    cases c.encode (claimsUntil expiresAt) <;> simp

/-- Tokens overflow by their lifetime and by nothing they state. -/
theorem overflows_iff {kind : TokenKind} :
    c.Overflows now kind ↔ now.wholeSeconds.add? (c.settings.lifetimes.of kind) = none := by
  cases kind with
  | access =>
    simp only [Overflows, mintAccess, Claims.access?, mint_overflow_iff, exists_const]
    rfl
  | refresh =>
    simp only [Overflows, mintRefresh, Claims.refresh?, mint_overflow_iff]
    exact ⟨fun ⟨_, _, out⟩ => out, fun out => ⟨"", .random 0, out⟩⟩
  | s2s =>
    simp only [Overflows, mintS2s, Claims.s2s?, mint_overflow_iff, exists_const]
    rfl

end Codec

/-- Whole seconds are in bounds until the latest second that there is. -/
theorem Instant.add?_eq_none_iff {now : Instant} {d : Span} {seconds : Nat}
    (whole : d.millis = seconds * 1000) :
    now.wholeSeconds.add? d = none ↔ 8210266876799 < now.seconds + seconds := by
  have early := now.ge_earliest
  simp only [add?, make?, wholeSeconds, whole]
  split
  · simp only [reduceCtorEq, false_iff]
    omega
  · simp only [true_iff]
    omega

/-- Tokens of a kind overflow at some time between 1970 and the end of 9999 exactly if they do at its
very end. -/
theorem Codec.overflows_in_range_iff {c : Codec} {kind : TokenKind} {seconds : Nat}
    (whole : (c.settings.lifetimes.of kind).millis = seconds * 1000) :
    (∃ now : Instant, 0 ≤ now.seconds ∧ now.seconds ≤ 253402300799 ∧ c.Overflows now kind) ↔
      7956864576000 < seconds := by
  simp only [overflows_iff, Instant.add?_eq_none_iff whole]
  constructor
  · rintro ⟨now, -, early, beyond⟩
    omega
  · intro long
    refine ⟨⟨253402300799, 0, by decide, by decide, by decide⟩, by decide, by decide, ?_⟩
    dsimp only
    omega

namespace ServiceConfig

theorem exists_standard (kind : TokenKind) :
    ∃ seconds : Nat, seconds ≤ 604800 ∧ (Lifetimes.standard.of kind).millis = seconds * 1000 := by
  cases kind with
  | access => exact ⟨900, by decide, rfl⟩
  | refresh => exact ⟨604800, by decide, rfl⟩
  | s2s => exact ⟨600, by decide, rfl⟩

theorem States.unique {env : Environment} {kind : TokenKind} {seconds seconds' : Nat}
    (stated : States env kind seconds) (stated' : States env kind seconds') :
    seconds = seconds' := by
  obtain ⟨text, given, read⟩ := stated
  obtain ⟨text', given', read'⟩ := stated'
  rw [given] at given'
  obtain rfl := Option.some.inj given'
  rw [read] at read'
  exact Except.ok.inj read'

/-- Of the lifetimes that a configuration takes, tokens can be made with those that are stated within
a bound, and with those that are not stated. -/
theorem overflows_of_load_iff {defaults : ServiceDefaults} {env : Environment}
    {config : ServiceConfig} {c : Codec} (loaded : load defaults env = .ok config)
    (settings : c.settings = config.settings) (kind : TokenKind) :
    (∃ now : Instant, 0 ≤ now.seconds ∧ now.seconds ≤ 253402300799 ∧ c.Overflows now kind) ↔
      ∃ seconds, States env kind seconds ∧ 7956864576000 < seconds := by
  obtain ⟨id, all, -, taken, same, -⟩ := load_ok loaded
  have lives : c.settings.lifetimes.of kind = all.of kind := by rw [settings, same]
  rcases lifetime_ok (lifetime_of_lifetimes taken kind) with ⟨unset, standard⟩ | ⟨n, stated, whole⟩
  · obtain ⟨n, short, whole⟩ := exists_standard kind
    rw [← standard, ← lives] at whole
    rw [Codec.overflows_in_range_iff whole]
    constructor
    · intro long
      omega
    · rintro ⟨seconds, ⟨text, given, -⟩, -⟩
      rw [unset] at given
      cases given
  · rw [← lives] at whole
    rw [Codec.overflows_in_range_iff whole]
    constructor
    · intro long
      exact ⟨n, stated, long⟩
    · rintro ⟨seconds, stated', long⟩
      rwa [stated.unique stated']

/-- Which lifetimes stop a service, and when. Loading a configuration overflows exactly if the rest of
what comes before is in order and the first lifetime that is not is greater than a span can hold; a
lifetime that is no positive number of 63 bits is refused by the name of its variable. A
configuration that loads can make tokens of a kind at all times from 1970 to the end of 9999 exactly
if no lifetime is stated for them that leads out of the calendar from there. -/
theorem lifetimes_are_usable_iff (defaults : ServiceDefaults) (env : Environment) :
    (load defaults env = .error .overflow ↔ (∃ id, readIdentity defaults env = .ok id) ∧
      ∃ before kind after seconds, Reaches env [.access, .refresh, .s2s] before kind after ∧
        States env kind seconds ∧ 9223372036854775 < seconds) ∧
    (∀ id before kind after text reason, readIdentity defaults env = .ok id →
      Reaches env [.access, .refresh, .s2s] before kind after →
      env.get? kind.ttlVariable = some text → readSeconds text = .error reason →
      load defaults env = .error (.refused (.invalid kind.ttlVariable reason))) ∧
    ∀ config c, load defaults env = .ok config → config.codec = .ok c → ∀ kind,
      (∃ now : Instant, 0 ≤ now.seconds ∧ now.seconds ≤ 253402300799 ∧ c.Overflows now kind) ↔
        ∃ seconds, States env kind seconds ∧ 7956864576000 < seconds := by
  refine ⟨?_, ?_, ?_⟩
  · rw [load_overflow_iff, lifetimes_error_iff]
    refine and_congr_right fun _ => ?_
    constructor
    · rintro ⟨before, kind, after, reaches, stumbles⟩
      cases stumbles with
      | tooLong stated long => exact ⟨before, kind, after, _, reaches, stated, long⟩
    · rintro ⟨before, kind, after, seconds, reaches, stated, long⟩
      exact ⟨before, kind, after, reaches, .tooLong stated long⟩
  · intro id before kind after text reason identified reaches given unread
    apply load_of_lifetimes identified
    exact lifetimes_error_iff.mpr ⟨before, kind, after, reaches, .unread given unread⟩
  · intro config c loaded made kind
    exact overflows_of_load_iff loaded (Codec.make_ok made).2.2 kind

namespace Sample

def secret : String :=
  "0123456789abcdef0123456789abcdef"

/-- A service whose access tokens are to live for a number of seconds. -/
def lasting (seconds : String) : Environment :=
  ⟨fun name =>
    [("WARDEN_HMAC_SECRET", secret), ("WARDEN_ACCESS_TTL_SECS", seconds)].lookup name,
    fun _ => none⟩

def settings (access : Span) : CodecSettings :=
  ⟨"user-service", .standard, { Lifetimes.standard with access }⟩

def config (access : Span) : ServiceConfig :=
  ⟨"user-service", ⟨Text.Utf8.bytes secret, none, none, none⟩, settings access, ["/internal/"],
    .v4 ⟨0, 0, 0, 0⟩ 8080, none⟩

def codec (access : Span) : Codec :=
  ⟨.secret (Text.Utf8.bytes secret), [.secret (Text.Utf8.bytes secret)], settings access⟩

/-- The longest lifetime that is of use in the year 9999, and none at all. -/
theorem longest_lifetime_is_usable :
    let access : Span := ⟨7956864576000000, by decide, by decide⟩
    load .user (lasting "7956864576000") = .ok (config access) ∧
      (config access).codec = .ok (codec access) ∧
      (∀ now : Instant, 0 ≤ now.seconds → now.seconds ≤ 253402300799 →
        ¬ (codec access).Overflows now .access) ∧
      load .user (lasting "0") = .error (.refused (.invalid "WARDEN_ACCESS_TTL_SECS"
        "expected a positive number of seconds, got '0'")) := by
  intro access
  have loaded : load .user (lasting "7956864576000") = .ok (config access) := by decide +kernel
  have made : (config access).codec = .ok (codec access) := rfl
  refine ⟨loaded, made, ?_, ?_⟩
  · intro now after before overflows
    obtain ⟨-, -, usable⟩ := lifetimes_are_usable_iff .user (lasting "7956864576000")
    obtain ⟨seconds, stated, long⟩ :=
      (usable _ _ loaded made .access).mp ⟨now, after, before, overflows⟩
    have given : States (lasting "7956864576000") .access 7956864576000 :=
      ⟨"7956864576000", by decide +kernel, by decide +kernel⟩
    rw [stated.unique given] at long
    omega
  · obtain ⟨id, identified⟩ : ∃ id, readIdentity .user (lasting "0") = .ok id :=
      ⟨_, rfl⟩
    obtain ⟨-, refuses, -⟩ := lifetimes_are_usable_iff .user (lasting "0")
    exact refuses id [] .access _ "0" _ identified ⟨rfl, by simp⟩ (by decide +kernel)
      (by decide +kernel)

/-- A lifetime that no span holds, and one second more than is of use in the year 9999. -/
theorem longer_lifetimes_overflow :
    let access : Span := ⟨7956864576001000, by decide, by decide⟩
    let now : Instant := ⟨253402300799, 0, by decide, by decide, by decide⟩
    load .user (lasting "9223372036854776") = .error .overflow ∧
      load .user (lasting "7956864576001") = .ok (config access) ∧
      (config access).codec = .ok (codec access) ∧
      (codec access).mintAccess now "ada" [.user] [] = .error .overflow := by
  intro access now
  exact ⟨by decide +kernel, by decide +kernel, rfl, Codec.mint_overflow_iff.mpr (by decide)⟩

end Sample

end ServiceConfig

end SessionTokens
