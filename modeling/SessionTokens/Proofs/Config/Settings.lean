import SessionTokens.Config.Service

set_option autoImplicit false

namespace SessionTokens

open Text

/-- A positive number of whole seconds. -/
structure Span.IsLifetime (d : Span) : Prop where
  positive : 0 < d.millis
  whole : d.millis % 1000 = 0

/-- Settings that tokens can be made with. -/
structure CodecSettings.IsUsable (s : CodecSettings) : Prop where
  issuer : blank s.issuer = false
  access : s.lifetimes.access.IsLifetime
  refresh : s.lifetimes.refresh.IsLifetime
  s2s : s.lifetimes.s2s.IsLifetime

theorem Lifetimes.isLifetime_standard : standard.access.IsLifetime ∧ standard.refresh.IsLifetime ∧
    standard.s2s.IsLifetime :=
  ⟨⟨by decide, by decide⟩, ⟨by decide, by decide⟩, ⟨by decide, by decide⟩⟩

theorem Environment.blank_getD (env : Environment) (name : String) {standard : String}
    (named : blank standard = false) : blank (env.getD name standard) = false := by
  rw [getD]
  cases found : env.get? name with
  | none => exact named
  | some v =>
    obtain ⟨-, filled⟩ := Option.filter_eq_some_iff.mp found
    exact Bool.not_eq_true' _ ▸ filled

namespace ServiceConfig

variable {env : Environment} {name : String} {standard d : Span}

theorem positive_of_readSeconds {s : String} {n : Nat} (read : readSeconds s = .ok n) : 0 < n := by
  unfold readSeconds at read
  split at read
  · rename_i m found
    obtain rfl : m = n := Except.ok.inj read
    -- not by `split`, which would evaluate the greatest number
    simp only [positive?, Option.ite_none_left_eq_some, Option.ite_none_right_eq_some,
      Option.some.injEq, Bool.and_eq_true, decide_eq_true_eq] at found
    obtain ⟨-, ⟨positive, -⟩, same⟩ := found
    rwa [← same]
  · cases read

theorem isLifetime_of_ofSeconds? {n : Nat} (positive : 0 < n)
    (within : Span.ofSeconds? n = some d) : d.IsLifetime := by
  have millis : d.millis = n * 1000 := Span.millis_of_ofMillis? within
  constructor <;> omega

theorem isLifetime_of_lifetime (sound : standard.IsLifetime)
    (loaded : lifetime env name standard = .ok d) : d.IsLifetime := by
  unfold lifetime Environment.readD at loaded
  cases given : env.get? name with
  | none =>
    rw [given] at loaded
    cases loaded
    exact sound
  | some v =>
    rw [given] at loaded
    dsimp only at loaded
    cases read : readSeconds v with
    | error e =>
      rw [read] at loaded
      cases loaded
    | ok n =>
      simp only [Except.map, mapError_ok, bind, Except.bind, read] at loaded
      split at loaded
      · rename_i within
        cases loaded
        exact isLifetime_of_ofSeconds? (positive_of_readSeconds read) within
      · cases loaded

theorem isLifetime_of_lifetimes {all : Lifetimes} (loaded : lifetimes env = .ok all) :
    all.access.IsLifetime ∧ all.refresh.IsLifetime ∧ all.s2s.IsLifetime := by
  obtain ⟨standard₁, standard₂, standard₃⟩ := Lifetimes.isLifetime_standard
  simp only [lifetimes, bind, Except.bind] at loaded
  split at loaded
  · cases loaded
  rename_i access read₁
  split at loaded
  · cases loaded
  rename_i refresh read₂
  split at loaded
  · cases loaded
  rename_i s2s read₃
  cases loaded
  exact ⟨isLifetime_of_lifetime standard₁ read₁, isLifetime_of_lifetime standard₂ read₂,
    isLifetime_of_lifetime standard₃ read₃⟩

theorem issuer_of_readIdentity {defaults : ServiceDefaults} {id : Identity}
    (named : blank defaults.serviceId = false) (read : readIdentity defaults env = .ok id) :
    blank id.issuer = false := by
  simp only [readIdentity, bind, Except.bind] at read
  split at read
  · cases read
  split at read
  · cases read
  split at read
  · cases read
  cases read
  exact env.blank_getD _ (env.blank_getD _ named)

theorem load_ok {defaults : ServiceDefaults} {config : ServiceConfig}
    (loaded : load defaults env = .ok config) : ∃ id all, readIdentity defaults env = .ok id ∧
      lifetimes env = .ok all ∧ config.settings = ⟨id.issuer, id.rolesClaim, all⟩ ∧
      config.internalPrefixes = id.internalPrefixes := by
  simp only [load, bind, Except.bind] at loaded
  split at loaded
  · cases loaded
  rename_i id identified
  split at loaded
  · cases loaded
  rename_i all timed
  split at loaded
  · cases loaded
  split at loaded
  · cases loaded
  cases loaded
  cases read : readIdentity defaults env with
  | error e =>
    rw [read] at identified
    cases identified
  | ok id' =>
    rw [read] at identified
    cases identified
    exact ⟨id, all, rfl, timed, rfl, rfl⟩

/-- Whatever is loaded is usable. -/
theorem isUsable_of_load {defaults : ServiceDefaults} {config : ServiceConfig}
    (named : blank defaults.serviceId = false) (loaded : load defaults env = .ok config) :
    config.settings.IsUsable := by
  obtain ⟨id, all, identified, timed, settings, -⟩ := load_ok loaded
  obtain ⟨access, refresh, s2s⟩ := isLifetime_of_lifetimes timed
  rw [settings]
  exact ⟨issuer_of_readIdentity named identified, access, refresh, s2s⟩

theorem prefixes_of_readIdentity {defaults : ServiceDefaults} {id : Identity}
    (read : readIdentity defaults env = .ok id) :
    id.internalPrefixes = (env.get? "WARDEN_INTERNAL_PREFIXES").elim ["/internal/"] listed := by
  simp only [readIdentity, bind, Except.bind] at read
  split at read
  · cases read
  split at read
  · cases read
  split at read
  · cases read
  rename_i prefixes given
  cases read
  rw [Environment.readD] at given
  cases named : env.get? "WARDEN_INTERNAL_PREFIXES" with
  | none =>
    rw [named] at given
    exact (Except.ok.inj given).symm
  | some text =>
    simp only [named, readPrefixes] at given
    split at given
    · cases given
    split at given
    · cases given
    exact (Except.ok.inj given).symm

/-- The prefixes of loaded settings are those that the environment lists, or `/internal/`. -/
theorem internalPrefixes_of_load {defaults : ServiceDefaults} {config : ServiceConfig}
    (loaded : load defaults env = .ok config) : config.internalPrefixes =
      (env.get? "WARDEN_INTERNAL_PREFIXES").elim ["/internal/"] listed := by
  obtain ⟨id, -, read, -, -, same⟩ := load_ok loaded
  exact same.trans (prefixes_of_readIdentity read)

end ServiceConfig

end SessionTokens
