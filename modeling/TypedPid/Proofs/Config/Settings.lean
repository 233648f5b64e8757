import TypedPid.Config
import TypedPid.Proofs.Definition.Building
import TypedPid.Proofs.Text.Numerals
import TypedPid.Proofs.Unicode.Lowercase

/-!
The settings of the service. Each is read from the text of its own variable, or from the text that stands
in for one that is not set, and the first setting without a sound text keeps the service from starting.
-/

namespace TypedPid

open Unicode

def Strategy.name : Strategy → String
  | .strict => "embedded-strict"
  | .acceptAll => "none-debug"

def ReportMode.name : ReportMode → String
  | .failFast => "fail-fast"
  | .aggregate => "aggregate"

def IdentifierSystem.names : IdentifierSystem → List String
  | .inMemory => ["in-memory", "in_memory"]

lemma Unicode.toLower_eq_iff {s t : String} : s.toLower = t ↔ s.toList.map Char.toLower = t.toList := by
  rw [← String.toList_map, String.toList_inj]
  exact Iff.rfl

section Names

variable {text : String} {u : UnknownName}

lemma Strategy.ofName?_eq_ok_iff {k : Strategy} :
    ofName? text = .ok k ↔ (trim text).toLower = k.name := by
  have hplain : ∀ c ∈ k.name.toList, Plain c := by
    cases k <;> exact plain_of_all (by decide)
  rw [← toLowercase_eq_iff hplain, ofName?]
  constructor
  · intro h
    split_ifs at h with hstrict hall
    · cases h
      exact hstrict
    · cases h
      exact hall
  · intro h
    rw [h]
    cases k <;> rfl

lemma Strategy.eq_of_ofName? (h : ofName? text = .error u) :
    u = .strategy (toLowercase (trim text)) := by
  rw [ofName?] at h
  split_ifs at h
  cases h
  rfl

lemma IdentifierSystem.ofName?_eq_ok_iff {k : IdentifierSystem} :
    ofName? text = .ok k ↔ (trim text).toLower ∈ k.names := by
  -- Neither name has a k, so no capital but those from A to Z can stand in it.
  cases k
  have hhyphen : ∀ c ∈ "in-memory".toList, Plain c := plain_of_all (by decide)
  have hunderscore : ∀ c ∈ "in_memory".toList, Plain c := plain_of_all (by decide)
  rw [names, List.mem_pair, ← toLowercase_eq_iff hhyphen, ← toLowercase_eq_iff hunderscore, ofName?]
  constructor
  · intro h
    split_ifs at h with hname
    exact hname
  · exact fun h => if_pos h

lemma IdentifierSystem.eq_of_ofName? (h : ofName? text = .error u) :
    u = .identifierSystem (toLowercase (trim text)) := by
  rw [ofName?] at h
  split_ifs at h
  cases h
  rfl

end Names

namespace Config

inductive Setting where
  | listenAddress
  | profileKey
  | registryUrl
  | registryTimeout
  | cacheMaxEntries
  | cacheLifetime
  | strategy
  | reportMode
  | identifierSystem
deriving DecidableEq

namespace Setting

/-- The order in which the settings are looked at. -/
def order : List Setting :=
  [listenAddress, profileKey, registryUrl, registryTimeout, cacheMaxEntries, cacheLifetime, strategy,
    reportMode, identifierSystem]

def variableName : Setting → String
  | listenAddress => "PIT_LISTEN_ADDR"
  | profileKey => "PIT_PROFILE_KEY"
  | registryUrl => "PIT_TYPE_REGISTRY_URL"
  | registryTimeout => "PIT_TYPE_REGISTRY_TIMEOUT_SECS"
  | cacheMaxEntries => "PIT_CACHE_MAX_ENTRIES"
  | cacheLifetime => "PIT_CACHE_EXPIRE_MINUTES"
  | strategy => "PIT_VALIDATION_STRATEGY"
  | reportMode => "PIT_VALIDATION_REPORT"
  | identifierSystem => "PIT_PIDSYSTEM_IMPLEMENTATION"

/-- What stands in for a variable that is not set. There are two that have to be. -/
def standIn? : Setting → Option String
  | listenAddress => some "127.0.0.1:8090"
  | profileKey | registryUrl => none
  | registryTimeout => some "10"
  | cacheMaxEntries => some "1000"
  | cacheLifetime => some "10"
  | strategy => some "embedded-strict"
  | reportMode => some "fail-fast"
  | identifierSystem => some "in-memory"

def text? (lookup : String → Option String) (s : Setting) : Option String :=
  (lookup s.variableName).or s.standIn?

abbrev Value : Setting → Type
  | listenAddress => SocketAddress
  | profileKey => String
  | registryUrl => Url
  | registryTimeout | cacheMaxEntries => Nat
  | cacheLifetime => Option Nat
  | strategy => Strategy
  | reportMode => ReportMode
  | identifierSystem => IdentifierSystem

/-- What a text says of a setting. Seconds and entries are at least one, and no minutes are no lifetime. -/
def Reads : (s : Setting) → String → s.Value → Prop
  | listenAddress, text, (address : SocketAddress) => SocketAddress.ofText? text = some address
  | profileKey, text, (key : String) => key = text ∧ ¬ Blank text
  | registryUrl, text, (url : Url) =>
    Url.ofText? text = .ok url ∧ (url.scheme = "http" ∨ url.scheme = "https")
  | registryTimeout, text, (seconds : Nat) => ∃ n, Unsigned.Numeral text n ∧ seconds = max 1 n
  | cacheMaxEntries, text, (entries : Nat) => ∃ n, Unsigned.Numeral text n ∧ entries = max 1 n
  | cacheLifetime, text, (seconds : Option Nat) => ∃ minutes, Unsigned.Numeral text minutes ∧
    60 * minutes < 2 ^ 64 ∧ seconds = if minutes = 0 then none else some (60 * minutes)
  | strategy, text, (kind : Strategy) => (trim text).toLower = kind.name
  | reportMode, text, (mode : ReportMode) => trim text = mode.name
  | identifierSystem, text, (system : IdentifierSystem) => (trim text).toLower ∈ system.names

/-- There is a text for the setting, and the text says something of it. -/
def Sound (lookup : String → Option String) (s : Setting) : Prop :=
  ∃ text, s.text? lookup = some text ∧ ∃ v, s.Reads text v

/-- What is reported of a setting that has no text, or one that says nothing of it. -/
inductive Fault : Setting → Option String → ConfigError → Prop
  | noAddress {text : String} : SocketAddress.ofText? text = none →
      Fault listenAddress (some text) .listenAddress
  | noKey : Fault profileKey none .missingProfileKey
  | blankKey {text : String} : Blank text → Fault profileKey (some text) .blankProfileKey
  | noUrl : Fault registryUrl none .missingRegistryUrl
  | brokenUrl {text : String} {cause : UrlError} : Url.ofText? text = .error cause →
      Fault registryUrl (some text) (.registryUrl cause)
  | otherScheme {text : String} {url : Url} : Url.ofText? text = .ok url → url.scheme ≠ "http" →
      url.scheme ≠ "https" → Fault registryUrl (some text) .registryScheme
  | badTimeout {text : String} {cause : NumberError} : Unsigned.ofText? text = .error cause →
      Fault registryTimeout (some text) (.registryTimeout cause)
  | badMaxEntries {text : String} {cause : NumberError} : Unsigned.ofText? text = .error cause →
      Fault cacheMaxEntries (some text) (.cacheMaxEntries cause)
  | badLifetime {text : String} {cause : NumberError} : Unsigned.ofText? text = .error cause →
      Fault cacheLifetime (some text) (.cacheLifetime cause)
  | longLifetime {text : String} {minutes : Nat} : Unsigned.Numeral text minutes →
      2 ^ 64 ≤ 60 * minutes → Fault cacheLifetime (some text) .cacheLifetimeTooLarge
  | otherStrategy {text : String} : (∀ s : Strategy, (trim text).toLower ≠ s.name) →
      Fault strategy (some text) (.unknownName (.strategy (toLowercase (trim text))))
  | otherMode {text : String} : (∀ m : ReportMode, trim text ≠ m.name) →
      Fault reportMode (some text) (.reportMode (trim text))
  | otherSystem {text : String} : (∀ s : IdentifierSystem, (trim text).toLower ∉ s.names) →
      Fault identifierSystem (some text) (.unknownName (.identifierSystem (toLowercase (trim text))))

def atLeastOne (n : Nat) : Nat := max n 1

/-- How a setting is read from its variable. -/
def check (lookup : String → Option String) : (s : Setting) → Except ConfigError s.Value
  | listenAddress => listenAddress? (lookup "PIT_LISTEN_ADDR")
  | profileKey => profileKey? (lookup "PIT_PROFILE_KEY")
  | registryUrl => registryUrl? (lookup "PIT_TYPE_REGISTRY_URL")
  | registryTimeout =>
    (numberOr 10 .registryTimeout (lookup "PIT_TYPE_REGISTRY_TIMEOUT_SECS")).map atLeastOne
  | cacheMaxEntries =>
    (numberOr 1000 .cacheMaxEntries (lookup "PIT_CACHE_MAX_ENTRIES")).map atLeastOne
  | cacheLifetime => numberOr 10 .cacheLifetime (lookup "PIT_CACHE_EXPIRE_MINUTES") >>= lifetime?
  | strategy => namedOr .strict Strategy.ofName? (lookup "PIT_VALIDATION_STRATEGY")
  | reportMode => reportMode? (lookup "PIT_VALIDATION_REPORT")
  | identifierSystem =>
    namedOr .inMemory IdentifierSystem.ofName? (lookup "PIT_PIDSYSTEM_IMPLEMENTATION")

end Setting

open Setting

def value (c : Config) : (s : Setting) → s.Value
  | .listenAddress => c.listenAddress
  | .profileKey => c.profileKey
  | .registryUrl => c.registryUrl
  | .registryTimeout => c.registryTimeoutSeconds
  | .cacheMaxEntries => c.cacheMaxEntries
  | .cacheLifetime => c.cacheLifetimeSeconds
  | .strategy => c.strategy
  | .reportMode => c.reportMode
  | .identifierSystem => c.identifierSystem

variable {lookup : String → Option String} {s : Setting} {c : Config} {e : ConfigError}

section Checks

variable {text : Option String} {t : String} {n : Nat}

lemma text?_eq {d : String} (h : s.standIn? = some d) :
    s.text? lookup = some ((lookup s.variableName).getD d) := by
  rw [text?, h]
  cases lookup s.variableName <;> rfl

lemma numberOr_eq (h : Unsigned.ofText? t = .ok n) (fault : NumberError → ConfigError)
    (text : Option String) : numberOr n fault text = (Unsigned.ofText? (text.getD t)).mapError fault := by
  cases text with
  | none =>
    rw [Option.getD_none, h]
    rfl
  | some _ => rfl

lemma namedOr_eq {α : Type} {ofName? : String → Except UnknownName α} {a : α} (h : ofName? t = .ok a)
    (text : Option String) : namedOr a ofName? text = (ofName? (text.getD t)).mapError .unknownName := by
  cases text with
  | none =>
    rw [Option.getD_none, h]
    rfl
  | some _ => rfl

lemma reportMode?_eq (text : Option String) :
    reportMode? text = reportMode? (some (text.getD "fail-fast")) := by
  cases text with
  | none =>
    have htrim : trim "fail-fast" = "fail-fast" := by decide
    rw [Option.getD_none, reportMode?, reportMode?, Option.map_some, htrim]
    rfl
  | some _ => rfl

lemma ofText?_ten : Unsigned.ofText? "10" = .ok 10 := rfl

lemma ofText?_thousand : Unsigned.ofText? "1000" = .ok 1000 := rfl

lemma ofName?_strict : Strategy.ofName? "embedded-strict" = .ok .strict := by
  rw [Strategy.ofName?_eq_ok_iff, toLower_eq_iff]
  decide

lemma ofName?_inMemory : IdentifierSystem.ofName? "in-memory" = .ok .inMemory := by
  rw [IdentifierSystem.ofName?_eq_ok_iff, IdentifierSystem.names, List.mem_cons, toLower_eq_iff]
  exact .inl (by decide)

lemma trim_eq_empty_iff : trim t = "" ↔ Blank t := by
  rw [← String.isEmpty_iff, isEmpty_trim_iff]

lemma exists_some_iff {p : String → Prop} : (∃ u, some t = some u ∧ p u) ↔ p t := by
  simp

lemma listenAddress?_eq_ok_iff {address : SocketAddress} : listenAddress? text = .ok address ↔
    SocketAddress.ofText? (text.getD "127.0.0.1:8090") = some address := by
  rw [listenAddress?]
  cases SocketAddress.ofText? (text.getD "127.0.0.1:8090") <;> simp

lemma listenAddress?_eq_error_iff : listenAddress? text = .error e ↔
    SocketAddress.ofText? (text.getD "127.0.0.1:8090") = none ∧ .listenAddress = e := by
  rw [listenAddress?]
  cases SocketAddress.ofText? (text.getD "127.0.0.1:8090") <;> simp

lemma profileKey?_eq_ok_iff {key : String} :
    profileKey? text = .ok key ↔ ∃ t, text = some t ∧ key = t ∧ ¬ Blank t := by
  cases text with
  | none =>
    refine iff_of_false ?_ ?_
    · intro h
      cases h
    · rintro ⟨t, ht, -⟩
      cases ht
  | some t =>
    rw [exists_some_iff, profileKey?, ← trim_eq_empty_iff]
    constructor
    · intro h
      split_ifs at h with hblank
      cases h
      exact ⟨rfl, hblank⟩
    · rintro ⟨rfl, hblank⟩
      exact if_neg hblank

lemma registryUrl?_eq_ok_iff {url : Url} : registryUrl? text = .ok url ↔ ∃ t, text = some t ∧
    Url.ofText? t = .ok url ∧ (url.scheme = "http" ∨ url.scheme = "https") := by
  cases text with
  | none =>
    refine iff_of_false ?_ ?_
    · intro h
      cases h
    · rintro ⟨t, ht, -⟩
      cases ht
  | some t =>
    rw [exists_some_iff, registryUrl?, bind_eq_ok_iff]
    constructor
    · rintro ⟨u, hu, h⟩
      split_ifs at h with hscheme
      cases h
      exact ⟨mapError_eq_ok_iff.1 hu, hscheme⟩
    · rintro ⟨hurl, hscheme⟩
      exact ⟨url, mapError_eq_ok_iff.2 hurl, if_pos hscheme⟩

lemma lifetime?_eq_ok_iff {minutes : Nat} {seconds : Option Nat} : lifetime? minutes = .ok seconds ↔
    60 * minutes < 2 ^ 64 ∧ seconds = if minutes = 0 then none else some (60 * minutes) := by
  have hpow : Nat.pow 2 64 = 2 ^ 64 := rfl
  rw [lifetime?, hpow, Nat.mul_comm minutes]
  by_cases hlarge : 2 ^ 64 ≤ 60 * minutes
  · rw [if_pos hlarge]
    refine iff_of_false ?_ fun h => Nat.not_le.2 h.1 hlarge
    intro h
    cases h
  · rw [if_neg hlarge, and_iff_right (Nat.not_le.1 hlarge), Except.ok.injEq, eq_comm]

lemma lifetime?_eq_error_iff {minutes : Nat} :
    lifetime? minutes = .error e ↔ 2 ^ 64 ≤ 60 * minutes ∧ e = .cacheLifetimeTooLarge := by
  have hpow : Nat.pow 2 64 = 2 ^ 64 := rfl
  rw [lifetime?, hpow, Nat.mul_comm minutes]
  by_cases hlarge : 2 ^ 64 ≤ 60 * minutes
  · rw [if_pos hlarge, and_iff_right hlarge, Except.error.injEq, eq_comm]
  · rw [if_neg hlarge]
    refine iff_of_false ?_ fun h => hlarge h.1
    intro h
    cases h

lemma reportMode?_eq_ok_iff {mode : ReportMode} :
    reportMode? (some t) = .ok mode ↔ trim t = mode.name := by
  simp only [reportMode?, Option.map_some]
  constructor
  · intro h
    split_ifs at h with hfailFast haggregate
    · cases h
      exact hfailFast
    · cases h
      exact haggregate
  · intro h
    rw [h]
    cases mode <;> rfl

lemma eq_of_reportMode? (h : reportMode? (some t) = .error e) : e = .reportMode (trim t) := by
  simp only [reportMode?, Option.map_some] at h
  split_ifs at h
  cases h
  rfl

section Numbers

variable {fault : NumberError → ConfigError}

lemma atLeastOne_eq_ok_iff : ((Unsigned.ofText? t).mapError fault).map atLeastOne = .ok n ↔
    ∃ m, Unsigned.Numeral t m ∧ n = max 1 m := by
  simp only [map_eq_ok_iff, mapError_eq_ok_iff, Unsigned.ofText?_eq_ok_iff, atLeastOne, Nat.max_comm 1,
    eq_comm (a := n)]

lemma atLeastOne_eq_error_iff : ((Unsigned.ofText? t).mapError fault).map atLeastOne = .error e ↔
    ∃ cause, Unsigned.ofText? t = .error cause ∧ fault cause = e := by
  rw [map_eq_error_iff, mapError_eq_error_iff]

end Numbers

lemma reads_standIn_iff {d : String} (h : s.standIn? = some d) {v : s.Value} :
    (∃ text, s.text? lookup = some text ∧ s.Reads text v) ↔
      s.Reads ((lookup s.variableName).getD d) v := by
  rw [text?_eq h]
  simp

lemma text?_of_required (h : s.standIn? = none) : s.text? lookup = lookup s.variableName := by
  rw [text?, h, Option.or_none]

lemma check_eq_ok_iff {v : s.Value} :
    check lookup s = .ok v ↔ ∃ text, s.text? lookup = some text ∧ s.Reads text v := by
  cases s with
  | listenAddress =>
    rw [reads_standIn_iff rfl, check, listenAddress?_eq_ok_iff]
    rfl
  | profileKey =>
    rw [text?_of_required rfl, check, profileKey?_eq_ok_iff]
    rfl
  | registryUrl =>
    rw [text?_of_required rfl, check, registryUrl?_eq_ok_iff]
    rfl
  | registryTimeout =>
    rw [reads_standIn_iff rfl, check, numberOr_eq ofText?_ten, atLeastOne_eq_ok_iff]
    rfl
  | cacheMaxEntries =>
    rw [reads_standIn_iff rfl, check, numberOr_eq ofText?_thousand, atLeastOne_eq_ok_iff]
    rfl
  | cacheLifetime =>
    rw [reads_standIn_iff rfl, check, numberOr_eq ofText?_ten]
    simp only [bind_eq_ok_iff, mapError_eq_ok_iff, Unsigned.ofText?_eq_ok_iff, lifetime?_eq_ok_iff]
    rfl
  | strategy =>
    rw [reads_standIn_iff rfl, check, namedOr_eq ofName?_strict, mapError_eq_ok_iff,
      Strategy.ofName?_eq_ok_iff]
    rfl
  | reportMode =>
    rw [reads_standIn_iff rfl, check, reportMode?_eq, reportMode?_eq_ok_iff]
    rfl
  | identifierSystem =>
    rw [reads_standIn_iff rfl, check, namedOr_eq ofName?_inMemory, mapError_eq_ok_iff,
      IdentifierSystem.ofName?_eq_ok_iff]
    rfl

lemma check_eq_error_iff : check lookup s = .error e ↔ s.Fault (s.text? lookup) e := by
  cases s with
  | listenAddress =>
    rw [text?_eq rfl, check, listenAddress?_eq_error_iff]
    constructor
    · rintro ⟨h, rfl⟩
      exact .noAddress h
    · intro h
      cases h with
      | noAddress h => exact ⟨h, rfl⟩
  | profileKey =>
    rw [text?_of_required rfl, check, variableName]
    cases lookup "PIT_PROFILE_KEY" with
    | none =>
      constructor
      · intro h
        cases h
        exact .noKey
      · intro h
        cases h
        rfl
    | some t =>
      constructor
      · intro h
        rw [profileKey?] at h
        split_ifs at h with hblank
        cases h
        exact .blankKey (trim_eq_empty_iff.1 hblank)
      · intro h
        cases h with
        | blankKey h => exact if_pos (trim_eq_empty_iff.2 h)
  | registryUrl =>
    rw [text?_of_required rfl, check, variableName]
    cases lookup "PIT_TYPE_REGISTRY_URL" with
    | none =>
      constructor
      · intro h
        cases h
        exact .noUrl
      · intro h
        cases h
        rfl
    | some t =>
      rw [registryUrl?, bind_eq_error_iff, mapError_eq_error_iff]
      simp only [mapError_eq_ok_iff]
      constructor
      · rintro (⟨cause, hcause, rfl⟩ | ⟨url, hurl, h⟩)
        · exact .brokenUrl hcause
        · split_ifs at h with hscheme
          cases h
          obtain ⟨hhttp, hhttps⟩ := not_or.1 hscheme
          exact .otherScheme hurl hhttp hhttps
      · intro h
        cases h with
        | brokenUrl hcause => exact .inl ⟨_, hcause, rfl⟩
        | otherScheme hurl hhttp hhttps => exact .inr ⟨_, hurl, if_neg (not_or.2 ⟨hhttp, hhttps⟩)⟩
  | registryTimeout =>
    rw [text?_eq rfl, check, numberOr_eq ofText?_ten, atLeastOne_eq_error_iff]
    constructor
    · rintro ⟨cause, h, rfl⟩
      exact .badTimeout h
    · intro h
      cases h with
      | badTimeout h => exact ⟨_, h, rfl⟩
  | cacheMaxEntries =>
    rw [text?_eq rfl, check, numberOr_eq ofText?_thousand, atLeastOne_eq_error_iff]
    constructor
    · rintro ⟨cause, h, rfl⟩
      exact .badMaxEntries h
    · intro h
      cases h with
      | badMaxEntries h => exact ⟨_, h, rfl⟩
  | cacheLifetime =>
    rw [text?_eq rfl, check, numberOr_eq ofText?_ten, bind_eq_error_iff, mapError_eq_error_iff]
    simp only [mapError_eq_ok_iff, Unsigned.ofText?_eq_ok_iff, lifetime?_eq_error_iff]
    constructor
    · rintro (⟨cause, h, rfl⟩ | ⟨minutes, hminutes, hlarge, rfl⟩)
      · exact .badLifetime h
      · exact .longLifetime hminutes hlarge
    · intro h
      cases h with
      | badLifetime h => exact .inl ⟨_, h, rfl⟩
      | longLifetime hminutes hlarge => exact .inr ⟨_, hminutes, hlarge, rfl⟩
  | strategy =>
    rw [text?_eq rfl, check, namedOr_eq ofName?_strict, mapError_eq_error_iff]
    simp only [eq_error_iff fun _ => Strategy.eq_of_ofName?, ne_eq, Strategy.ofName?_eq_ok_iff]
    constructor
    · rintro ⟨_, ⟨h, rfl⟩, rfl⟩
      exact .otherStrategy h
    · intro h
      cases h with
      | otherStrategy h => exact ⟨_, ⟨h, rfl⟩, rfl⟩
  | reportMode =>
    rw [text?_eq rfl, check, reportMode?_eq, eq_error_iff fun _ => eq_of_reportMode?]
    simp only [ne_eq, reportMode?_eq_ok_iff]
    constructor
    · rintro ⟨h, rfl⟩
      exact .otherMode h
    · intro h
      cases h with
      | otherMode h => exact ⟨h, rfl⟩
  | identifierSystem =>
    rw [text?_eq rfl, check, namedOr_eq ofName?_inMemory, mapError_eq_error_iff]
    simp only [eq_error_iff fun _ => IdentifierSystem.eq_of_ofName?, ne_eq,
      IdentifierSystem.ofName?_eq_ok_iff]
    constructor
    · rintro ⟨_, ⟨h, rfl⟩, rfl⟩
      exact .otherSystem h
    · intro h
      cases h with
      | otherSystem h => exact ⟨_, ⟨h, rfl⟩, rfl⟩

end Checks

section Order

/-- The settings are looked at one after the other. The log level can be anything. -/
lemma ofVariables_eq (lookup : String → Option String) : ofVariables lookup = do
    let listenAddress ← check lookup .listenAddress
    let profileKey ← check lookup .profileKey
    let registryUrl ← check lookup .registryUrl
    let registryTimeoutSeconds ← check lookup .registryTimeout
    let cacheMaxEntries ← check lookup .cacheMaxEntries
    let cacheLifetimeSeconds ← check lookup .cacheLifetime
    let strategy ← check lookup .strategy
    let reportMode ← check lookup .reportMode
    let identifierSystem ← check lookup .identifierSystem
    return {
      logLevel := (lookup "PIT_LOG_LEVEL").getD "info"
      listenAddress, profileKey, registryUrl, registryTimeoutSeconds, cacheMaxEntries
      cacheLifetimeSeconds, strategy, reportMode, identifierSystem } := by
  -- Bounds from below are taken at the end there, and minutes become seconds in a step of their own.
  unfold ofVariables
  refine bind_congr fun listenAddress => bind_congr fun profileKey => bind_congr fun registryUrl => ?_
  refine Eq.trans (bind_congr fun timeout => ?_) (map_bind_eq _ atLeastOne _).symm
  refine Eq.trans (bind_congr fun maxEntries => ?_) (map_bind_eq _ atLeastOne _).symm
  exact (bind_assoc _ _ _).symm

lemma failure?_check_bind {f : s.Value → Except ConfigError Config} {later : List Setting}
    (h : ∀ v, failure? (f v) = later.findSome? fun u => failure? (check lookup u)) :
    failure? (check lookup s >>= f) = (s :: later).findSome? fun u => failure? (check lookup u) := by
  rw [findSome?_cons_eq_or]
  exact failure?_bind fun v _ => h v

lemma failure?_ofVariables (lookup : String → Option String) :
    failure? (ofVariables lookup) = order.findSome? fun s => failure? (check lookup s) := by
  rw [ofVariables_eq]
  exact failure?_check_bind fun _ => failure?_check_bind fun _ => failure?_check_bind fun _ =>
    failure?_check_bind fun _ => failure?_check_bind fun _ => failure?_check_bind fun _ =>
    failure?_check_bind fun _ => failure?_check_bind fun _ => failure?_check_bind fun _ => rfl

lemma ofVariables_eq_ok_iff : ofVariables lookup = .ok c ↔
    c.logLevel = (lookup "PIT_LOG_LEVEL").getD "info" ∧ ∀ s, check lookup s = .ok (c.value s) := by
  rw [ofVariables_eq]
  constructor
  · intro h
    simp only [bind_eq_ok_iff] at h
    obtain ⟨_, hlistenAddress, _, hprofileKey, _, hregistryUrl, _, hregistryTimeout, _, hcacheMaxEntries,
      _, hcacheLifetime, _, hstrategy, _, hreportMode, _, hidentifierSystem, hc⟩ := h
    cases hc
    refine ⟨rfl, fun s => ?_⟩
    cases s <;> assumption
  · rintro ⟨hlog, h⟩
    rw [h, ok_bind, h, ok_bind, h, ok_bind, h, ok_bind, h, ok_bind, h, ok_bind, h, ok_bind, h, ok_bind, h,
      ok_bind, ← hlog]
    rfl

lemma failure?_check_eq_none_iff : failure? (check lookup s) = none ↔ Sound lookup s := by
  simp only [failure?_eq_none_iff, check_eq_ok_iff]
  exact ⟨fun ⟨v, text, htext, h⟩ => ⟨text, htext, v, h⟩, fun ⟨text, htext, v, h⟩ => ⟨v, text, htext, h⟩⟩

lemma mem_order (s : Setting) : s ∈ order := by
  cases s <;> decide

/-- The service is configured if and only if every setting is sound, and each setting is then what its text
says. Otherwise the first setting that is not sound is reported, by its own fault. -/
theorem config_or_first_fault (lookup : String → Option String) :
    ((∃ c, ofVariables lookup = .ok c) ↔ ∀ s, Sound lookup s) ∧
    (∀ c, ofVariables lookup = .ok c ↔ c.logLevel = (lookup "PIT_LOG_LEVEL").getD "info" ∧
      ∀ s : Setting, ∃ text, s.text? lookup = some text ∧ s.Reads text (c.value s)) ∧
    ∀ e, ofVariables lookup = .error e ↔ ∃ before s after, order = before ++ s :: after ∧
      (∀ u ∈ before, Sound lookup u) ∧ s.Fault (s.text? lookup) e := by
  refine ⟨?_, fun c => ?_, fun e => ?_⟩
  · rw [← failure?_eq_none_iff, failure?_ofVariables, List.findSome?_eq_none_iff]
    simp only [mem_order, failure?_check_eq_none_iff, forall_const]
  · rw [ofVariables_eq_ok_iff]
    simp only [check_eq_ok_iff]
  · rw [← failure?_eq_some_iff, failure?_ofVariables, List.findSome?_eq_some_iff]
    simp only [failure?_eq_some_iff, check_eq_error_iff, failure?_check_eq_none_iff, and_comm]

end Order

end Config
end TypedPid
