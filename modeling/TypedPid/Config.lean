import TypedPid.Address.Socket
import TypedPid.Cache.Entries
import TypedPid.Text.Unsigned
import TypedPid.Unicode.Lowercase
import TypedPid.Url.Reader
import TypedPid.Validation

/-!
The configuration of the service, from variables that may or may not be set. They are looked at in a
fixed order, and the first one that does not fit is reported.
-/
namespace TypedPid

inductive Strategy where
  | strict
  | acceptAll
deriving DecidableEq

inductive IdentifierSystem where
  | inMemory
deriving DecidableEq

inductive UnknownName where
  | strategy (name : String)
  | identifierSystem (name : String)

namespace UnknownName

def message : UnknownName → String
  | strategy name =>
    "unknown validation strategy '" ++ name ++ "' (expected embedded-strict or none-debug)"
  | identifierSystem name => "unknown identifier system '" ++ name ++ "' (expected in-memory)"

end UnknownName

namespace Strategy

/-- Case and the blanks around a name do not count. -/
def ofName? (name : String) : Except UnknownName Strategy :=
  let name := Unicode.toLowercase (Unicode.trim name)
  if name = "embedded-strict" then .ok strict
  else if name = "none-debug" then .ok acceptAll
  else .error (.strategy name)

end Strategy

namespace IdentifierSystem

/-- Case and the blanks around a name do not count. -/
def ofName? (name : String) : Except UnknownName IdentifierSystem :=
  let name := Unicode.toLowercase (Unicode.trim name)
  if name = "in-memory" ∨ name = "in_memory" then .ok inMemory
  else .error (.identifierSystem name)

end IdentifierSystem

structure Config where
  listenAddress : SocketAddress
  logLevel : String
  profileKey : String
  registryUrl : Url
  registryTimeoutSeconds : Nat
  cacheMaxEntries : Nat
  /-- How many seconds a definition is kept; none if it is kept for ever. -/
  cacheLifetimeSeconds : Option Nat
  strategy : Strategy
  reportMode : ReportMode
  identifierSystem : IdentifierSystem

inductive ConfigError where
  | listenAddress
  | missingProfileKey
  | blankProfileKey
  | missingRegistryUrl
  | registryUrl (cause : UrlError)
  | registryScheme
  | registryTimeout (cause : NumberError)
  | cacheMaxEntries (cause : NumberError)
  | cacheLifetime (cause : NumberError)
  | cacheLifetimeTooLarge
  | reportMode (name : String)
  | unknownName (cause : UnknownName)

namespace ConfigError

def message : ConfigError → String
  | listenAddress => "PIT_LISTEN_ADDR must be a socket address."
  | missingProfileKey => "Missing profile key. Set PIT_PROFILE_KEY."
  | blankProfileKey => "PIT_PROFILE_KEY cannot be blank."
  | missingRegistryUrl => "Missing type registry URL. Set PIT_TYPE_REGISTRY_URL."
  | registryUrl _ => "PIT_TYPE_REGISTRY_URL must be an absolute URL."
  | registryScheme => "PIT_TYPE_REGISTRY_URL must use http or https."
  | registryTimeout _ => "PIT_TYPE_REGISTRY_TIMEOUT_SECS must be an integer (seconds)."
  | cacheMaxEntries _ => "PIT_CACHE_MAX_ENTRIES must be an integer."
  | cacheLifetime _ => "PIT_CACHE_EXPIRE_MINUTES must be an integer (minutes)."
  | cacheLifetimeTooLarge => "PIT_CACHE_EXPIRE_MINUTES is too large."
  | reportMode name => "PIT_VALIDATION_REPORT must be fail-fast or aggregate, got '" ++ name ++ "'."
  | unknownName cause => cause.message

def causes : ConfigError → List String
  | listenAddress => ["invalid socket address syntax"]
  | registryUrl cause => [cause.message]
  | registryTimeout cause => [cause.message]
  | cacheMaxEntries cause => [cause.message]
  | cacheLifetime cause => [cause.message]
  | _ => []

end ConfigError

namespace Config

def numberOr (default : Nat) (fault : NumberError → ConfigError) (text : Option String) :
    Except ConfigError Nat :=
  match text with
  | none => .ok default
  | some text => (Unsigned.ofText? text).mapError fault

def listenAddress? (text : Option String) : Except ConfigError SocketAddress :=
  match SocketAddress.ofText? (text.getD "127.0.0.1:8090") with
  | none => .error .listenAddress
  | some address => .ok address

def profileKey? (text : Option String) : Except ConfigError String :=
  match text with
  | none => .error .missingProfileKey
  | some key => if Unicode.trim key = "" then .error .blankProfileKey else .ok key

def registryUrl? (text : Option String) : Except ConfigError Url :=
  match text with
  | none => .error .missingRegistryUrl
  | some text => do
    let url ← (Url.ofText? text).mapError .registryUrl
    if url.scheme = "http" ∨ url.scheme = "https" then .ok url else .error .registryScheme

/-- The lifetime in seconds; of no minutes, there is none. -/
def lifetime? (minutes : Nat) : Except ConfigError (Option Nat) :=
  if Nat.pow 2 64 ≤ minutes * 60 then .error .cacheLifetimeTooLarge
  else .ok (if minutes = 0 then none else some (minutes * 60))

def reportMode? (text : Option String) : Except ConfigError ReportMode :=
  match text.map Unicode.trim with
  | none => .ok .failFast
  | some name =>
    if name = "fail-fast" then .ok .failFast
    else if name = "aggregate" then .ok .aggregate
    else .error (.reportMode name)

def namedOr (default : α) (ofName? : String → Except UnknownName α) (text : Option String) :
    Except ConfigError α :=
  match text with
  | none => .ok default
  | some text => (ofName? text).mapError .unknownName

def ofVariables (lookup : String → Option String) : Except ConfigError Config := do
  let listenAddress ← listenAddress? (lookup "PIT_LISTEN_ADDR")
  let logLevel := (lookup "PIT_LOG_LEVEL").getD "info"
  let profileKey ← profileKey? (lookup "PIT_PROFILE_KEY")
  let registryUrl ← registryUrl? (lookup "PIT_TYPE_REGISTRY_URL")
  let timeout ← numberOr 10 .registryTimeout (lookup "PIT_TYPE_REGISTRY_TIMEOUT_SECS")
  let maxEntries ← numberOr 1000 .cacheMaxEntries (lookup "PIT_CACHE_MAX_ENTRIES")
  let minutes ← numberOr 10 .cacheLifetime (lookup "PIT_CACHE_EXPIRE_MINUTES")
  let cacheLifetimeSeconds ← lifetime? minutes
  let strategy ← namedOr .strict Strategy.ofName? (lookup "PIT_VALIDATION_STRATEGY")
  let reportMode ← reportMode? (lookup "PIT_VALIDATION_REPORT")
  let identifierSystem ←
    namedOr .inMemory IdentifierSystem.ofName? (lookup "PIT_PIDSYSTEM_IMPLEMENTATION")
  return {
    listenAddress, logLevel, profileKey, registryUrl
    registryTimeoutSeconds := max timeout 1
    cacheMaxEntries := max maxEntries 1
    cacheLifetimeSeconds, strategy, reportMode, identifierSystem }

/-- The settings of the cache. A load may take as long as a single request to the registry. -/
def cache (c : Config) : Cache.Config where
  maxEntries := c.cacheMaxEntries
  lifetime := c.cacheLifetimeSeconds.map .ofSeconds
  loadTimeout := .ofSeconds c.registryTimeoutSeconds

end Config
end TypedPid
