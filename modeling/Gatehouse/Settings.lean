import Gatehouse.Environment.Basic

/-!
# The settings of the program

All settings come from the environment; most have a default.  `Settings.ofEnvironment` reads them
and `Settings.check` finds what contradicts itself or means nothing.
-/

set_option autoImplicit false

namespace Gatehouse

open Setting

/-- How the database is reached. -/
structure DatabaseSettings where
  /-- Where it is. -/
  url : Option String
  /-- The greatest number of connections. -/
  maxConnections : Nat
  /-- The least number of connections. -/
  minConnections : Nat
  /-- For how many seconds a connection is waited for. -/
  acquireTimeout : Nat
  /-- After how many seconds an idle connection is closed. -/
  idleTimeout : Nat
  /-- After how many seconds any connection is closed. -/
  maxLifetime : Nat
deriving DecidableEq, Repr

/-- How the log is written. -/
structure LoggingSettings where
  /-- The least level that is written. -/
  level : String
  /-- The format. -/
  format : String
deriving DecidableEq, Repr

/-- The settings of the program. -/
structure Settings where
  /-- How the database is reached. -/
  database : DatabaseSettings
  /-- How the log is written. -/
  logging : LoggingSettings
  /-- The file with further scenarios. -/
  templates : Option String
deriving DecidableEq, Repr

/-! ## Reading -/

/-- Reads the settings of the database. -/
def DatabaseSettings.ofSetting (s : Setting) : Except Fault DatabaseSettings := do
  let l : Layout := ⟨"DatabaseConfig", 6⟩
  return {
    url := ← l.take s (.optional 0 "url" toText)
    maxConnections := ← l.take s (.required 1 "max_connections" toUint32)
    minConnections := ← l.take s (.required 2 "min_connections" toUint32)
    acquireTimeout := ← l.take s (.required 3 "acquire_timeout_secs" toUint64)
    idleTimeout := ← l.take s (.required 4 "idle_timeout_secs" toUint64)
    maxLifetime := ← l.take s (.required 5 "max_lifetime_secs" toUint64) }

/-- Reads the settings of the log. -/
def LoggingSettings.ofSetting (s : Setting) : Except Fault LoggingSettings := do
  let l : Layout := ⟨"LoggingConfig", 2⟩
  return {
    level := ← l.take s (.required 0 "level" toText)
    format := ← l.take s (.required 1 "format" toText) }

/-- Reads the settings of the templates. -/
def templatesOf (s : Setting) : Except Fault (Option String) :=
  let l : Layout := ⟨"TemplatesConfig", 1⟩
  l.take s (.optional 0 "path" toText)

namespace Settings

/-- Reads the settings. -/
def ofSetting (s : Setting) : Except Fault Settings := do
  let l : Layout := ⟨"AppConfig", 3⟩
  return {
    database := ← l.take s (.required 0 "database" DatabaseSettings.ofSetting)
    logging := ← l.take s (.required 1 "logging" LoggingSettings.ofSetting)
    templates := ← l.take s (.defaulted 2 "templates" templatesOf none) }

/-- What holds where the environment says nothing. -/
def defaults : List (String × Scalar) :=
  [("database.max_connections", .integer 4), ("database.min_connections", .integer 1),
   ("database.acquire_timeout_secs", .integer 10), ("database.idle_timeout_secs", .integer 300),
   ("database.max_lifetime_secs", .integer 1800), ("logging.level", .text "info"),
   ("logging.format", .text "compact")]

/-- The default settings. -/
def base : Setting := Setting.empty.putAll (defaults.map fun (key, v) => (key, .scalar none v))

/-- Reads the settings from the environment. -/
def ofEnvironment (e : Environment) : Except Fault Settings :=
  ofSetting (base.putAll e.settings)

/-! ## Checking -/

/-- The levels of the log. -/
def levels : List String := ["trace", "debug", "info", "warn", "error"]

/-- The formats of the log. -/
def formats : List String := ["json", "pretty", "compact"]

/-- Complains about a word that is not among the allowed ones, in letters of either case. -/
def checkWord (field value : String) (allowed : List String) : Except Fault Unit :=
  if lowercase value ∈ allowed then .ok () else .error (.notOneOf field value allowed)

/-- Complains about bounds that leave no room for a connection. -/
def checkPool (d : DatabaseSettings) : Except Fault Unit :=
  if d.maxConnections = 0 ∨ d.maxConnections < d.minConnections then
    .error (.poolBounds d.minConnections d.maxConnections)
  else .ok ()

/-- Complains about a file of templates that does not exist. -/
def checkTemplates (isFile : String → Bool) : Option String → Except Fault Unit
  | some path => if isFile path then .ok () else .error (.noTemplates path)
  | none => .ok ()

/-- Complains about the first thing that is wrong with the settings. -/
def check (s : Settings) (isFile : String → Bool) : Except Fault Unit := do
  checkPool s.database
  checkWord "logging.level" s.logging.level levels
  checkWord "logging.format" s.logging.format formats
  checkTemplates isFile s.templates

/-- The settings from the environment, if nothing is wrong with them. -/
def load (e : Environment) (isFile : String → Bool) : Except Fault Settings := do
  let s ← ofEnvironment e
  s.check isFile
  return s

end Settings

end Gatehouse
