import Coffer.Config
import Coffer.Setting.Documents
import Coffer.Setting.Toml
import Coffer.Setting.Yaml
/-!
# Sources of the configuration

A file, in one of three formats, is laid over the settings that hold where nothing else is said, and
variables of the environment are laid over both. The name of a variable is a mark and the path of
keys, with two underscores or a point between any two parts, in either case.
-/

namespace Coffer

inductive ConfigError where
  | unreadable
  | invalid (detail : String)
  deriving DecidableEq, Repr

def ConfigError.message : ConfigError → String
  | .unreadable => "failed to load configuration"
  | .invalid detail => s!"invalid configuration: {detail}"

/-- The format of a configuration file. -/
inductive ConfigFormat where
  | json
  | toml
  | yaml
  deriving DecidableEq, Repr

def ConfigFormat.read? : ConfigFormat → String → Option Setting
  | .json => Setting.readJson?
  | .toml => Toml.read?
  | .yaml => Yaml.read?

namespace Config

/-- What the variables of the configuration have in front, in lower case. -/
def environmentMark : List Char := "strongbox__".toList

/-- The pieces of a name between two underscores or at a point. -/
def keysOf (name : List Char) : List String :=
  ((String.ofList name).splitOn "__").flatMap fun piece => piece.splitOn "."

/-- The setting of a variable, if it is one of the configuration. -/
def ofVariable? (name value : String) : Option Setting :=
  let name := Text.lower name.toList
  if environmentMark.isPrefixOf name then
    some (Setting.nested (keysOf (name.drop environmentMark.length)) (.text value))
  else none

def withEnvironment (environment : List (String × String)) (setting : Setting) : Setting :=
  (environment.filterMap fun entry => ofVariable? entry.1 entry.2).foldl Setting.overlay setting

/-- The device of a setting: its two fields by name or in order. -/
def deviceOf? : Setting → Option Device
  | .table entries => do
    let system ← (← Setting.lookup "os_type" entries).text?
    let appVersion ← (← Setting.lookup "app_version" entries).text?
    some ⟨system, appVersion⟩
  | .list (system :: appVersion :: _) => do some ⟨← system.text?, ← appVersion.text?⟩
  | _ => none

def optionalDevice? : Setting → Option (Option Device)
  | .absent => some none
  | setting => (deviceOf? setting).map some

/-- The value of a key, or what holds where it is not given. -/
def valueOf? {α : Type} (entries : List (String × Setting)) (key : String)
    (read : Setting → Option α) (standard : α) : Option α :=
  match Setting.lookup key entries with
  | none => some standard
  | some setting => read setting

/-- The settings of a table; keys that are not known do not matter. -/
def ofTable? (entries : List (String × Setting)) : Option Config := do
  return {
    iterations := ← valueOf? entries "pbkdf2_iterations" Setting.word32? standard.iterations
    lookahead := ← valueOf? entries "sync_lookahead" Setting.word32? standard.lookahead
    recoveryGap := ← valueOf? entries "recovery_gap" Setting.word32? standard.recoveryGap
    device := ← valueOf? entries "device" optionalDevice? standard.device
    logLevel := ← valueOf? entries "log_level" Setting.text? standard.logLevel
    logFormat := ← valueOf? entries "log_format" Setting.text? standard.logFormat }

/-- The table that a file holds; without a file it is empty. -/
def fileEntries? : Option (ConfigFormat × String) → Option (List (String × Setting))
  | none => some []
  | some (format, text) =>
    match format.read? text with
    | some (.table entries) => some entries
    | _ => none

def load (file : Option (ConfigFormat × String)) (environment : List (String × String)) :
    Except ConfigError Config :=
  let config := do
    let entries ← fileEntries? file
    ofTable? (withEnvironment environment (.table entries)).entries
  match config with
  | none => .error .unreadable
  | some config =>
    match config.check with
    | .ok _ => .ok config
    | .error detail => .error (.invalid detail)

end Config

end Coffer
