import ChatScript.CommandLine.Trouble
import ChatScript.Json.Decode
import ChatScript.Json.Printer
import ChatScript.Json.Reader
import ChatScript.Program.Parser

/-!
# Configuration

Settings that apply to every command, kept as JSON in the directory of the program. Every setting
is optional, and without a file the defaults apply.
-/

namespace ChatScript

/-- The directories that the environment names. -/
structure Environment where
  /-- The directory of the program, if one is set. -/
  stateHome : Option String
  /-- The home directory of the user. -/
  userHome : Option String
  /-- The configuration file to use, if one is set. -/
  configFile : Option String

namespace Environment

/-- The directory that settings and counts are kept in. -/
def directory (environment : Environment) : String :=
  match environment.stateHome with
  | some directory => directory
  | none => Path.join (environment.userHome.getD ".") ".botscript"

/-- Where the configuration is kept. -/
def configPath (environment : Environment) : String :=
  Path.join environment.directory "config.json"

/-- Where counts are kept unless the configuration says otherwise. -/
def countersPath (environment : Environment) : String :=
  Path.join environment.directory "counters.json"

end Environment

/-- The settings. -/
structure Config where
  /-- How many blocks a script may have open at once. -/
  maxNestingDepth : Option Nat
  /-- Builtins with fixed values that every command can refer to. -/
  builtins : Std.ExtTreeMap String String
  /-- The file that counts are kept in. -/
  countersFile : Option String
  /-- The text that a message has to start with to invoke a command. -/
  sigil : String
  deriving DecidableEq

namespace Config

/-- The settings that apply without a configuration. -/
def standard : Config :=
  ⟨none, ∅, none, "!"⟩

/-- The number of blocks that a script may have open at once. -/
def maxDepth (config : Config) : Nat :=
  config.maxNestingDepth.getD defaultDepth

/-- The file that counts are kept in. -/
def countersPath (config : Config) (environment : Environment) : String :=
  config.countersFile.getD environment.countersPath

/-- The JSON form of the settings. Settings without a value are left out. -/
def toJson (config : Config) : Json :=
  Json.ofFields
    [("max_nesting_depth", config.maxNestingDepth.map fun depth => .integer depth),
      ("builtins",
        if config.builtins.isEmpty then none
        else some (Json.ofDictionary .ofString config.builtins)),
      ("counters_path", config.countersFile.map .ofString),
      ("command_prefix", some (.ofString config.sigil))]

/-- The settings that a JSON value holds. -/
def ofJson? (json : Json) : Option Config := do
  let fields ← json.fields? ["max_nesting_depth", "builtins", "counters_path", "command_prefix"]
  let maxNestingDepth ← fields.optional? "max_nesting_depth" Json.size?
  let builtins ← fields.withDefault? "builtins" (Json.dictionary? Json.string?) standard.builtins
  let countersFile ← fields.optional? "counters_path" Json.string?
  let sigil ← fields.withDefault? "command_prefix" Json.string? standard.sigil
  pure { maxNestingDepth, builtins, countersFile, sigil }

/-- The text that the settings are kept in. -/
def render (config : Config) : String :=
  config.toJson.render

/-- The settings that a text holds. -/
def read? (document : String) : Option Config :=
  (Json.read? document).bind ofJson?

variable {m : Type → Type} [Monad m] [Disk m]

/-- The settings of the environment, or the defaults if there are none that can be read. -/
def load (environment : Environment) : m Config := do
  match ← Disk.read environment.configPath with
  | .ok content => pure ((read? content).getD standard)
  | .error _ => pure standard

/-- The settings of a file, which has to be there and to be valid. -/
def loadFrom (path : String) : m (Except Trouble Config) := do
  match ← Disk.read path with
  | .error fault => pure (.error (.config (.unreadable path fault)))
  | .ok content =>
    match read? content with
    | some config => pure (.ok config)
    | none => pure (.error (.config (.invalid path)))

/-- Keeps settings for the environment. -/
def save (config : Config) (environment : Environment) : m (Except DiskFault Unit) := do
  match ← Disk.makeDirectories environment.directory with
  | .error fault => pure (.error fault)
  | .ok () => Disk.write environment.configPath config.render

end Config

end ChatScript
