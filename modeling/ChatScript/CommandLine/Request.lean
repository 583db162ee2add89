import ChatScript.CommandLine.Options

/-!
# Requests

What a command line asks for: one of five commands, a configuration file and a log file. The two
files can be named in front of the command and behind it; behind it counts more.
-/

namespace ChatScript.CommandLine

/-- How a script is to be run. -/
structure RunRequest where
  script : Option String
  user : String
  channel : String
  command : String
  builtins : List (String × String)
  template : Bool
  json : Bool
  counters : Option String
  args : List String
  deriving DecidableEq, Repr

/-- A command with its operands. -/
inductive Task where
  /-- Parses a script and reports what is wrong with it. -/
  | check (script : Option String)
  /-- Prints a script in its canonical form. -/
  | format (script : Option String)
  /-- Runs a script or a template once. -/
  | run (request : RunRequest)
  /-- Answers chat lines with the commands of a file. -/
  | chat (commands channel : String)
  /-- Shows the settings, and may keep them. -/
  | config (init : Bool)
  deriving DecidableEq, Repr

/-- Everything that a command line asks for. -/
structure Request where
  config : Option String
  logFile : Option String
  task : Task
  deriving DecidableEq, Repr

/-- The options that can stand in front of a command and behind it. -/
def sharedSpecs : List OptionSpec :=
  [⟨"config", some 'c', true⟩, ⟨"log-file", none, true⟩, ⟨"help", some 'h', false⟩]

/-- The options in front of a command. -/
def frontSpecs : List OptionSpec :=
  ⟨"version", some 'V', false⟩ :: sharedSpecs

/-- The options of the command `run`. -/
def runSpecs : List OptionSpec :=
  [⟨"user", some 'u', true⟩, ⟨"channel", none, true⟩, ⟨"command", none, true⟩,
    ⟨"builtin", some 'b', true⟩, ⟨"template", some 't', false⟩, ⟨"json", none, false⟩,
    ⟨"counters", none, true⟩] ++ sharedSpecs

/-- The options of the command `chat`. -/
def chatSpecs : List OptionSpec :=
  [⟨"commands", none, true⟩, ⟨"channel", none, true⟩] ++ sharedSpecs

/-- The options of the command `config`. -/
def configSpecs : List OptionSpec :=
  ⟨"init", none, false⟩ :: sharedSpecs

/-- The channel of a command unless another one is named. -/
def defaultChannel : String := "#botscript"

/-- Reads `NAME=VALUE`. -/
def readBuiltin (word : String) : Except Usage (String × String) :=
  match Text.cutAt? '=' word.toList with
  | none | some ([], _) => .error .wrong
  | some (name, value) => .ok (String.ofList name, String.ofList value)

/-- Refuses operands where there are none to be. -/
def noOperands (items : List Item) : Except Usage Unit :=
  if operandsOf items ++ trailingOf items = [] then .ok () else .error .wrong

/-- The script that the operands name, in front of two dashes or behind them. -/
def scriptOf (items : List Item) : Except Usage (Option String) :=
  onePath (operandsOf items ++ trailingOf items)

/-- Reads the options and operands of `run`. Words behind two dashes are arguments. -/
def readRun (items : List Item) : Except Usage RunRequest := do
  let script ← onePath (operandsOf items)
  let user ← single? items "user"
  let channel ← single? items "channel"
  let command ← single? items "command"
  let builtins ← (valuesOf items "builtin").mapM readBuiltin
  let template ← isGiven items "template"
  let json ← isGiven items "json"
  let counters ← singlePath? items "counters"
  .ok {
    script
    user := user.getD "viewer"
    channel := channel.getD defaultChannel
    command := command.getD "run"
    builtins
    template
    json
    counters
    args := trailingOf items }

/-- Reads the options of `chat`. -/
def readChat (items : List Item) : Except Usage Task := do
  noOperands items
  let commands ← singlePath? items "commands"
  let channel ← single? items "channel"
  let commands ← required items commands
  .ok (.chat commands (channel.getD defaultChannel))

/-- The options that a command knows, and how its items are read. -/
def commandNamed (name : String) :
    Except Usage (List OptionSpec × (List Item → Except Usage Task)) :=
  if name = "check" then .ok (sharedSpecs, fun items => Task.check <$> scriptOf items)
  else if name = "fmt" then .ok (sharedSpecs, fun items => Task.format <$> scriptOf items)
  else if name = "run" then .ok (runSpecs, fun items => Task.run <$> readRun items)
  else if name = "chat" then .ok (chatSpecs, readChat)
  else if name = "config" then
    .ok (configSpecs, fun items => do
      noOperands items
      Task.config <$> isGiven items "init")
  else .error .wrong

/-- The names of the commands, with the one that explains the others. -/
def commandNames : List String :=
  ["check", "fmt", "run", "chat", "config", "help"]

/-- What asking for help on the given words leads to: they have to name at most one command. -/
def helpOn : List String → Usage
  | [] => .help
  | [name] => if name ∈ commandNames then .help else .wrong
  | _ => .wrong

/-- Reads a command line. `configFile` is the configuration that the environment names. -/
def Request.read (configFile : Option String) (words : List String) : Except Usage Request := do
  let front ← readItems frontSpecs true none words
  let frontConfig ← singlePath? front "config"
  let frontLog ← singlePath? front "log-file"
  answerQuestion front
  match commandOf? front with
  | none => .error .wrong
  | some ("help", words) => .error (helpOn words)
  | some (name, words) =>
    let (specs, readTask) ← commandNamed name
    let items ← readItems specs false none words
    let config ← singlePath? items "config"
    let logFile ← singlePath? items "log-file"
    let task ← readTask items
    answerQuestion items
    let config ← checkedPath (config <|> frontConfig <|> configFile)
    .ok { config, logFile := logFile <|> frontLog, task }

end ChatScript.CommandLine
