import ChatScript.Chat.Session
import ChatScript.CommandLine.Request
import ChatScript.Config
import ChatScript.CounterFile
import ChatScript.Program.Printer

/-!
# The command line

What the commands do. They are written for any monad that offers files, standard input and output
and the contributions of the world to a run, so the same definitions work on a real disk and on
files in memory.
-/

namespace ChatScript

/-- Standard input and output. -/
class Console (m : Type → Type) where
  /-- All of standard input. -/
  input : m String
  /-- Writes to standard output. -/
  print : String → m Unit
  /-- Writes to standard error. -/
  report : String → m Unit

/-- What the world contributes: random numbers and the time. -/
class World (m : Type → Type) where
  /-- Fresh random numbers and the age of the program. -/
  moment : m Chat.Moment

instance {σ : Type} {m : Type → Type} [Monad m] [Console m] : Console (StateT σ m) where
  input := StateT.lift Console.input
  print content := StateT.lift (Console.print content)
  report content := StateT.lift (Console.report content)

instance {σ : Type} {m : Type → Type} [Monad m] [World m] : World (StateT σ m) where
  moment := StateT.lift World.moment

namespace CommandLine

variable {m : Type → Type} [Monad m] [Disk m] [Console m] [World m]

/-- A command as it is carried out: it may fail. -/
abbrev Action (m : Type → Type) := ExceptT Trouble m

/-- The result of an operation on a file. -/
def onDisk {α : Type} (result : m (Except DiskFault α)) : Action m α :=
  ExceptT.mk ((·.mapError Trouble.disk) <$> result)

/-- The text of a script: that of a file, or standard input. -/
def readSource : Option String → Action m String
  | some path => onDisk (Disk.read path)
  | none => ExceptT.lift Console.input

/-- Parses a script under the limits of the settings. -/
def parseScript (config : Config) (source : String) : Action m Program :=
  ExceptT.mk (pure ((Program.parse config.maxDepth source).mapError Trouble.parse))

/-- Parses a script and says that it is fine. -/
def checkScript (config : Config) (script : Option String) : Action m Unit := do
  let source ← readSource script
  let _ ← parseScript config source
  ExceptT.lift (Console.print "ok\n")

/-- Prints a script in its canonical form. -/
def formatScript (config : Config) (script : Option String) : Action m Unit := do
  let source ← readSource script
  let program ← parseScript config source
  ExceptT.lift (Console.print program.render)

/-- The program of a run: a template, or a script. -/
def compile (config : Config) (template : Bool) (source : String) : Action m Program :=
  if template then pure (.ofTemplate source) else parseScript config source

/-- The context of a run. Builtins of the command line come before those of the settings. -/
def runContext (config : Config) (request : RunRequest) (moment : Chat.Moment) : Context :=
  let given :=
    Context.ofInvocation request.user request.channel request.command request.args moment.rolls
  ({ given with counted := true }.registerValues config.builtins.toList).registerValues
    request.builtins

/-- Prints the result of a run: its lines, or all of it as JSON. -/
def printOutcome (json : Bool) (outcome : Outcome) : m Unit :=
  if json then Console.print (outcome.render ++ "\n")
  else outcome.lines.forM fun line => Console.print (line ++ "\n")

/-- Writes counts that are not saved. -/
def saveCounts (file : CounterFile) : Action m Unit :=
  if file.saved then pure () else onDisk (Prod.fst <$> file.flush)

/-- Fails if a run failed. -/
def reportOutcome (outcome : Outcome) : Action m Unit :=
  match outcome.error with
  | some detail => throw (.execution detail)
  | none => pure ()

/-- Carries out a program with the counts of a file, and prints the result. -/
def runWithFile (json : Bool) (path : String) (execution : Chat.Moment → Counting Outcome) :
    Action m Unit := do
  let file ← ExceptT.mk (CounterFile.load path)
  let moment ← ExceptT.lift World.moment
  let (outcome, file) ← ExceptT.lift (file.runCounting (execution moment))
  ExceptT.lift (printOutcome json outcome)
  saveCounts file
  reportOutcome outcome

/-- Carries out a program with counts that are forgotten, and prints the result. -/
def runInMemory (json : Bool) (execution : Chat.Moment → Counting Outcome) : Action m Unit := do
  let moment ← ExceptT.lift World.moment
  let (outcome, _) := (execution moment).run ∅
  ExceptT.lift (printOutcome json outcome)
  reportOutcome outcome

/-- Runs a script or a template once. -/
def runScript (config : Config) (request : RunRequest) : Action m Unit := do
  let source ← readSource request.script
  let program ← compile config request.template source
  let execution := fun moment => program.execute (runContext config request moment)
  match request.counters with
  | some path => runWithFile request.json path execution
  | none => runInMemory request.json execution

/-- The registry of a file of commands, and the names that were rejected. -/
def loadRegistry (sigil : String) (limit : Nat) (path : String) :
    Action m (Registry × List (String × ParseError)) := do
  let content ← onDisk (Disk.read path)
  match Registry.read? sigil limit content with
  | none => throw .json
  | some loaded => pure loaded

/-- Reports the commands that were rejected, and a registry without commands. -/
def reportRegistry (path : String) (registry : Registry)
    (rejected : List (String × ParseError)) : m Unit := do
  rejected.forM fun entry =>
    Console.report ("Skipping command '" ++ entry.1 ++ "': " ++ entry.2.display ++ "\n")
  if registry.isEmpty then
    Console.report ("Warning: no usable commands in " ++ path ++ "\n")

/-- Answers the chat lines of standard input. -/
def runChat (environment : Environment) (config : Config) (commands channel : String) :
    Action m Unit := do
  let (registry, rejected) ← loadRegistry config.sigil config.maxDepth commands
  ExceptT.lift (reportRegistry commands registry rejected)
  let file ← ExceptT.mk (CounterFile.load (config.countersPath environment))
  let input ← ExceptT.lift Console.input
  let session := Chat.Session.start channel config.sigil registry config.builtins
  let conversation : StateT CounterFile m Nat :=
    session.converse CounterFile.next World.moment (fun post => Console.print post)
      (Chat.inputLines input)
  let (_, file) ← ExceptT.lift (conversation.run file)
  saveCounts file

/-- Shows the settings, after keeping them if that is asked for. -/
def showConfig (environment : Environment) (config : Config) (init : Bool) : Action m Unit := do
  if init then
    onDisk (config.save environment)
    ExceptT.lift (Console.report ("Wrote " ++ environment.configPath ++ "\n"))
  ExceptT.lift (Console.print (config.render ++ "\n"))

/-- Makes the log file and the directory around it. -/
def openLog : Option String → Action m Unit
  | none => pure ()
  | some path =>
    match Path.fileName? path with
    | none => throw (.config (.invalidLog path))
    | some name => do
      let directory :=
        match Path.parent? path with
        | none | some "" => "."
        | some directory => directory
      onDisk (Disk.makeDirectories directory)
      onDisk (Disk.touch (Path.join directory name))

/-- The settings of a file, or those of the environment. -/
def settings (environment : Environment) : Option String → Action m Config
  | some path => ExceptT.mk (Config.loadFrom path)
  | none => ExceptT.lift (Config.load environment)

/-- Carries out a command under the given settings. -/
def perform (environment : Environment) (config : Config) : Task → Action m Unit
  | .check script => checkScript config script
  | .format script => formatScript config script
  | .run request => runScript config request
  | .chat commands channel => runChat environment config commands channel
  | .config init => showConfig environment config init

/-- Carries out what a command line asks for. -/
def carryOut (environment : Environment) (request : Request) : Action m Unit := do
  openLog request.logFile
  let config ← settings environment request.config
  perform environment config request.task

/-- How a command line ends: it is not carried out, or it leads to an exit code. -/
inductive Ending where
  | usage (cause : Usage)
  | exit (code : Nat)
  deriving DecidableEq, Repr

/-- Reads a command line and carries it out, reporting what goes wrong. -/
def respond (environment : Environment) (words : List String) : m Ending := do
  match Request.read environment.configFile words with
  | .error cause => pure (.usage cause)
  | .ok request =>
    match ← (carryOut environment request).run with
    | .ok () => pure (.exit 0)
    | .error trouble => do
      Console.report ("Error: " ++ trouble.message ++ "\n")
      pure (.exit trouble.exitCode)

end CommandLine

end ChatScript
