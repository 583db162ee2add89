import ChatScript.Proofs.CountCalls
import ChatScript.Proofs.FaultyTerminal

/-! # Durable counts

A script is run with a counter file on a disk where every write may fail and leave anything behind.
The run asks for counts just as it does with the counts of the file in memory
(`CounterFile.exists_runCounting`), and these rise by one for each call of `count` that it evaluates
(`Program.run_execute_snd`). When the run is over the file holds them, since it is written once more
if the last write failed (`CommandLine.run_saveCounts`). The steps around it, from the command line
to the exit code, do not touch the file (`CommandLine.run_durable`).
-/

namespace ChatScript

/-! ## Counting -/

namespace Counts

/-- Counting lowers no count. -/
theorem count_le_increment (counts : Counts) (channel command channel' command' : String) :
    counts.count channel' command' ≤
      (counts.increment channel command).count channel' command' := by
  rw [count_increment]
  split
  case isTrue same =>
    obtain ⟨rfl, rfl⟩ := same
    omega
  case isFalse => exact Int.le_refl _

/-- The counts after a command is counted so many times. -/
def raised (counts : Counts) (channel command : String) (times : Nat) : Counts :=
  (fun counts => counts.increment channel command)^[times] counts

/-- Only the count of the command is raised. -/
theorem count_raised (counts : Counts) (channel command channel' command' : String) (times : Nat) :
    (counts.raised channel command times).count channel' command' =
      counts.count channel' command' +
        if channel = channel' ∧ command = command' then (times : Int) else 0 := by
  induction times generalizing counts with
  | zero => simp [raised]
  | succ times ih =>
      have step : counts.raised channel command (times + 1) =
          (counts.increment channel command).raised channel command times := rfl
      rw [step, ih, count_increment]
      split
      case isTrue same =>
        obtain ⟨rfl, rfl⟩ := same
        omega
      case isFalse => rfl

/-- No count is out of range if that of the command is not, after it is raised. -/
theorem InRange.raised_le {counts : Counts} (inRange : counts.InRange) {channel command : String}
    {times : Nat} (bounded : counts.count channel command + times ≤ Text.maxNumber)
    (channel' command' : String) :
    (counts.raised channel command times).count channel' command' ≤ Text.maxNumber := by
  have kept := (inRange channel' command').2
  rw [count_raised]
  split
  case isTrue same =>
    obtain ⟨rfl, rfl⟩ := same
    exact bounded
  case isFalse => omega

end Counts

namespace Counting

variable {α : Type}

/-- No computation lowers a count. -/
theorem count_le_run (computation : Counting α) (counts : Counts) (channel command : String) :
    counts.count channel command ≤ (computation.run counts).2.count channel command := by
  induction computation generalizing counts with
  | done result => exact Int.le_refl _
  | next channel' command' resume ih =>
      exact Int.le_trans (counts.count_le_increment ..) (ih _ _)

/-- A computation that leaves the counts as they are does not count. -/
theorem eq_done_of_run {computation : Counting α} {counts : Counts}
    (same : (computation.run counts).2 = counts) : ∃ result, computation = .done result := by
  cases computation with
  | done result => exact ⟨result, rfl⟩
  | next channel command resume =>
      have rises := count_le_run (resume ((counts.increment channel command).count channel command))
        (counts.increment channel command) channel command
      rw [run] at same
      rw [same, Counts.count_increment, if_pos ⟨rfl, rfl⟩] at rises
      omega

end Counting

namespace CounterFile

/-- A file that does not hold counts cannot be opened. -/
theorem ofContent_of_invalid {content : String} (invalid : Counts.read? content = none)
    (path : String) : ofContent path (.ok content) = .error (.config (.invalidCounters path)) := by
  rw [ofContent, invalid]

/-- A file that is there but cannot be read cannot be opened. -/
theorem ofContent_of_fault {fault : DiskFault} (present : fault ≠ .notFound) (path : String) :
    ofContent path (.error fault) = .error (.disk fault) := by
  cases fault <;> first | rfl | exact absurd rfl present

/-- Counts that can be opened are in range. -/
theorem inRange_of_ofContent {path : String} {content : Except DiskFault String} {counts : Counts}
    (opened : ofContent path content = .ok ⟨path, counts, true⟩) : counts.InRange := by
  rw [ofContent.eq_def] at opened
  split at opened
  · split at opened
    · next read =>
      cases opened
      exact Counts.inRange_of_read? read
    · cases opened
  · cases opened
    exact MemoryCounter.holds_empty.inRange fun _ _ => by simp [Text.minNumber, Text.maxNumber]
  · cases opened

/-- A computation with counts in a file has the result that it has with these counts in memory. -/
theorem exists_runCounting {α : Type} (computation : Counting α) {file : CounterFile}
    {disk : FaultyDisk} (backed : file.Backed disk)
    (low : ∀ channel command, Text.minNumber ≤ file.counts.count channel command)
    (high : ∀ channel command,
      (computation.run file.counts).2.count channel command ≤ Text.maxNumber) :
    ∃ saved later,
      (file.runCounting computation : StateM FaultyDisk _).run disk =
          (((computation.run file.counts).1,
            ⟨file.path, (computation.run file.counts).2, saved⟩), later) ∧
        Backed ⟨file.path, (computation.run file.counts).2, saved⟩ later ∧
        ((computation.run file.counts).2 = file.counts → saved = file.saved ∧ later = disk) := by
  induction computation generalizing file disk with
  | done result => exact ⟨file.saved, disk, rfl, backed, fun _ => ⟨rfl, rfl⟩⟩
  | next channel command resume ih =>
      have counted (channel' command' : String) :=
        file.counts.count_le_increment channel command channel' command'
      have inRange : (file.counts.increment channel command).InRange := fun channel' command' =>
        ⟨Int.le_trans (low ..) (counted ..), Int.le_trans (Counting.count_le_run ..) (high ..)⟩
      obtain ⟨saved, between, run, backed⟩ := file.exists_increment disk inRange
      obtain ⟨saved, later, others, backed, -⟩ := ih _ backed (fun _ _ => (inRange ..).1) high
      refine ⟨saved, later, ?_, backed, fun same => ?_⟩
      · rw [runCounting_next, StateT.run_bind, run]
        exact others
      · obtain ⟨result, done⟩ := Counting.eq_done_of_run same
        cases done

end CounterFile

/-- A run raises the count of its command once for each of the calls of `count` without arguments
that it evaluates. -/
theorem Program.run_execute_snd (program : Program) {context : Context}
    (counted : context.counted = true) (counts : Counts) :
    ((program.execute context).run counts).2 =
      counts.raised context.channel context.command
        ((program.points context Counts.next counts).countP Point.isCountCall) := by
  rw [Counting.run_eq_runWith]
  exact program.executeOn_snd Counts.next counted counts

namespace CommandLine

/-- The text of a script on a terminal. -/
def sourceOn (terminal : FaultyTerminal) : Option String → Except Trouble String
  | some path => (terminal.disk.files path).mapError .disk
  | none => .ok terminal.input

/-- The program of a run. -/
def RunRequest.program (run : RunRequest) (config : Config) (source : String) :
    Except ParseError Program :=
  if run.template then .ok (.ofTemplate source) else Program.parse config.maxDepth source

/-- How a run ends that found no trouble with the disk. -/
def verdict (outcome : Outcome) : Except Trouble Unit :=
  match outcome.error with
  | some detail => .error (.execution detail)
  | none => .ok ()

variable (terminal : FaultyTerminal)

/-- Reading a script takes at most the standard input. -/
theorem run_readSource (script : Option String) :
    ∃ input, (readSource script : FaultyTerminal.Action _).run.run terminal =
      (sourceOn terminal script, { terminal with input }) := by
  cases script with
  | some path => exact ⟨terminal.input, rfl⟩
  | none => exact ⟨"", rfl⟩

theorem run_compile (config : Config) (run : RunRequest) (source : String) :
    (compile config run.template source : FaultyTerminal.Action _).run.run terminal =
      ((run.program config source).mapError .parse, terminal) := by
  rw [compile, RunRequest.program]
  cases run.template <;> rfl

theorem run_forM_print (shown : List String) :
    ∃ output, (shown.forM fun line => Console.print (line ++ "\n") :
      StateM FaultyTerminal Unit).run terminal = ((), { terminal with output }) := by
  induction shown generalizing terminal with
  | nil => exact ⟨terminal.output, rfl⟩
  | cons line lines ih => exact ih { terminal with output := terminal.output ++ (line ++ "\n") }

/-- Printing a result only writes to standard output. -/
theorem run_printOutcome (json : Bool) (outcome : Outcome) :
    ∃ output, (printOutcome json outcome : StateM FaultyTerminal Unit).run terminal =
      ((), { terminal with output }) := by
  cases json with
  | true => exact ⟨_, rfl⟩
  | false => exact run_forM_print terminal outcome.lines

/-- Reporting on a result comes to its verdict. -/
theorem run_reportOutcome (outcome : Outcome) :
    (reportOutcome outcome : FaultyTerminal.Action _).run.run terminal =
      (verdict outcome, terminal) := by
  rw [reportOutcome, verdict]
  cases outcome.error <;> rfl

variable {terminal}

/-- Counts are saved at the end, or there is trouble with the disk. Nothing is written if they are
saved before. -/
theorem run_saveCounts {file : CounterFile} (backed : file.Backed terminal.disk)
    (inRange : file.counts.InRange) :
    ∃ result later, (saveCounts file : FaultyTerminal.Action _).run.run terminal =
        (result, { terminal with disk := later }) ∧
      (result = .ok () ∧
          CounterFile.ofContent file.path (later.files file.path) =
            .ok ⟨file.path, file.counts, true⟩ ∨
        ∃ fault, result = .error (.disk fault)) ∧
      (file.saved = true → later = terminal.disk) := by
  obtain ⟨path, counts, saved⟩ := file
  rw [saveCounts]
  cases saved with
  | true => exact ⟨.ok (), terminal.disk, rfl, .inl ⟨rfl, backed rfl⟩, fun _ => rfl⟩
  | false =>
      obtain ⟨result, later, run, backed⟩ :=
        CounterFile.exists_flush ⟨path, counts, false⟩ terminal.disk inRange rfl
      refine ⟨result.mapError .disk, later, ?_, ?_, fun saved => by cases saved⟩
      · have flushed : (Prod.fst <$> CounterFile.flush ⟨path, counts, false⟩ :
            StateM FaultyTerminal _) =
              FaultyTerminal.onDisk (Prod.fst <$> CounterFile.flush ⟨path, counts, false⟩) := by
          rw [← CounterFile.onDisk_flush]
          rfl
        simp only [Bool.false_eq_true, if_false, flushed, FaultyTerminal.run_onDisk,
          StateT.run_map, run]
        rfl
      · cases result with
        | ok _ => exact .inl ⟨rfl, backed rfl⟩
        | error fault => exact .inr ⟨fault, rfl⟩

/-- After it has printed its result, a run saves its counts and reports on the result. This is the
result it has with its counts in memory, and nothing is written if it does not count. -/
theorem exists_runWithFile {json : Bool} {path : String} {earlier counts : Counts}
    {outcome : Outcome} {execution : Chat.Moment → Counting Outcome}
    (opened : CounterFile.ofContent path (terminal.disk.files path) = .ok ⟨path, earlier, true⟩)
    (computed : (execution (terminal.moments 0)).run earlier = (outcome, counts))
    (low : ∀ channel command, Text.minNumber ≤ earlier.count channel command)
    (high : ∀ channel command, counts.count channel command ≤ Text.maxNumber) :
    ∃ saved printed,
      (runWithFile json path execution : FaultyTerminal.Action _).run.run terminal =
          (saveCounts ⟨path, counts, saved⟩ >>= fun _ => reportOutcome outcome :
            FaultyTerminal.Action _).run.run printed ∧
        CounterFile.Backed ⟨path, counts, saved⟩ printed.disk ∧
        (counts = earlier → saved = true ∧ printed.disk = terminal.disk) := by
  obtain ⟨saved, later, counted, backed, idle⟩ :=
    @CounterFile.exists_runCounting _ (execution (terminal.moments 0)) ⟨path, earlier, true⟩
      terminal.disk (fun _ => opened) low (by rw [computed]; exact high)
  rw [computed] at counted backed idle
  let started := { terminal with moments := fun k => terminal.moments (k + 1) }
  obtain ⟨output, printed⟩ := run_printOutcome { started with disk := later } json outcome
  have loaded : (ExceptT.mk (CounterFile.load path) : FaultyTerminal.Action _).run.run terminal =
      (.ok ⟨path, earlier, true⟩, terminal) := by
    rw [← opened]
    rfl
  have executed : (ExceptT.lift ((⟨path, earlier, true⟩ : CounterFile).runCounting
      (execution (terminal.moments 0))) : FaultyTerminal.Action _).run.run started =
        (.ok (outcome, ⟨path, counts, saved⟩), { started with disk := later }) := by
    rw [FaultyTerminal.run_lift, ← CounterFile.onDisk_runCounting, FaultyTerminal.onDisk_run]
    change (_, { started with disk := _ }) = _
    rw [counted]
  have shown : (ExceptT.lift (printOutcome json outcome) : FaultyTerminal.Action _).run.run
      { started with disk := later } = (.ok (), { started with disk := later, output }) := by
    rw [FaultyTerminal.run_lift, printed]
  refine ⟨saved, { started with disk := later, output }, ?_, backed, idle⟩
  rw [runWithFile, FaultyTerminal.Action.run_bind_ok loaded]
  refine (FaultyTerminal.Action.run_bind_ok rfl _).trans ?_
  refine (FaultyTerminal.Action.run_bind_ok executed _).trans ?_
  exact FaultyTerminal.Action.run_bind_ok shown _

/-- A run with counts that can be opened ends as it does with these counts in memory, and the file
holds its counts afterwards, unless there is trouble with the disk. If it does not count, nothing is
written. -/
theorem run_runWithFile {json : Bool} {path : String} {earlier counts : Counts} {outcome : Outcome}
    {execution : Chat.Moment → Counting Outcome}
    (opened : CounterFile.ofContent path (terminal.disk.files path) = .ok ⟨path, earlier, true⟩)
    (computed : (execution (terminal.moments 0)).run earlier = (outcome, counts))
    (low : ∀ channel command, Text.minNumber ≤ earlier.count channel command)
    (high : ∀ channel command, counts.count channel command ≤ Text.maxNumber) :
    ∃ result after,
      (runWithFile json path execution : FaultyTerminal.Action _).run.run terminal =
          (result, after) ∧
        (result = verdict outcome ∧ CounterFile.ofContent path (after.disk.files path) =
            .ok ⟨path, counts, true⟩ ∨
          ∃ fault, result = .error (.disk fault)) ∧
        (counts = earlier → after.disk = terminal.disk) := by
  have inRange : counts.InRange := by
    intro channel command
    have rises := Counting.count_le_run (execution (terminal.moments 0)) earlier channel command
    rw [computed] at rises
    exact ⟨Int.le_trans (low channel command) rises, high channel command⟩
  obtain ⟨saved, printed, run, backed, idle⟩ :=
    @exists_runWithFile terminal json _ _ _ _ _ opened computed low high
  obtain ⟨result, later, saves, settled, kept⟩ := run_saveCounts backed inRange
  have unwritten (same : counts = earlier) : later = terminal.disk :=
    (kept (idle same).1).trans (idle same).2
  rcases settled with ⟨rfl, stored⟩ | ⟨fault, rfl⟩
  · refine ⟨_, { printed with disk := later }, ?_, .inl ⟨rfl, stored⟩, unwritten⟩
    rw [run, FaultyTerminal.Action.run_bind_ok saves, run_reportOutcome]
  · refine ⟨_, { printed with disk := later }, ?_, .inr ⟨fault, rfl⟩, unwritten⟩
    rw [run, FaultyTerminal.Action.run_bind_error saves]

/-- A run that finds trouble before its counts are opened leaves the disk and the output alone. -/
theorem run_runScript_of_error {config : Config} {run : RunRequest} {source : String}
    {error : ParseError} (read : sourceOn terminal run.script = .ok source)
    (failed : run.program config source = .error error) :
    ∃ input, (runScript config run : FaultyTerminal.Action _).run.run terminal =
      (.error (.parse error), { terminal with input }) := by
  obtain ⟨input, sourced⟩ := run_readSource terminal run.script
  rw [read] at sourced
  have compiled := run_compile { terminal with input } config run source
  rw [failed] at compiled
  refine ⟨input, ?_⟩
  rw [runScript, FaultyTerminal.Action.run_bind_ok sourced]
  exact FaultyTerminal.Action.run_bind_error compiled _

/-- A run with a file that cannot be opened leaves the disk and the output alone. -/
theorem run_runWithFile_of_error {json : Bool} {path : String} {trouble : Trouble}
    {execution : Chat.Moment → Counting Outcome}
    (closed : CounterFile.ofContent path (terminal.disk.files path) = .error trouble) :
    (runWithFile json path execution : FaultyTerminal.Action _).run.run terminal =
      (.error trouble, terminal) := by
  have loaded : (ExceptT.mk (CounterFile.load path) : FaultyTerminal.Action _).run.run terminal =
      (CounterFile.ofContent path (terminal.disk.files path), terminal) := rfl
  rw [closed] at loaded
  rw [runWithFile, FaultyTerminal.Action.run_bind_error loaded]

/-- A script that compiles is run with its file, with the standard input used up if it was read from
there. -/
theorem run_runScript {config : Config} {run : RunRequest} {path source : String}
    {program : Program} (counters : run.counters = some path)
    (read : sourceOn terminal run.script = .ok source)
    (compiles : run.program config source = .ok program) :
    ∃ input, (runScript config run : FaultyTerminal.Action _).run.run terminal =
      (runWithFile run.json path fun moment => program.execute (runContext config run moment) :
        FaultyTerminal.Action _).run.run { terminal with input } := by
  obtain ⟨input, sourced⟩ := run_readSource terminal run.script
  rw [read] at sourced
  have compiled := run_compile { terminal with input } config run source
  rw [compiles] at compiled
  refine ⟨input, ?_⟩
  rw [runScript, FaultyTerminal.Action.run_bind_ok sourced]
  refine (FaultyTerminal.Action.run_bind_ok compiled _).trans ?_
  rw [counters]

/-- A run counts for the channel and the command that were asked for. -/
theorem runContext_eq (config : Config) (run : RunRequest) (moment : Chat.Moment) :
    (runContext config run moment).channel = run.channel ∧
      (runContext config run moment).command = run.command ∧
      (runContext config run moment).counted = true := by
  rw [runContext, Context.registerValues_eq]
  simp only
  rw [Context.registerValues_eq]
  exact ⟨rfl, rfl, rfl⟩

/-- A run with counts that can be opened raises the count of its command by the number of calls of
`count` that it evaluates. -/
theorem run_program {config : Config} {run : RunRequest} {path : String} {program : Program}
    {earlier : Counts} {calls : Nat}
    (opened : CounterFile.ofContent path (terminal.disk.files path) = .ok ⟨path, earlier, true⟩)
    (evaluated : calls = (program.points (runContext config run (terminal.moments 0)) Counts.next
      earlier).countP Point.isCountCall)
    (bounded : earlier.count run.channel run.command + calls ≤ Text.maxNumber) :
    ∃ result after,
      (runWithFile run.json path fun moment => program.execute (runContext config run moment) :
        FaultyTerminal.Action _).run.run terminal = (result, after) ∧
      (result = verdict ((program.execute (runContext config run (terminal.moments 0))).run
          earlier).1 ∧
        CounterFile.ofContent path (after.disk.files path) =
          .ok ⟨path, earlier.raised run.channel run.command calls, true⟩ ∨
        ∃ fault, result = .error (.disk fault)) ∧
      (calls = 0 → after.disk = terminal.disk) := by
  obtain ⟨channel, command, counted⟩ := runContext_eq config run (terminal.moments 0)
  have inRange := CounterFile.inRange_of_ofContent opened
  have raised := program.run_execute_snd counted earlier
  rw [channel, command, ← evaluated] at raised
  obtain ⟨result, after, performed, settled, idle⟩ :=
    @run_runWithFile terminal run.json path earlier
      (earlier.raised run.channel run.command calls) _
      (fun moment => program.execute (runContext config run moment)) opened (Prod.ext rfl raised)
      (fun channel command => (inRange channel command).1) (inRange.raised_le bounded)
  exact ⟨result, after, performed, settled, fun none => idle (by rw [none]; rfl)⟩

/-! ## Command lines -/

/-- What a command line does before its command begins: it makes the log file and reads the
settings. -/
def prepare {m : Type → Type} [Monad m] [Disk m] (environment : Environment) (request : Request) :
    Action m Config := do
  openLog request.logFile
  settings environment request.config

/-- The exit code of a command. -/
def exitCode : Except Trouble Unit → Nat
  | .ok () => 0
  | .error trouble => trouble.exitCode

/-- The directory of a log file. -/
def logDirectory (log : String) : String :=
  match Path.parent? log with
  | none | some "" => "."
  | some directory => directory

/-- The file that a log goes to, if there can be one. -/
def logPath? (log : String) : Option String :=
  (Path.fileName? log).map (Path.join (logDirectory log))

/-- A log goes to a file of the name that was given for it. -/
theorem fileName?_of_logPath? {log path : String} (goes : logPath? log = some path) :
    Path.fileName? path = Path.fileName? log := by
  obtain ⟨name, named, rfl⟩ := Option.map_eq_some_iff.mp goes
  rw [named, Path.fileName?_join named]

theorem openLog_of_named {log name : String} (named : Path.fileName? log = some name) :
    (openLog (some log) : FaultyTerminal.Action Unit) =
      onDisk (Disk.makeDirectories (logDirectory log)) >>= fun _ =>
        onDisk (Disk.touch (Path.join (logDirectory log) name)) := by
  rw [openLog, named]
  rfl

/-- Making a log file changes the disk alone, and no other file on it. -/
theorem run_openLog (logFile : Option String) (terminal : FaultyTerminal) :
    ∃ result disk,
      (openLog logFile : FaultyTerminal.Action Unit).run.run terminal =
          (result, { terminal with disk }) ∧
        ∀ path, logFile.bind logPath? ≠ some path →
          disk.files path = terminal.disk.files path := by
  cases logFile with
  | none => exact ⟨.ok (), terminal.disk, rfl, fun _ _ => rfl⟩
  | some log =>
      cases named : Path.fileName? log with
      | none =>
          refine ⟨.error (.config (.invalidLog log)), terminal.disk, ?_, fun _ _ => rfl⟩
          rw [openLog, named]
          rfl
      | some name =>
          have first := FaultyTerminal.run_onDisk (Disk.makeDirectories (logDirectory log)) terminal
          have kept := FaultyDisk.keepsFiles_makeDirectories (logDirectory log) terminal.disk
          rw [FaultyTerminal.onDisk_makeDirectories] at first
          rcases made : (Disk.makeDirectories (logDirectory log) : StateM FaultyDisk _).run
            terminal.disk with ⟨result, disk⟩
          rw [made] at first kept
          rw [openLog_of_named named]
          cases result with
          | error fault =>
              exact ⟨_, disk, FaultyTerminal.Action.run_bind_error first _,
                fun path _ => congrFun kept path⟩
          | ok _ =>
              let path := Path.join (logDirectory log) name
              refine ⟨_, disk.touched path, FaultyTerminal.Action.run_bind_ok first _,
                fun other different => ?_⟩
              have apart : path ≠ other := by
                simpa [logPath?, named] using different
              rw [FaultyDisk.files_touched apart]
              exact congrFun kept other

theorem run_read_bind {α : Type} (path : String)
    (next : Except DiskFault String → StateM FaultyTerminal α) (terminal : FaultyTerminal) :
    (Disk.read path >>= next).run terminal = (next (terminal.disk.files path)).run terminal :=
  rfl

/-- Without a file that is named, the settings are those of the environment. -/
theorem run_settings_none (environment : Environment) (terminal : FaultyTerminal) :
    (settings environment none : FaultyTerminal.Action _).run.run terminal =
      (.ok (match terminal.disk.files environment.configPath with
        | .ok content => (Config.read? content).getD .standard
        | .error _ => .standard), terminal) := by
  rw [settings, FaultyTerminal.run_lift, Config.load, run_read_bind]
  cases terminal.disk.files environment.configPath <;> rfl

/-- Reading the settings changes nothing. -/
theorem run_settings (environment : Environment) (config : Option String)
    (terminal : FaultyTerminal) :
    ((settings environment config : FaultyTerminal.Action Config).run.run terminal).2 =
      terminal := by
  cases config with
  | none => rw [run_settings_none]
  | some path =>
      rw [settings, ExceptT.run_mk, Config.loadFrom, run_read_bind]
      cases terminal.disk.files path with
      | error fault => rfl
      | ok content =>
          simp only
          split <;> rfl

/-- Before its command begins, a command line changes the disk alone, and there only its log
file. -/
theorem run_prepare (environment : Environment) (request : Request) (terminal : FaultyTerminal) :
    ∃ disk,
      ((prepare environment request : FaultyTerminal.Action Config).run.run terminal).2 =
          { terminal with disk } ∧
        ∀ path, request.logFile.bind logPath? ≠ some path →
          disk.files path = terminal.disk.files path := by
  obtain ⟨result, disk, opened, kept⟩ := run_openLog request.logFile terminal
  refine ⟨disk, ?_, kept⟩
  rw [prepare]
  cases result with
  | ok _ => rw [FaultyTerminal.Action.run_bind_ok opened, run_settings]
  | error trouble => rw [FaultyTerminal.Action.run_bind_error opened]

/-- Without a log file nothing changes before the command. -/
theorem run_prepare_of_no_log {environment : Environment} {request : Request}
    (noLog : request.logFile = none) (terminal : FaultyTerminal) :
    ((prepare environment request : FaultyTerminal.Action Config).run.run terminal).2 =
      terminal := by
  rw [prepare, noLog]
  exact run_settings environment request.config terminal

/-- A command ends with the exit code of its result, and says on standard error what trouble there
was. -/
theorem run_respond {environment : Environment} {words : List String} {request : Request}
    {config : Config} {start after : FaultyTerminal} {result : Except Trouble Unit}
    (asked : Request.read environment.configFile words = .ok request)
    (prepared : (prepare environment request : FaultyTerminal.Action _).run.run start =
      (.ok config, terminal))
    (performed : (perform environment config request.task : FaultyTerminal.Action _).run.run
      terminal = (result, after)) :
    ∃ errors, (respond environment words : StateM FaultyTerminal _).run start =
      (.exit (exitCode result), { after with errors }) := by
  have carried : (carryOut environment request : FaultyTerminal.Action _).run.run start =
      (result, after) := by
    have split : (carryOut environment request : FaultyTerminal.Action _) =
        prepare environment request >>= fun config =>
          perform environment config request.task := by
      rw [carryOut, prepare, bind_assoc]
    rw [split, FaultyTerminal.Action.run_bind_ok prepared, performed]
  rw [respond, asked]
  simp only [StateT.run_bind, carried]
  cases result with
  | ok _ => exact ⟨after.errors, rfl⟩
  | error trouble => exact ⟨_, rfl⟩

/-- **A run with a counter file keeps the counts of the file.** If its script cannot be parsed, or
the file does not hold counts or cannot be read, nothing is printed and nothing is written.
Otherwise the file holds the earlier counts afterwards, with the count of the command raised by the
number of calls of `count` that were evaluated, whichever writes failed on the way: only an exit
code of 4 says that it may not. Without such a call nothing is written.

The command begins on `terminal`, where the log file is made and the settings are read. Without a
log file, or with one of another name, the counter file is still as it was at the start. -/
theorem run_durable {environment : Environment} {words : List String} {request : Request}
    {run : RunRequest} {path source : String} {config : Config} {start : FaultyTerminal}
    (asked : Request.read environment.configFile words = .ok request)
    (task : request.task = .run run) (counters : run.counters = some path)
    (prepared : (prepare environment request : FaultyTerminal.Action _).run.run start =
      (.ok config, terminal))
    (read : sourceOn terminal run.script = .ok source) :
    (request.logFile = none → terminal = start) ∧
    (∀ log, request.logFile = some log → Path.fileName? log ≠ Path.fileName? path →
      terminal.disk.files path = start.disk.files path) ∧
    ∃ code after,
      (respond environment words : StateM FaultyTerminal _).run start = (.exit code, after) ∧
      (∀ error, run.program config source = .error error →
        code = 2 ∧ after.output = start.output ∧ after.disk = terminal.disk) ∧
      ∀ program, run.program config source = .ok program →
        (∀ content, terminal.disk.files path = .ok content → Counts.read? content = none →
          code = 5 ∧ after.output = start.output ∧ after.disk = terminal.disk) ∧
        (∀ fault, terminal.disk.files path = .error fault → fault ≠ .notFound →
          code = 4 ∧ after.output = start.output ∧ after.disk = terminal.disk) ∧
        ∀ earlier calls,
          CounterFile.ofContent path (terminal.disk.files path) = .ok ⟨path, earlier, true⟩ →
          calls = (program.points (runContext config run (terminal.moments 0)) Counts.next
            earlier).countP Point.isCountCall →
          earlier.count run.channel run.command + calls ≤ Text.maxNumber →
            (code ≠ 4 →
              code = exitCode (verdict ((program.execute
                (runContext config run (terminal.moments 0))).run earlier).1) ∧
              CounterFile.ofContent path (after.disk.files path) =
                .ok ⟨path, earlier.raised run.channel run.command calls, true⟩) ∧
            (calls = 0 → after.disk = terminal.disk) := by
  obtain ⟨disk, started, unlogged⟩ := run_prepare environment request start
  rw [prepared] at started
  change terminal = { start with disk } at started
  have quiet : terminal.output = start.output := by rw [started]
  have same : terminal.disk = disk := by rw [started]
  rcases performed : (perform environment config request.task : FaultyTerminal.Action _).run.run
    terminal with ⟨result, after⟩
  obtain ⟨errors, responded⟩ := run_respond asked prepared performed
  rw [task, perform] at performed
  refine ⟨fun noLog => ?_, fun log logged apart => ?_, _, _, responded,
    fun error failed => ?_, fun program compiles => ?_⟩
  · simpa [prepared] using @run_prepare_of_no_log environment request noLog start
  · have elsewhere : request.logFile.bind logPath? ≠ some path := by
      rw [logged]
      exact fun goes => apart (fileName?_of_logPath? goes).symm
    rw [same, unlogged path elsewhere]
  · obtain ⟨input, ended⟩ := run_runScript_of_error read failed
    obtain ⟨rfl, rfl⟩ := Prod.mk.inj (performed.symm.trans ended)
    exact ⟨rfl, quiet, rfl⟩
  obtain ⟨input, ended⟩ := run_runScript counters read compiles
  rw [performed] at ended
  have stopped {trouble : Trouble}
      (closed : CounterFile.ofContent path (terminal.disk.files path) = .error trouble) :
      result = .error trouble ∧ after = { terminal with input } :=
    Prod.mk.inj (ended.trans (@run_runWithFile_of_error { terminal with input } run.json path
      trouble (fun moment => program.execute (runContext config run moment)) closed))
  refine ⟨fun content found invalid => ?_, fun fault unread present => ?_,
    fun earlier calls opened evaluated bounded => ?_⟩
  · obtain ⟨rfl, rfl⟩ := stopped (found ▸ CounterFile.ofContent_of_invalid invalid path)
    exact ⟨rfl, quiet, rfl⟩
  · obtain ⟨rfl, rfl⟩ := stopped (unread ▸ CounterFile.ofContent_of_fault present path)
    exact ⟨rfl, quiet, rfl⟩
  · obtain ⟨result', after', counted, settled, idle⟩ :=
      @run_program { terminal with input } config run path program earlier calls opened evaluated
        bounded
    obtain ⟨rfl, rfl⟩ := Prod.mk.inj (ended.trans counted)
    refine ⟨fun other => ?_, idle⟩
    rcases settled with ⟨rfl, stored⟩ | ⟨fault, rfl⟩
    · exact ⟨rfl, stored⟩
    · exact absurd rfl other

/-- A terminal on which the first write tears the counter file. -/
def tearingTerminal : FaultyTerminal where
  disk :=
    { files := fun path =>
        if path = "counts.json" then .ok "\x7b\"#botscript\": \x7b\"run\": 4, \"hug\": 2\x7d\x7d"
        else .error .notFound
      fates := fun k =>
        if k = 0 then ⟨.error (.other "No space left on device"), .ok "\x7b", true⟩
        else ⟨.ok (), .ok "", true⟩ }
  input := "send count()\nset user 1\n"
  output := ""
  errors := ""
  moments _ := ⟨id, id, 0⟩

/-- The counts that its counter file holds. -/
def tearingCounts : Counts :=
  .ofList [("#botscript", Std.ExtTreeMap.ofList [("hug", (2 : Int)), ("run", 4)])]

/-- The run fails on its second line, and its count is saved at the end. -/
theorem run_durable_tearing :
    let environment : Environment := ⟨none, none, none⟩
    ∃ after,
      (respond environment ["run", "--counters", "counts.json"] : StateM FaultyTerminal _).run
          tearingTerminal = (.exit 3, after) ∧
        CounterFile.ofContent "counts.json" (after.disk.files "counts.json") =
          .ok ⟨"counts.json", tearingCounts.raised "#botscript" "run" 1, true⟩ := by
  intro environment
  let run : RunRequest := ⟨none, "viewer", "#botscript", "run", [], false, false,
    some "counts.json", []⟩
  let request : Request := ⟨none, none, .run run⟩
  have asked : Request.read none ["run", "--counters", "counts.json"] = .ok request := by
    have read : (Request.read none ["run", "--counters", "counts.json"]).toOption =
        some request := by
      decide +kernel
    cases given : Request.read none ["run", "--counters", "counts.json"] <;> rw [given] at read <;>
      cases read
    rfl
  have prepared : (prepare environment request : FaultyTerminal.Action _).run.run tearingTerminal =
      (.ok .standard, tearingTerminal) := by
    have elsewhere : environment.configPath ≠ "counts.json" := by
      decide +kernel
    refine (run_settings_none environment tearingTerminal).trans ?_
    simp [tearingTerminal, elsewhere]
  have opened : CounterFile.ofContent "counts.json" (tearingTerminal.disk.files "counts.json") =
      .ok ⟨"counts.json", tearingCounts, true⟩ := by
    have read : Counts.read? "\x7b\"#botscript\": \x7b\"run\": 4, \"hug\": 2\x7d\x7d" =
        some tearingCounts := by
      decide +kernel
    simp [tearingTerminal, CounterFile.ofContent, read]
  have evaluated : (Program.parse Config.standard.maxDepth tearingTerminal.input).toOption.map
      (fun program => (program.points (runContext .standard run ⟨id, id, 0⟩) Counts.next
        tearingCounts).countP Point.isCountCall) = some 1 := by
    decide +kernel
  have failed : ((respond environment ["run", "--counters", "counts.json"] :
      StateM FaultyTerminal _).run tearingTerminal).1 = .exit 3 := by
    decide +kernel
  have read : sourceOn tearingTerminal run.script = .ok tearingTerminal.input := rfl
  obtain ⟨-, -, code, after, responded, -, counted⟩ :=
    @run_durable _ environment _ _ run _ _ _ _ asked rfl rfl prepared read
  rw [responded] at failed
  cases failed
  cases parsed : Program.parse Config.standard.maxDepth tearingTerminal.input with
  | error error =>
      rw [parsed] at evaluated
      cases evaluated
  | ok program =>
      rw [parsed] at evaluated
      have calls := (Option.some.inj evaluated).symm
      exact ⟨after, responded,
        (((counted program parsed).2.2 tearingCounts 1 opened calls (by decide +kernel)).1
          (by decide)).2⟩

end CommandLine

end ChatScript
