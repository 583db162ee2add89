import ChatScript.CommandLine
import ChatScript.Proofs.Restarts

/-! # A terminal on a disk that fails

Command lines are carried out here on a terminal whose disk may fail. What the program does with
files it does on that disk alone, so whatever holds of counts on such a disk
(`FaultyTerminal.onDisk_runCounting`) holds of them in a run of a command line.
-/

namespace ChatScript

/-- A terminal on a disk that may fail: what is typed in, what is written out, and the moments to
come. -/
structure FaultyTerminal where
  disk : FaultyDisk
  input : String
  output : String
  errors : String
  moments : Nat → Chat.Moment

namespace FaultyTerminal

/-- Carries out an operation on the disk of a terminal. -/
def onDisk {α : Type} (operation : StateM FaultyDisk α) : StateM FaultyTerminal α :=
  fun terminal =>
    let (result, disk) := operation.run terminal.disk
    (result, { terminal with disk })

instance : Disk (StateM FaultyTerminal) where
  read path := onDisk (Disk.read path)
  write path content := onDisk (Disk.write path content)
  makeDirectory path := onDisk (Disk.makeDirectory path)
  isDirectory path := onDisk (Disk.isDirectory path)
  touch path := onDisk (Disk.touch path)

instance : Console (StateM FaultyTerminal) where
  input := fun terminal => (terminal.input, { terminal with input := "" })
  print content := fun terminal => ((), { terminal with output := terminal.output ++ content })
  report content := fun terminal => ((), { terminal with errors := terminal.errors ++ content })

instance : World (StateM FaultyTerminal) where
  moment := fun terminal =>
    (terminal.moments 0, { terminal with moments := fun k => terminal.moments (k + 1) })

/-- What is done on such a terminal and may find trouble. -/
abbrev Action :=
  CommandLine.Action (StateM FaultyTerminal)

/-- A step that finds trouble is the last one. -/
theorem Action.run_bind {α β : Type} (action : Action α) (next : α → Action β)
    (terminal : FaultyTerminal) :
    (action >>= next).run.run terminal =
      match action.run.run terminal with
      | (.ok value, after) => (next value).run.run after
      | (.error trouble, after) => (.error trouble, after) := by
  rw [ExceptT.run_bind, StateT.run_bind]
  rcases action.run.run terminal with ⟨result, after⟩
  cases result <;> rfl

/-- An action that succeeds is followed by the next one. -/
theorem Action.run_bind_ok {α β : Type} {action : Action α} {value : α}
    {terminal after : FaultyTerminal} (done : action.run.run terminal = (.ok value, after))
    (next : α → Action β) :
    (action >>= next).run.run terminal = (next value).run.run after := by
  rw [run_bind, done]

/-- An action that finds trouble is followed by nothing. -/
theorem Action.run_bind_error {α β : Type} {action : Action α} {trouble : Trouble}
    {terminal after : FaultyTerminal} (failed : action.run.run terminal = (.error trouble, after))
    (next : α → Action β) :
    (action >>= next).run.run terminal = (.error trouble, after) := by
  rw [run_bind, failed]

/-- A step that cannot find trouble. -/
theorem run_lift {α : Type} (step : StateM FaultyTerminal α) (terminal : FaultyTerminal) :
    (ExceptT.lift step : Action α).run.run terminal =
      (.ok (step.run terminal).1, (step.run terminal).2) :=
  rfl

/-! ## The disk of a terminal -/

/-- An operation on the disk of a terminal changes the disk alone, and its fault is trouble. -/
theorem run_onDisk {α : Type} (operation : StateM FaultyDisk (Except DiskFault α))
    (terminal : FaultyTerminal) :
    (CommandLine.onDisk (onDisk operation) : Action α).run.run terminal =
      ((operation.run terminal.disk).1.mapError .disk,
        { terminal with disk := (operation.run terminal.disk).2 }) :=
  rfl

/-- An operation on the disk of a terminal is carried out on that disk. -/
theorem onDisk_run {α : Type} (operation : StateM FaultyDisk α) (terminal : FaultyTerminal) :
    (onDisk operation).run terminal =
      ((operation.run terminal.disk).1,
        { terminal with disk := (operation.run terminal.disk).2 }) :=
  rfl

theorem onDisk_bind {α β : Type} (operation : StateM FaultyDisk α)
    (next : α → StateM FaultyDisk β) :
    onDisk (operation >>= next) = onDisk operation >>= fun result => onDisk (next result) :=
  rfl

theorem onDisk_settle (path : String) (result : Except DiskFault Unit) :
    onDisk (Disk.ensureDirectory.settle path result) = Disk.ensureDirectory.settle path result := by
  cases result with
  | ok _ => rfl
  | error fault =>
    rw [Disk.ensureDirectory.settle, onDisk_bind, Disk.ensureDirectory.settle]
    refine congrArg _ (funext fun found => ?_)
    cases found <;> rfl

/-- Making a directory is the same on a terminal, if making those around it is. -/
theorem onDisk_ensureDirectory (path : String) (above : StateM FaultyDisk (Except DiskFault Unit)) :
    onDisk (Disk.ensureDirectory path above) = Disk.ensureDirectory path (onDisk above) := by
  rw [Disk.ensureDirectory, onDisk_bind, Disk.ensureDirectory]
  refine congrArg _ (funext fun made => ?_)
  split
  · rfl
  · rw [onDisk_bind]
    refine congrArg _ (funext fun made => ?_)
    cases made with
    | error fault => rfl
    | ok _ =>
      rw [onDisk_bind]
      refine congrArg _ (funext fun made => ?_)
      rw [onDisk_settle]
  · rw [onDisk_settle]

theorem onDisk_ensureAll (rooted : Bool) (names : List String) :
    onDisk (Disk.ensureAll rooted names) = Disk.ensureAll rooted names := by
  induction names with
  | nil => rfl
  | cons name names ih => rw [Disk.ensureAll, onDisk_ensureDirectory, ih, Disk.ensureAll]

/-- Making the directories of a path is the same on a terminal. -/
theorem onDisk_makeDirectories (path : String) :
    onDisk (Disk.makeDirectories path) = Disk.makeDirectories path := by
  rw [Disk.makeDirectories, Disk.makeDirectories]
  split
  · rfl
  · rw [onDisk_ensureDirectory, onDisk_ensureAll]

/-- Saving is the same on a terminal. -/
theorem onDisk_save (path content : String) :
    onDisk (Disk.save path content) = Disk.save path content := by
  rw [Disk.save, onDisk_bind, onDisk_makeDirectories, Disk.save]
  refine congrArg _ (funext fun made => ?_)
  cases made <;> rfl

end FaultyTerminal

open FaultyTerminal

namespace CounterFile

theorem onDisk_increment (file : CounterFile) (channel command : String) :
    onDisk (file.increment channel command) = file.increment channel command := by
  rw [increment, onDisk_bind, persist, onDisk_save]
  rfl

theorem onDisk_flush (file : CounterFile) : onDisk file.flush = file.flush := by
  rw [flush, onDisk_bind, persist, onDisk_save, flush]
  refine congrArg _ (funext fun written => ?_)
  cases written <;> rfl

/-- A request is answered from the file, which goes on with its counts. -/
theorem runCounting_next {m : Type → Type} [Monad m] [Disk m] {α : Type} (file : CounterFile)
    (channel command : String) (resume : Int → Counting α) :
    (file.runCounting (.next channel command resume) : m _) =
      file.increment channel command >>= fun answered =>
        answered.2.runCounting (resume answered.1) :=
  rfl

/-- Running with the counts of a file is the same on a terminal. -/
theorem onDisk_runCounting {α : Type} (file : CounterFile) (computation : Counting α) :
    onDisk (file.runCounting computation) = file.runCounting computation := by
  induction computation generalizing file with
  | done result => rfl
  | next channel command resume ih =>
      rw [runCounting_next, onDisk_bind, onDisk_increment, runCounting_next]
      exact congrArg _ (funext fun answered => ih answered.1 answered.2)

end CounterFile

end ChatScript
