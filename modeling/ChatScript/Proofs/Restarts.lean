import ChatScript.CounterFile
import ChatScript.Proofs.JsonText
import Mathlib.Logic.Function.Basic
import Std.Data.ExtHashMap

/-! # Counts that survive restarts

The counts of a file are used over many runs of the program, on a disk where every write can fail
and leave anything behind (`FaultyDisk`). As long as the file is written again only while the counts
are not saved, and read again only while they are (`CounterFile.serve`), nobody can tell it from
counts that stay in memory (`MemoryCounter`): whatever is asked, the answers are the same.

What carries this through a history is that the counts are those in memory, and that the file holds
them whenever it is said to (`CounterFile.Mirrors`).
-/

namespace ChatScript

/-! ## A disk that fails -/

/-- What becomes of an operation on a disk that may fail. -/
structure Fate where
  result : Except DiskFault Unit
  /-- What reading a file gives after a write to it that failed. -/
  left : Except DiskFault String
  /-- Whether there is a directory where one is looked for. -/
  found : Bool

/-- A disk that may fail: what reading a file gives, and the fates of the operations to come. -/
structure FaultyDisk where
  files : String → Except DiskFault String
  fates : Nat → Fate

namespace FaultyDisk

/-- The disk after an operation that leaves the files alone. -/
def later (disk : FaultyDisk) : FaultyDisk :=
  { disk with fates := fun k => disk.fates (k + 1) }

/-- The disk after a write. -/
def written (disk : FaultyDisk) (path content : String) : FaultyDisk :=
  let found :=
    match (disk.fates 0).result with
    | .ok () => .ok content
    | .error _ => (disk.fates 0).left
  { disk.later with files := Function.update disk.files path found }

/-- The disk after an empty file was to be made. -/
def touched (disk : FaultyDisk) (path : String) : FaultyDisk :=
  match disk.files path with
  | .ok _ => disk.later
  | .error _ => disk.written path ""

theorem files_touched {path other : String} (different : path ≠ other) (disk : FaultyDisk) :
    (disk.touched path).files other = disk.files other := by
  rw [touched]
  split
  · rfl
  · exact Function.update_of_ne different.symm ..

instance : Disk (StateM FaultyDisk) where
  read path := fun disk => (disk.files path, disk)
  write path content := fun disk => ((disk.fates 0).result, disk.written path content)
  makeDirectory _ := fun disk => ((disk.fates 0).result, disk.later)
  isDirectory _ := fun disk => ((disk.fates 0).found, disk.later)
  touch path := fun disk => ((disk.fates 0).result, disk.touched path)

/-- What is done on such a disk and may find trouble. -/
abbrev Action :=
  ExceptT Trouble (StateM FaultyDisk)

/-- The operation leaves all files as they are. -/
def KeepsFiles {α : Type} (operation : StateM FaultyDisk α) : Prop :=
  ∀ disk, (operation.run disk).2.files = disk.files

theorem keepsFiles_pure {α : Type} (value : α) : KeepsFiles (pure value) :=
  fun _ => rfl

theorem KeepsFiles.bind {α β : Type} {operation : StateM FaultyDisk α}
    {next : α → StateM FaultyDisk β} (first : KeepsFiles operation)
    (second : ∀ value, KeepsFiles (next value)) : KeepsFiles (operation >>= next) := by
  intro disk
  rw [StateT.run_bind]
  exact (second _ _).trans (first disk)

/-- Looking for a directory after it could not be made keeps the files. -/
theorem keepsFiles_settle (path : String) (result : Except DiskFault Unit) :
    KeepsFiles (Disk.ensureDirectory.settle path result) := by
  cases result with
  | ok _ => exact keepsFiles_pure _
  | error fault =>
      refine KeepsFiles.bind (fun _ => rfl) fun found => ?_
      cases found <;> exact keepsFiles_pure _

/-- Making a directory keeps the files if making those around it does. -/
theorem keepsFiles_ensureDirectory (path : String)
    {above : StateM FaultyDisk (Except DiskFault Unit)} (kept : KeepsFiles above) :
    KeepsFiles (Disk.ensureDirectory path above) := by
  refine KeepsFiles.bind (fun _ => rfl) fun made => ?_
  split
  · exact keepsFiles_pure _
  · refine kept.bind fun made => ?_
    cases made with
    | error fault => exact keepsFiles_pure _
    | ok _ => exact KeepsFiles.bind (fun _ => rfl) fun made => keepsFiles_settle path made
  · exact keepsFiles_settle path _

theorem keepsFiles_ensureAll (rooted : Bool) (names : List String) :
    KeepsFiles (Disk.ensureAll rooted names) := by
  induction names with
  | nil => exact keepsFiles_pure _
  | cons name names ih => exact keepsFiles_ensureDirectory _ ih

/-- Making the directories of a path keeps the files. -/
theorem keepsFiles_makeDirectories (path : String) : KeepsFiles (Disk.makeDirectories path) := by
  rw [Disk.makeDirectories]
  split
  · exact keepsFiles_pure _
  · exact keepsFiles_ensureDirectory _ (keepsFiles_ensureAll _ _)

/-- Directories can be made where no operation fails. -/
theorem exists_makeDirectories {disk : FaultyDisk} (path : String)
    (sound : ∀ k, (disk.fates k).result = .ok ()) :
    ∃ after, (Disk.makeDirectories path : StateM FaultyDisk _).run disk = (.ok (), after) ∧
      ∀ k, (after.fates k).result = .ok () := by
  rw [Disk.makeDirectories]
  split
  · exact ⟨disk, rfl, sound⟩
  · refine ⟨disk.later, ?_, fun k => sound (k + 1)⟩
    rw [Disk.ensureDirectory, StateT.run_bind]
    have made : (Disk.makeDirectory path : StateM FaultyDisk _).run disk = (.ok (), disk.later) :=
      congrArg (·, disk.later) (sound 0)
    rw [made]
    rfl

/-- A file that was written after directories were made holds what was written. -/
theorem files_of_written {directory path content : String} {disk after : FaultyDisk}
    (saved : (do
        match ← Disk.makeDirectories directory with
        | .error fault => pure (.error fault)
        | .ok () => Disk.write path content : StateM FaultyDisk _).run disk = (.ok (), after)) :
    after.files path = .ok content := by
  rw [StateT.run_bind] at saved
  generalize (Disk.makeDirectories _ : StateM FaultyDisk _).run disk = made at saved
  obtain ⟨made, between⟩ := made
  cases made with
  | error fault => cases saved
  | ok _ =>
      obtain ⟨success, rfl⟩ := Prod.mk.inj saved
      rw [written, success]
      exact Function.update_self ..

/-- A file that was saved has the content that was saved. -/
theorem files_of_save {path content : String} {disk after : FaultyDisk}
    (saved : (Disk.save path content : StateM FaultyDisk _).run disk = (.ok (), after)) :
    after.files path = .ok content :=
  files_of_written saved

end FaultyDisk

/-! ## Counts in memory -/

/-- Counts in one dictionary for all channels and commands. -/
abbrev MemoryCounter := Std.ExtHashMap (String × String) Int

/-- What is asked of a counter. -/
inductive CounterRequest where
  | increment (channel command : String)
  | get (channel command : String)
  /-- Writes the counts again. -/
  | flush
  /-- Reads the counts anew, as the next run of the program does. -/
  | restart
  deriving DecidableEq, Repr

namespace MemoryCounter

/-- The count of a command in a channel, 0 if it was never counted. -/
def get (memory : MemoryCounter) (channel command : String) : Int :=
  (memory.get? (channel, command)).getD 0

@[simp] theorem get_empty (channel command : String) :
    (∅ : MemoryCounter).get channel command = 0 := by
  simp [get]

/-- The counts after a command is counted once more. -/
def increment (memory : MemoryCounter) (channel command : String) : MemoryCounter :=
  memory.insert (channel, command) (memory.get channel command + 1)

/-- Only the count of the command is raised. -/
theorem get_increment (memory : MemoryCounter) (channel command channel' command' : String) :
    (memory.increment channel command).get channel' command' =
      if channel = channel' ∧ command = command' then memory.get channel command + 1
      else memory.get channel' command' := by
  simp only [get, increment, Std.ExtHashMap.get?_eq_getElem?, Std.ExtHashMap.getElem?_insert,
    beq_iff_eq, Prod.mk.injEq]
  split <;> rfl

/-- Every count is a number that scripts have. -/
def InRange (memory : MemoryCounter) : Prop :=
  ∀ channel command, Text.minNumber ≤ memory.get channel command ∧
    memory.get channel command ≤ Text.maxNumber

/-- The counts of channels are the same counts. -/
def Holds (memory : MemoryCounter) (counts : Counts) : Prop :=
  ∀ channel command, counts.count channel command = memory.get channel command

theorem holds_empty : (∅ : MemoryCounter).Holds ∅ := by
  intro channel command
  rw [get_empty]
  simp [Counts.count]

/-- Counts stay the same in both forms when a command is counted. -/
theorem Holds.increment {memory : MemoryCounter} {counts : Counts} (holds : memory.Holds counts)
    (channel command : String) :
    (memory.increment channel command).Holds (counts.increment channel command) := by
  intro channel' command'
  rw [Counts.count_increment, get_increment, holds, holds]

/-- Counts that are the same are in the same range. -/
theorem Holds.inRange {memory : MemoryCounter} {counts : Counts} (holds : memory.Holds counts)
    (inRange : memory.InRange) : counts.InRange := by
  intro channel command
  rw [holds]
  exact inRange channel command

/-- Serves a request: the answer, if it has one, and the counts afterwards. -/
def serve (memory : MemoryCounter) : CounterRequest → Option Int × MemoryCounter
  | .increment channel command =>
    let counted := memory.increment channel command
    (some (counted.get channel command), counted)
  | .get channel command => (some (memory.get channel command), memory)
  | .flush | .restart => (none, memory)

/-- Serves requests in order. -/
def serveAll (memory : MemoryCounter) : List CounterRequest → List (Option Int) × MemoryCounter
  | [] => ([], memory)
  | request :: requests =>
    let served := memory.serve request
    let others := served.2.serveAll requests
    (served.1 :: others.1, others.2)

/-- No request lowers a count. -/
theorem get_le_serve (memory : MemoryCounter) (request : CounterRequest)
    (channel command : String) :
    memory.get channel command ≤ (memory.serve request).2.get channel command := by
  cases request with
  | increment channel' command' =>
      simp only [serve, get_increment]
      split
      case isTrue same =>
        obtain ⟨rfl, rfl⟩ := same
        omega
      case isFalse => exact Int.le_refl _
  | get | flush | restart => exact Int.le_refl _

/-- No history lowers a count. -/
theorem get_le_serveAll (memory : MemoryCounter) (requests : List CounterRequest)
    (channel command : String) :
    memory.get channel command ≤ (memory.serveAll requests).2.get channel command := by
  induction requests generalizing memory with
  | nil => exact Int.le_refl _
  | cons request requests ih => exact Int.le_trans (memory.get_le_serve request _ _) (ih _)

end MemoryCounter

/-! ## Counts in a file -/

namespace CounterFile

section Serving

variable {m : Type → Type} [Monad m] [Disk m]

/-- Serves a request: the answer, if it has one, and the counts afterwards. The file is written
again only while the counts are not saved, and read anew only while they are. -/
def serve (file : CounterFile) : CounterRequest → ExceptT Trouble m (Option Int × CounterFile)
  | .increment channel command => do
    let (value, file) ← (file.increment channel command : m _)
    pure (some value, file)
  | .get channel command => pure (some (file.counts.count channel command), file)
  | .flush =>
    if file.saved then pure (none, file)
    else do
      let (_, file) ← (file.flush : m _)
      pure (none, file)
  | .restart =>
    if file.saved then do
      let file ← ExceptT.mk (load file.path)
      pure (none, file)
    else pure (none, file)

/-- Serves requests in order. -/
def serveAll (file : CounterFile) :
    List CounterRequest → ExceptT Trouble m (List (Option Int) × CounterFile)
  | [] => pure ([], file)
  | request :: requests => do
    let (answer, file) ← file.serve request
    let (answers, file) ← file.serveAll requests
    pure (answer :: answers, file)

end Serving

/-- Counts that were written can be read again. -/
theorem stored_of_persist {file : CounterFile} {disk after : FaultyDisk}
    (inRange : file.counts.InRange)
    (written : (file.persist : StateM FaultyDisk _).run disk = (.ok (), after)) :
    ofContent file.path (after.files file.path) = .ok ⟨file.path, file.counts, true⟩ := by
  rw [FaultyDisk.files_of_save written, ofContent, Counts.read?_render inRange]

/-- The disk holds the counts of a file if they are marked as saved. -/
def Backed (file : CounterFile) (disk : FaultyDisk) : Prop :=
  file.saved = true → ofContent file.path (disk.files file.path) = .ok file

/-- Counting a command once more leaves counts that the disk holds if they are marked as saved. -/
theorem exists_increment (file : CounterFile) (disk : FaultyDisk) {channel command : String}
    (inRange : (file.counts.increment channel command).InRange) :
    ∃ saved later,
      (file.increment channel command : StateM FaultyDisk _).run disk =
          (((file.counts.increment channel command).count channel command,
            ⟨file.path, file.counts.increment channel command, saved⟩), later) ∧
        Backed ⟨file.path, file.counts.increment channel command, saved⟩ later := by
  let counted := { file with counts := file.counts.increment channel command }
  obtain ⟨⟨written, later⟩, persisted⟩ :
      ∃ result, (counted.persist : StateM FaultyDisk _).run disk = result := ⟨_, rfl⟩
  refine ⟨written.isOk, later, ?_, fun saved => ?_⟩
  · rw [CounterFile.increment, StateT.run_bind, persisted]
    rfl
  · cases written with
    | error fault => cases saved
    | ok _ => exact stored_of_persist inRange persisted

/-- Writing counts that are not saved saves them, or leaves them as they are. -/
theorem exists_flush (file : CounterFile) (disk : FaultyDisk) (inRange : file.counts.InRange)
    (behind : file.saved = false) :
    ∃ result later,
      (file.flush : StateM FaultyDisk _).run disk =
          ((result, ⟨file.path, file.counts, result.isOk⟩), later) ∧
        Backed ⟨file.path, file.counts, result.isOk⟩ later := by
  obtain ⟨⟨written, later⟩, persisted⟩ :
      ∃ result, (file.persist : StateM FaultyDisk _).run disk = result := ⟨_, rfl⟩
  cases written with
  | error fault =>
      -- Nothing is said about what the write left behind: the counts were not saved before.
      refine ⟨.error fault, later, ?_, fun saved => by cases saved⟩
      rw [CounterFile.flush, StateT.run_bind, persisted]
      obtain ⟨path, counts, saved⟩ := file
      cases behind
      rfl
  | ok _ =>
      refine ⟨.ok (), later, ?_, fun _ => stored_of_persist inRange persisted⟩
      rw [CounterFile.flush, StateT.run_bind, persisted]
      rfl

/-- The counts are those in memory, and the disk holds them whenever they are marked as saved. -/
structure Mirrors (file : CounterFile) (disk : FaultyDisk) (memory : MemoryCounter) : Prop where
  counts : memory.Holds file.counts
  stored : file.saved = true → ofContent file.path (disk.files file.path) = .ok file

variable {file : CounterFile} {disk : FaultyDisk} {memory : MemoryCounter}

/-- Counting in the file mirrors counting in memory, whatever becomes of the write. -/
theorem Mirrors.increment (mirrors : file.Mirrors disk memory) {channel command : String}
    (inRange : (memory.increment channel command).InRange) :
    ∃ after later,
      (file.increment channel command : StateM FaultyDisk _).run disk =
          (((memory.increment channel command).get channel command, after), later) ∧
        after.path = file.path ∧ after.Mirrors later (memory.increment channel command) := by
  have counts := mirrors.counts.increment channel command
  obtain ⟨saved, later, run, backed⟩ := file.exists_increment disk (counts.inRange inRange)
  rw [counts] at run
  exact ⟨_, later, run, rfl, counts, backed⟩

/-- Writing counts again that are not saved mirrors leaving them alone. -/
theorem Mirrors.flush (mirrors : file.Mirrors disk memory) (inRange : memory.InRange)
    (behind : file.saved = false) :
    ∃ after later result,
      (file.flush : StateM FaultyDisk _).run disk = ((result, after), later) ∧
        after.path = file.path ∧ after.Mirrors later memory := by
  obtain ⟨result, later, run, backed⟩ :=
    file.exists_flush disk (mirrors.counts.inRange inRange) behind
  exact ⟨_, later, result, run, rfl, mirrors.counts, backed⟩

/-- Reading saved counts anew changes nothing. -/
theorem Mirrors.restart (mirrors : file.Mirrors disk memory) (saved : file.saved = true) :
    (load file.path : StateM FaultyDisk _).run disk = (.ok file, disk) :=
  congrArg (·, disk) (mirrors.stored saved)

/-- Serving a request gives the answer of the counts in memory, and mirrors them again. -/
theorem Mirrors.serve (mirrors : file.Mirrors disk memory) {request : CounterRequest}
    (inRange : (memory.serve request).2.InRange) :
    ∃ after later,
      (file.serve request : FaultyDisk.Action _).run.run disk =
          (.ok ((memory.serve request).1, after), later) ∧
        after.path = file.path ∧ after.Mirrors later (memory.serve request).2 := by
  cases request with
  | increment channel command =>
      obtain ⟨after, later, incremented, path, mirrors⟩ := mirrors.increment inRange
      refine ⟨after, later, ?_, path, mirrors⟩
      have run : (file.serve (.increment channel command) : FaultyDisk.Action _).run.run disk =
          let result := (file.increment channel command : StateM FaultyDisk _).run disk
          (.ok (some result.1.1, result.1.2), result.2) := rfl
      rw [run, incremented]
      rfl
  | get channel command =>
      refine ⟨file, disk, ?_, rfl, mirrors⟩
      rw [MemoryCounter.serve, ← mirrors.counts]
      rfl
  | flush =>
      cases saved : file.saved with
      | true =>
          refine ⟨file, disk, ?_, rfl, mirrors⟩
          simp only [CounterFile.serve.eq_def, saved]
          rfl
      | false =>
          obtain ⟨after, later, result, flushed, path, mirrors⟩ := mirrors.flush inRange saved
          refine ⟨after, later, ?_, path, mirrors⟩
          have run : (file.serve .flush : FaultyDisk.Action _).run.run disk =
              let result := (file.flush : StateM FaultyDisk _).run disk
              (.ok (none, result.1.2), result.2) := by
            simp only [CounterFile.serve.eq_def, saved]
            rfl
          rw [run, flushed]
          rfl
  | restart =>
      cases saved : file.saved with
      | true =>
          refine ⟨file, disk, ?_, rfl, mirrors⟩
          simp only [CounterFile.serve.eq_def, saved, ↓reduceIte]
          rw [ExceptT.run_bind, StateT.run_bind, ExceptT.run_mk, mirrors.restart saved]
          rfl
      | false =>
          refine ⟨file, disk, ?_, rfl, mirrors⟩
          simp only [CounterFile.serve.eq_def, saved]
          rfl

/-- Serving requests gives the answers of the counts in memory, and mirrors them again. Counts only
rise, so those on the way are in range if those at the end are. -/
theorem Mirrors.serveAll (mirrors : file.Mirrors disk memory) {requests : List CounterRequest}
    (positive : ∀ channel command, 0 ≤ memory.get channel command)
    (bounded : ∀ channel command,
      (memory.serveAll requests).2.get channel command ≤ Text.maxNumber) :
    ∃ after later,
      (file.serveAll requests : FaultyDisk.Action _).run.run disk =
          (.ok ((memory.serveAll requests).1, after), later) ∧
        after.path = file.path ∧ after.Mirrors later (memory.serveAll requests).2 := by
  -- Every step mirrors the counts again, so the induction is over the requests from any file that
  -- mirrors the counts in memory.
  induction requests generalizing file disk memory with
  | nil => exact ⟨file, disk, rfl, rfl, mirrors⟩
  | cons request requests ih =>
      have rises := memory.get_le_serve request
      have inRange : (memory.serve request).2.InRange := fun channel command =>
        ⟨Int.le_trans (by decide) (Int.le_trans (positive channel command) (rises channel command)),
          Int.le_trans (MemoryCounter.get_le_serveAll _ requests channel command)
            (bounded channel command)⟩
      obtain ⟨between, middle, served, path, mirrors⟩ := mirrors.serve inRange
      obtain ⟨after, later, others, path', mirrors⟩ := ih mirrors
        (fun channel command => Int.le_trans (positive channel command) (rises channel command))
        bounded
      refine ⟨after, later, ?_, path'.trans path, mirrors⟩
      rw [CounterFile.serveAll, ExceptT.run_bind, StateT.run_bind, served]
      show StateT.run (ExceptT.run (between.serveAll requests >>= _)) middle = _
      rw [ExceptT.run_bind, StateT.run_bind, others]
      rfl

section History

variable {m : Type → Type} [Monad m] [Disk m]

/-- Opens the counts of a file and serves requests. -/
def history (path : String) (requests : List CounterRequest) :
    ExceptT Trouble m (List (Option Int) × CounterFile) := do
  let file ← ExceptT.mk (load path)
  file.serveAll requests

end History

/-- Counts in a file that was not there at first answer every request like counts in memory, for
any fate of the writes to the file, and no restart fails. At the end the counts are those in
memory, and opening the file again gives them if they are marked as saved. -/
theorem history_eq_memory (path : String) (requests : List CounterRequest) (disk : FaultyDisk)
    (absent : disk.files path = .error .notFound)
    (bounded : ∀ channel command,
      ((∅ : MemoryCounter).serveAll requests).2.get channel command ≤ Text.maxNumber) :
    ∃ after later,
      (history path requests : FaultyDisk.Action _).run.run disk =
          (.ok (((∅ : MemoryCounter).serveAll requests).1, after), later) ∧
        ((∅ : MemoryCounter).serveAll requests).2.Holds after.counts ∧
        (after.saved = true →
          (load path : StateM FaultyDisk _).run later = (.ok after, later)) := by
  have opened : ofContent path (disk.files path) = .ok ⟨path, ∅, true⟩ := by
    rw [absent, ofContent]
  have start : Mirrors ⟨path, ∅, true⟩ disk ∅ :=
    ⟨MemoryCounter.holds_empty, fun _ => opened⟩
  obtain ⟨after, later, served, rfl, mirrors⟩ := start.serveAll (by simp) bounded
  refine ⟨after, later, ?_, mirrors.counts, mirrors.restart⟩
  rw [history, ExceptT.run_bind, StateT.run_bind, ExceptT.run_mk, start.restart rfl]
  exact served

/-- A disk without files, on which the second write tears the file. -/
def tearingDisk : FaultyDisk where
  files _ := .error .notFound
  fates k :=
    if k = 1 then ⟨.error (.other "No space left on device"), .ok "\x7b", true⟩
    else ⟨.ok (), .ok "", true⟩

/-- The first count is saved, the second one only when the file is written again. -/
theorem history_eq_memory_tearing :
    ∃ after later,
      (history "counts.json" [.increment "#a" "hug", .increment "#a" "hug", .restart, .flush,
          .restart, .get "#a" "hug"] : FaultyDisk.Action _).run.run tearingDisk =
        (.ok ([some 1, some 2, none, none, none, some 2], after), later) ∧
      after.counts.count "#a" "hug" = 2 := by
  obtain ⟨after, later, run, counts, -⟩ := history_eq_memory "counts.json"
    [.increment "#a" "hug", .increment "#a" "hug", .restart, .flush, .restart, .get "#a" "hug"]
    tearingDisk rfl (by
      intro channel command
      simp only [MemoryCounter.serveAll, MemoryCounter.serve, MemoryCounter.get_increment]
      split <;> simp [Text.maxNumber])
  refine ⟨after, later, ?_, ?_⟩
  · rw [run]
    simp [MemoryCounter.serveAll, MemoryCounter.serve, MemoryCounter.get_increment]
  · rw [counts]
    simp [MemoryCounter.serveAll, MemoryCounter.serve, MemoryCounter.get_increment]

end CounterFile

end ChatScript
