import ChatScript.CommandLine.Trouble
import ChatScript.Counting
import ChatScript.Json.Codec

/-!
# Counts in a file

Counts that are kept in a file, which is written anew after every increment. A write that fails
does not fail the increment: the counts are then marked as not saved, until a later write
succeeds.
-/

namespace ChatScript

/-- Counts with the file that they are kept in. -/
structure CounterFile where
  path : String
  counts : Counts
  /-- Whether the file holds the counts. -/
  saved : Bool

namespace CounterFile

variable {m : Type → Type} [Monad m] [Disk m]

/-- The counts that were read from a file, or none if there is no file. -/
def ofContent (path : String) : Except DiskFault String → Except Trouble CounterFile
  | .ok content =>
    match Counts.read? content with
    | some counts => .ok ⟨path, counts, true⟩
    | none => .error (.config (.invalidCounters path))
  | .error .notFound => .ok ⟨path, ∅, true⟩
  | .error fault => .error (.disk fault)

/-- Opens the counts of a file. -/
def load (path : String) : m (Except Trouble CounterFile) :=
  ofContent path <$> Disk.read path

/-- Writes the counts to their file. -/
def persist (file : CounterFile) : m (Except DiskFault Unit) :=
  Disk.save file.path file.counts.render

/-- Counts a command once more and writes the file: the new count, and the counts afterwards. -/
def increment (file : CounterFile) (channel command : String) : m (Int × CounterFile) := do
  let counted := { file with counts := file.counts.increment channel command }
  let written ← counted.persist
  pure (counted.counts.count channel command, { counted with saved := written.isOk })

/-- Writes the file. The counts are saved if that succeeds, and otherwise stay as they were. -/
def flush (file : CounterFile) : m (Except DiskFault Unit × CounterFile) := do
  match ← file.persist with
  | .ok () => pure (.ok (), { file with saved := true })
  | .error fault => pure (.error fault, file)

/-- Answers a request for the next count of a command. -/
def next (channel command : String) : StateT CounterFile m Int := fun file =>
  file.increment channel command

/-- Carries out a computation with the counts of a file. -/
def runCounting {α : Type} (file : CounterFile) (computation : Counting α) :
    m (α × CounterFile) :=
  (computation.runWith next).run file

end CounterFile

end ChatScript
