import ChatScript.Proofs.Restarts
import Mathlib.Data.List.Induction

/-! # When counts are marked as saved

Counting a command and writing the counts once more both write the file, and both set the mark that
says whether the file holds the counts. What a call does to the mark depends only on whether its
write succeeded (`CounterFile.run_carryOut`): counting sets the mark to that, while writing once
more sets it only if it succeeds. So the mark stays where it was set when a file that is marked as
saved is written once more in vain. `CounterFile.saved_eq_succeeds_iff` says that this is the only
call after which the mark does not tell what became of the write; over a whole history, counts are
marked as not saved exactly from a count whose write failed up to the next write that succeeds.

Nothing is assumed about the disk: every write can fail, and others can change the files meanwhile.
-/

namespace ChatScript

/-- A call that writes the file of a counter. -/
inductive WriteCall where
  /-- Counts a command once more. -/
  | increment (channel command : String)
  /-- Writes the counts once more. -/
  | flush
  deriving DecidableEq, Repr

/-- The mark after a call, given whether its write succeeded. -/
def WriteCall.mark (saved : Bool) : WriteCall × Bool → Bool
  | (.increment _ _, succeeded) => succeeded
  | (.flush, succeeded) => succeeded || saved

/-- The mark stays off as long as no write succeeds. -/
theorem WriteCall.foldl_mark_of_failed {results : List (WriteCall × Bool)}
    (failed : ∀ result ∈ results, result.2 = false) : results.foldl mark false = false := by
  induction results with
  | nil => rfl
  | cons result results ih =>
      rw [List.forall_mem_cons] at failed
      have off : mark false result = false := by
        obtain ⟨call, succeeded⟩ := result
        obtain rfl : succeeded = false := failed.1
        cases call <;> rfl
      rw [List.foldl_cons, off, ih failed.2]

/-- The mark is off at the end if a count could not be written and nothing was written since. -/
theorem WriteCall.foldl_mark_eq_false_iff {results : List (WriteCall × Bool)} :
    results.foldl mark true = false ↔
      ∃ front channel command back, results = front ++ (.increment channel command, false) :: back ∧
        ∀ later ∈ back, later.2 = false := by
  constructor
  · intro off
    -- The call that turned the mark off is looked for from the end.
    induction results using List.reverseRecOn with
    | nil => cases off
    | append_singleton results last ih =>
        rw [List.foldl_append, List.foldl_cons, List.foldl_nil] at off
        obtain ⟨call, succeeded⟩ := last
        cases call with
        | increment channel command =>
            obtain rfl : succeeded = false := off
            exact ⟨results, channel, command, [], rfl, List.forall_mem_nil _⟩
        | flush =>
            obtain ⟨rfl, before⟩ : succeeded = false ∧ results.foldl mark true = false := by
              simpa [mark] using off
            obtain ⟨front, channel, command, back, rfl, failed⟩ := ih before
            refine ⟨front, channel, command, back ++ [(.flush, false)], by simp, ?_⟩
            simpa [or_imp, forall_and] using failed
  · rintro ⟨front, channel, command, back, rfl, failed⟩
    rw [List.foldl_append, List.foldl_cons, mark, foldl_mark_of_failed failed]

namespace CounterFile

variable {σ : Type} [Disk (StateM σ)]

/-- The counts that a call writes. -/
def counted (file : CounterFile) : WriteCall → CounterFile
  | .increment channel command =>
    { file with counts := file.counts.increment channel command }
  | .flush => file

/-- Whether the write of a call succeeds. -/
def succeeds (file : CounterFile) (call : WriteCall) (disk : σ) : Bool :=
  (((file.counted call).persist : StateM σ _).run disk).1.isOk

/-- The counts after a call. -/
def carryOut (file : CounterFile) : WriteCall → StateM σ CounterFile
  | .increment channel command => do
    let (_, file) ← file.increment channel command
    pure file
  | .flush => do
    let (_, file) ← file.flush
    pure file

/-- The counts after several calls. -/
def carryOutAll (file : CounterFile) : List WriteCall → StateM σ CounterFile
  | [] => pure file
  | call :: calls => do
    let file ← file.carryOut call
    file.carryOutAll calls

/-- Several calls with whether their writes succeed. -/
def results (file : CounterFile) : List WriteCall → σ → List (WriteCall × Bool)
  | [], _ => []
  | call :: calls, disk =>
    let after := (file.carryOut call).run disk
    (call, file.succeeds call disk) :: after.1.results calls after.2

/-- A call writes its counts, and sets the mark according to what becomes of the write. -/
theorem run_carryOut (file : CounterFile) (call : WriteCall) (disk : σ) :
    (file.carryOut call).run disk =
      ({ file.counted call with
          saved := WriteCall.mark file.saved (call, file.succeeds call disk) },
        (((file.counted call).persist : StateM σ _).run disk).2) := by
  cases call with
  | increment channel command => rfl
  | flush =>
      obtain ⟨⟨written, later⟩, persisted⟩ :
          ∃ result, (file.persist : StateM σ _).run disk = result := ⟨_, rfl⟩
      rw [carryOut, StateT.run_bind, flush, StateT.run_bind, counted, succeeds, counted, persisted]
      cases written <;> rfl

theorem run_carryOutAll_cons (file : CounterFile) (call : WriteCall) (calls : List WriteCall)
    (disk : σ) :
    (file.carryOutAll (call :: calls)).run disk =
      let between := (file.carryOut call).run disk
      (between.1.carryOutAll calls).run between.2 := rfl

/-- A history ends with its last call, on the file and the disk that the others leave. -/
theorem run_carryOutAll_concat (file : CounterFile) (calls : List WriteCall) (call : WriteCall)
    (disk : σ) :
    (file.carryOutAll (calls ++ [call])).run disk =
      let between := (file.carryOutAll calls).run disk
      (between.1.carryOut call).run between.2 := by
  induction calls generalizing file disk with
  | nil => rfl
  | cons first calls ih =>
      rw [List.cons_append, run_carryOutAll_cons, run_carryOutAll_cons]
      exact ih _ _

/-- The mark after several calls comes from what became of their writes. -/
theorem saved_run_carryOutAll (file : CounterFile) (calls : List WriteCall) (disk : σ) :
    ((file.carryOutAll calls).run disk).1.saved =
      (file.results calls disk).foldl WriteCall.mark file.saved := by
  induction calls generalizing file disk with
  | nil => rfl
  | cons call calls ih =>
      rw [run_carryOutAll_cons, ih, results, List.foldl_cons, run_carryOut]

/-- Counts that were opened are marked as saved. -/
theorem saved_of_load {path : String} {disk opened : σ} {file : CounterFile}
    (loaded : (load path : StateM σ _).run disk = (.ok file, opened)) : file.saved = true := by
  have content : ofContent path ((Disk.read path : StateM σ _).run disk).1 = .ok file :=
    congrArg Prod.fst loaded
  revert content
  rw [ofContent.eq_def]
  split
  · split
    · rintro ⟨⟩
      rfl
    · nofun
  · rintro ⟨⟩
    rfl
  · nofun

/-- After each of several calls on counts that were opened, the mark says whether the write of that
call succeeded, unless the call writes counts once more that are marked as saved and fails: these
stay marked. The mark is off exactly as long as no write succeeds after that of a count failed. -/
theorem saved_eq_succeeds_iff {path : String} {disk opened : σ} {file : CounterFile}
    (loaded : (load path : StateM σ _).run disk = (.ok file, opened))
    (earlier : List WriteCall) (call : WriteCall) :
    let before := (file.carryOutAll earlier).run opened
    let after := (file.carryOutAll (earlier ++ [call])).run opened
    (after.1.saved = before.1.succeeds call before.2 ↔
      ¬(call = .flush ∧ before.1.saved = true ∧ before.1.succeeds call before.2 = false)) ∧
    (after.1.saved = false ↔
      ∃ front channel command back,
        file.results (earlier ++ [call]) opened =
            front ++ (.increment channel command, false) :: back ∧
          ∀ later ∈ back, later.2 = false) := by
  intro before after
  refine ⟨?_, ?_⟩
  · have marked : after.1.saved =
        WriteCall.mark before.1.saved (call, before.1.succeeds call before.2) := by
      simp only [after, run_carryOutAll_concat, run_carryOut, before]
    rw [marked]
    cases call with
    | increment channel command => simp [WriteCall.mark]
    | flush =>
        cases before.1.saved <;> cases before.1.succeeds .flush before.2 <;> simp [WriteCall.mark]
  · rw [← WriteCall.foldl_mark_eq_false_iff, ← saved_of_load loaded, ← saved_run_carryOutAll]

/-- The first count is written, and writing it once more tears the file: the counts stay marked as
saved. -/
theorem saved_eq_succeeds_iff_tearing :
    (load "counts.json" : StateM FaultyDisk _).run tearingDisk =
        (.ok ⟨"counts.json", ∅, true⟩, tearingDisk) ∧
      let before := (carryOutAll ⟨"counts.json", ∅, true⟩ [.increment "#a" "hug"]).run tearingDisk
      before.1.saved = true ∧ before.1.succeeds .flush before.2 = false ∧
        ((carryOutAll ⟨"counts.json", ∅, true⟩ [.increment "#a" "hug", .flush]).run
          tearingDisk).1.saved = true := by
  have loaded : (load "counts.json" : StateM FaultyDisk _).run tearingDisk =
      (.ok ⟨"counts.json", ∅, true⟩, tearingDisk) := rfl
  obtain ⟨tells, -⟩ := saved_eq_succeeds_iff loaded [.increment "#a" "hug"] .flush
  refine ⟨loaded, ?_⟩
  intro before
  have saved : before.1.saved = true := by
    decide +kernel
  have torn : before.1.succeeds .flush before.2 = false := by
    decide +kernel
  refine ⟨saved, torn, ?_⟩
  rw [← Bool.not_eq_false, ← torn]
  exact fun truthful => tells.mp truthful ⟨rfl, saved, torn⟩

end CounterFile

end ChatScript
