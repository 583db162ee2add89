import ChatScript.Chance
import ChatScript.CommandLine
import ChatScript.Disk.FileTree

/-!
# Terminals in memory

A terminal with files in memory, on which command lines can be carried out without touching the
world outside.
-/

namespace ChatScript

/-- The surroundings of a line that a seed stands for. -/
def Chat.Moment.ofSeed (seed : UInt64) (elapsed : Int) : Chat.Moment where
  rolls := Chance.stream (Chance.mix (2 * seed))
  choices := Chance.stream (Chance.mix (2 * seed + 1))
  elapsed := elapsed

namespace CommandLine

/-- Files, what is typed in, what is written out, and a seed for random numbers. -/
structure Terminal where
  files : FileTree
  input : String
  output : String
  errors : String
  seed : UInt64

namespace Terminal

/-- Carries out an operation on the files of a terminal. -/
def onFiles {α : Type} (operation : StateM FileTree α) : StateM Terminal α := fun terminal =>
  let (result, files) := operation.run terminal.files
  (result, { terminal with files })

instance : Disk (StateM Terminal) where
  read path := onFiles (Disk.read path)
  write path content := onFiles (Disk.write path content)
  makeDirectory path := onFiles (Disk.makeDirectory path)
  isDirectory path := onFiles (Disk.isDirectory path)
  touch path := onFiles (Disk.touch path)

instance : Console (StateM Terminal) where
  input := fun terminal => (terminal.input, { terminal with input := "" })
  print content := fun terminal => ((), { terminal with output := terminal.output ++ content })
  report content := fun terminal => ((), { terminal with errors := terminal.errors ++ content })

instance : World (StateM Terminal) where
  moment := fun terminal =>
    (.ofSeed terminal.seed 0, { terminal with seed := terminal.seed + 1 })

end Terminal

end CommandLine

end ChatScript
