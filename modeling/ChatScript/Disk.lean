import ChatScript.Disk.Path

/-!
# Disks

The operations on files that the program needs, as an interface: the program is written for any
monad that offers them. Every operation can fail, and the cause of a failure decides what happens
next and what is reported.
-/

namespace ChatScript

/-- Why an operation on a file failed. -/
inductive DiskFault where
  | notFound
  | alreadyExists
  | notDirectory
  | isDirectory
  | nameTooLong
  | nulInPath
  | other (message : String)
  deriving DecidableEq, Repr

/-- The wording of the failure of an operation on a file. -/
def DiskFault.message : DiskFault → String
  | .notFound => "No such file or directory (os error 2)"
  | .alreadyExists => "File exists (os error 17)"
  | .notDirectory => "Not a directory (os error 20)"
  | .isDirectory => "Is a directory (os error 21)"
  | .nameTooLong => "File name too long (os error 36)"
  | .nulInPath => "file name contained an unexpected NUL byte"
  | .other message => message

/-- Access to files by their paths. -/
class Disk (m : Type → Type) where
  /-- The content of a file. -/
  read : (path : String) → m (Except DiskFault String)
  /-- Writes a file, in place of its earlier content if there is one. -/
  write : (path content : String) → m (Except DiskFault Unit)
  /-- Makes a directory inside one that is there. -/
  makeDirectory : (path : String) → m (Except DiskFault Unit)
  /-- Whether there is a directory at a path. -/
  isDirectory : (path : String) → m Bool
  /-- Makes an empty file, unless there is a file. -/
  touch : (path : String) → m (Except DiskFault Unit)

namespace Disk

variable {m : Type → Type} [Monad m] [Disk m]

/-- Makes sure that there is a directory at `path`, where `above` sees to the directory around it
should that be missing. -/
def ensureDirectory (path : String) (above : m (Except DiskFault Unit)) :
    m (Except DiskFault Unit) := do
  match ← makeDirectory path with
  | .ok () => pure (.ok ())
  | .error .notFound =>
    match ← above with
    | .error fault => pure (.error fault)
    | .ok () => settle (← makeDirectory path)
  | .error fault => settle (.error fault)
where
  /-- A failure to make the directory does not matter if it is there. -/
  settle : Except DiskFault Unit → m (Except DiskFault Unit)
    | .ok () => pure (.ok ())
    | .error fault => do
      if ← isDirectory path then pure (.ok ()) else pure (.error fault)

/-- Makes sure that there is a directory at the end of the given names, listed from the innermost
outwards. -/
def ensureAll (rooted : Bool) : List String → m (Except DiskFault Unit)
  | [] => pure (.ok ())
  | name :: above =>
    ensureDirectory (Path.toString ⟨rooted, (name :: above).reverse⟩) (ensureAll rooted above)

/-- Makes the directory at a path and all directories on the way to it, as far as they are
missing. -/
def makeDirectories (path : String) : m (Except DiskFault Unit) :=
  if path = "" then pure (.ok ())
  else
    let whole := Path.ofString path
    ensureDirectory path (ensureAll whole.rooted (whole.names.reverse.drop 1))

/-- Writes a file after making the directories on the way to it. -/
def save (path content : String) : m (Except DiskFault Unit) := do
  match ← makeDirectories ((Path.parent? path).getD "") with
  | .error fault => pure (.error fault)
  | .ok () => write path content

end Disk

end ChatScript
