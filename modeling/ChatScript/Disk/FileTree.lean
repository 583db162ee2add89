import ChatScript.Disk

/-!
# Files in memory

A tree of files and directories in memory that answers like a disk. Paths are followed step by
step, so every directory on the way has to be there, also when the way leads out of it again.
-/

namespace ChatScript

/-- What can be found in a directory. -/
inductive FileEntry where
  | file (content : String)
  | directory
  /-- A file that stays empty: what is written to it is lost. -/
  | void
  deriving DecidableEq, Repr

/-- Files and directories by the names that lead to them from the root, and the directory that
paths start from. -/
structure FileTree where
  entries : List (List String × FileEntry)
  here : List String

namespace FileTree

/-- The names that lead to the directory that paths start from in the empty tree. A slash cannot be
part of a name, so no path spells these names: the directory is reached only from inside. -/
def start : List String := ["/", "/"]

/-- The tree in which the directory that paths start from is empty. Around it are only the places
that every disk has. -/
def empty : FileTree where
  entries :=
    [(start, .directory), (start.dropLast, .directory), (["tmp"], .directory),
      (["dev"], .directory), (["dev", "null"], .void)]
  here := start

/-- What is found at the end of the given names. -/
def entry? (tree : FileTree) (place : List String) : Option FileEntry :=
  if place.isEmpty then some .directory else tree.entries.lookup place

/-- The tree with another entry at a place. -/
def put (tree : FileTree) (place : List String) (entry : FileEntry) : FileTree :=
  { tree with entries := (place, entry) :: tree.entries.filter fun other => other.1 != place }

/-- The greatest length of a name, in bytes. -/
def maxName : Nat := 255

/-- The greatest length of a path, in bytes. -/
def maxPath : Nat := 4095

/-- Follows names from a place. -/
def follow (tree : FileTree) (place : List String) : List String → Except DiskFault (List String)
  | [] => .ok place
  | name :: names =>
    match tree.entry? place with
    | none => .error .notFound
    | some (.file _) | some .void => .error .notDirectory
    | some .directory =>
      if name = "" || name = "." then tree.follow place names
      else if name = ".." then tree.follow place.dropLast names
      else if maxName < name.utf8ByteSize then .error .nameTooLong
      else
        match tree.entry? (place ++ [name]) with
        | none => .error .notFound
        | some _ => tree.follow (place ++ [name]) names

/-- Refuses what cannot be a path at all. -/
def checkPath (path : String) : Except DiskFault Unit :=
  if path.toList.contains '\x00' then .error .nulInPath
  else if path = "" then .error .notFound
  else if maxPath < path.utf8ByteSize then .error .nameTooLong
  else .ok ()

/-- The place that a path starts from. -/
def origin (tree : FileTree) (path : String) : List String :=
  if Path.isRooted path then [] else tree.here

/-- The place that a path leads to. -/
def locate (tree : FileTree) (path : String) : Except DiskFault (List String) := do
  checkPath path
  tree.follow (tree.origin path) (Path.stretches path)

/-- Where a new entry at a path would go: the directory around it, the name, and whether a slash
follows the name. -/
def locateNew (tree : FileTree) (path : String) :
    Except DiskFault (List String × String × Bool) := do
  checkPath path
  let names := (Path.stretches path).filter (· != "")
  let name := names.getLast?.getD "."
  let place ← tree.follow (tree.origin path) (names.dropLast ++ [""])
  .ok (place, name, path.toList.getLast? = some '/')

/-- The content of the file at a path. -/
def read (tree : FileTree) (path : String) : Except DiskFault String := do
  let place ← tree.locate path
  match tree.entry? place with
  | some (.file content) => .ok content
  | some .void => .ok ""
  | some .directory => .error .isDirectory
  | none => .error .notFound

/-- The tree after the file at a path gets new content; `content` is given the earlier one. -/
def update (tree : FileTree) (path : String) (content : Option String → String) :
    Except DiskFault FileTree := do
  let (place, name, slash) ← tree.locateNew path
  if name = "." || name = ".." || slash then .error .isDirectory
  else if maxName < name.utf8ByteSize then .error .nameTooLong
  else
    match tree.entry? (place ++ [name]) with
    | some .directory => .error .isDirectory
    | some .void => .ok tree
    | some (.file earlier) => .ok (tree.put (place ++ [name]) (.file (content (some earlier))))
    | none => .ok (tree.put (place ++ [name]) (.file (content none)))

/-- The tree with a new directory at a path. -/
def makeDirectory (tree : FileTree) (path : String) : Except DiskFault FileTree := do
  let (place, name, _) ← tree.locateNew path
  if name = "." || name = ".." then .error .alreadyExists
  else if maxName < name.utf8ByteSize then .error .nameTooLong
  else
    match tree.entry? (place ++ [name]) with
    | some _ => .error .alreadyExists
    | none => .ok (tree.put (place ++ [name]) .directory)

/-- Whether there is a directory at a path. -/
def isDirectory (tree : FileTree) (path : String) : Bool :=
  match tree.locate path with
  | .ok place => tree.entry? place = some .directory
  | .error _ => false

/-- The tree without what is at a path and, for a directory, in it. A directory that a path calls
by dots loses what is in it and stays itself. -/
def remove (tree : FileTree) (path : String) : FileTree :=
  match tree.locate path with
  | .ok place =>
    { tree with
      entries := tree.entries.filter fun entry =>
        !place.isPrefixOf entry.1 || (Path.endsInDots path && entry.1 == place) }
  | .error _ => tree

/-- Changes the tree, unless the change fails. -/
def change (result : FileTree → Except DiskFault FileTree) :
    StateM FileTree (Except DiskFault Unit) := fun tree =>
  match result tree with
  | .ok changed => (.ok (), changed)
  | .error fault => (.error fault, tree)

instance : Disk (StateM FileTree) where
  read path := fun tree => (tree.read path, tree)
  write path content := change (·.update path fun _ => content)
  makeDirectory path := change (·.makeDirectory path)
  isDirectory path := fun tree => (tree.isDirectory path, tree)
  touch path := change (·.update path (·.getD ""))

end FileTree

end ChatScript
