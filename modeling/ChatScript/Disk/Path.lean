import ChatScript.Text.Split

/-!
# Paths

Paths are strings with slashes between names. Their parts are found without looking at any disk:
repeated slashes, a slash at the end and single dots other than a first one mean nothing.
-/

namespace ChatScript

/-- A path by its names. -/
structure Path where
  /-- Whether the path starts at the root of the disk. -/
  rooted : Bool
  names : List String
  deriving DecidableEq, Repr

namespace Path

/-- The stretches between the slashes of a path, empty ones included. -/
def stretches (path : String) : List String :=
  (Text.stretches (· == '/') path.toList).map String.ofList

/-- Whether a path starts at the root of the disk. -/
def isRooted (path : String) : Bool :=
  path.toList.head? == some '/'

/-- Whether a name means something on the way along a path. -/
def isMeaningful (name : String) : Bool :=
  name != "" && name != "."

/-- Whether a path ends in dots, so that it says where a directory is and not what its name is. The
root has no name either. -/
def endsInDots (path : String) : Bool :=
  match ((stretches path).filter (· != "")).getLast? with
  | some name => name == "." || name == ".."
  | none => true

/-- The names of a path. A dot counts only at the start of a path that is not rooted. -/
def ofString (path : String) : Path :=
  match stretches path with
  | "." :: others => ⟨false, "." :: others.filter isMeaningful⟩
  | names => ⟨isRooted path, names.filter isMeaningful⟩

/-- The path with the given names. -/
def toString (path : Path) : String :=
  (if path.rooted then "/" else "") ++ String.intercalate "/" path.names

/-- The path of the directory around the last name of a path. -/
def parent? (path : String) : Option String :=
  let whole := ofString path
  if whole.names.isEmpty then none else some (toString { whole with names := whole.names.dropLast })

/-- The last name of a path, if it is the name of a file. -/
def fileName? (path : String) : Option String :=
  match (ofString path).names.getLast? with
  | some name => if name = "." || name = ".." then none else some name
  | none => none

/-- A path continued by another one. -/
def join (path next : String) : String :=
  if isRooted next || path = "" then next
  else if path.toList.getLast? = some '/' then path ++ next
  else path ++ "/" ++ next

/-! ## The last name -/

/-- The last stretch of a path is its last name, unless it means nothing there. -/
theorem getLast?_names {path name : String} {others : List String}
    (ends : stretches path = others ++ [name]) (meaningful : isMeaningful name = true) :
    (ofString path).names.getLast? = some name := by
  have kept (others : List String) :
      (others ++ [name]).filter isMeaningful = others.filter isMeaningful ++ [name] := by
    rw [List.filter_append, List.filter_cons_of_pos meaningful, List.filter_nil]
  rw [ofString, ends]
  split
  · rename_i later dotted
    cases others with
    | nil =>
        cases dotted
        cases meaningful
    | cons first others =>
        have behind : others ++ [name] = later := (List.cons.inj dotted).2
        rw [← behind, kept, ← List.cons_append, List.getLast?_concat]
  · rw [kept, List.getLast?_concat]

/-- The last stretch of a path is the name of its file, unless it is empty or made of dots. -/
theorem fileName?_of_stretches {path name : String} {others : List String}
    (ends : stretches path = others ++ [name]) (full : name ≠ "") (noDot : name ≠ ".")
    (noDots : name ≠ "..") : fileName? path = some name := by
  rw [fileName?, getLast?_names ends (by simp [isMeaningful, full, noDot])]
  simp [noDot, noDots]

/-- The name of a file is a stretch of its path, and not made of dots. -/
theorem of_fileName? {path name : String} (named : fileName? path = some name) :
    name ∈ stretches path ∧ name ≠ "" ∧ name ≠ "." ∧ name ≠ ".." := by
  rw [fileName?] at named
  split at named
  · rename_i last found
    split at named
    · cases named
    · rename_i undotted
      cases named
      simp only [Bool.or_eq_true, decide_eq_true_eq, not_or] at undotted
      have kept : name ∈ (stretches path).filter isMeaningful := by
        have member := List.mem_of_getLast? found
        rw [ofString] at member
        split at member
        · rename_i later dotted
          rw [dotted]
          exact (List.mem_cons.mp member).resolve_left undotted.1
        · exact member
      rw [List.mem_filter, isMeaningful, Bool.and_eq_true] at kept
      exact ⟨kept.1, by simpa using kept.2.1, undotted⟩
  · cases named

/-- A path continued by a name ends in that name. -/
theorem exists_stretches_join {name : String} (whole : ∀ c ∈ name.toList, (c == '/') = false)
    (directory : String) : ∃ others, stretches (join directory name) = others ++ [name] := by
  have behind (front : List Char) :
      ∃ others, (Text.stretches (· == '/') (front ++ '/' :: name.toList)).map String.ofList =
        others ++ [name] := by
    obtain ⟨first, others, split⟩ :=
      @Text.exists_stretches_append (· == '/') '/' rfl name.toList whole front
    exact ⟨(first :: others).map String.ofList, by simp [split]⟩
  rw [join, stretches]
  split
  · exact ⟨[], by simp [Text.stretches_of_no_break whole]⟩
  · split
    · rename_i slash
      obtain ⟨front, spelled⟩ := List.getLast?_eq_some_iff.mp slash
      simpa [spelled] using behind front
    · simpa using behind directory.toList

/-- The file that is named in a directory has that name. -/
theorem fileName?_join {path name : String} (named : fileName? path = some name)
    (directory : String) : fileName? (join directory name) = some name := by
  obtain ⟨member, full, noDot, noDots⟩ := of_fileName? named
  have whole : ∀ c ∈ name.toList, (c == '/') = false := by
    obtain ⟨stretch, cut, rfl⟩ := List.mem_map.mp member
    rw [String.toList_ofList]
    exact Text.whole_of_mem_stretches cut
  obtain ⟨others, ends⟩ := exists_stretches_join whole directory
  exact fileName?_of_stretches ends full noDot noDots

end Path

end ChatScript
