import ChatScript.Proofs.NormalForm
import ChatScript.Registry
import Mathlib.Data.String.Basic
import Mathlib.Order.Bounds.Basic

/-! # Registration

A registry takes submissions, names with bodies, one after the other. The last submission that was
accepted for a key is the command under that key (`Registry.get?_submitAll_eq_some_iff`), and one
that is rejected leaves the registry as it is.

The entries of a JSON object of commands are submitted in the order of their names. So a key belongs
to the greatest of the names with an accepted body that come down to it, and the rejected names are
listed in ascending order, each with the error of its script (`Registry.read?_of_dictionary`).
-/

namespace ChatScript

/-! ## Bodies -/

/-- What the body of a command is compiled to, where scripts may have `limit` blocks open at
once. -/
inductive Compiles (limit : Nat) (body : String) : CommandKind → Program → Prop
  | script {program : Program} (isScript : looksLikeScript body = true)
      (parsed : Program.parse limit body = .ok program) : Compiles limit body .script program
  | template (isTemplate : looksLikeScript body = false) :
      Compiles limit body .template (.ofTemplate body)

/-- A body is rejected for an error if it is a script that cannot be parsed. -/
structure Rejects (limit : Nat) (body : String) (error : ParseError) : Prop where
  isScript : looksLikeScript body = true
  failed : Program.parse limit body = .error error

variable {limit : Nat} {body : String}

/-- A body compiles as a script if it looks like one and can be parsed, and as a template if it does
not. -/
theorem compileBody_eq_ok_iff {kind : CommandKind} {program : Program} :
    compileBody limit body = .ok (kind, program) ↔ Compiles limit body kind program := by
  rw [compileBody]
  constructor
  · intro compiled
    split at compiled
    · next isScript =>
      cases parsed : Program.parse limit body with
      | error error => simp [parsed, Except.map] at compiled
      | ok program' =>
          simp only [parsed, Except.map, Except.ok.injEq, Prod.mk.injEq] at compiled
          obtain ⟨rfl, rfl⟩ := compiled
          exact .script isScript parsed
    · next isTemplate =>
      simp only [Except.ok.injEq, Prod.mk.injEq] at compiled
      obtain ⟨rfl, rfl⟩ := compiled
      exact .template (Bool.eq_false_iff.mpr isTemplate)
  · intro compiles
    cases compiles with
    | script isScript parsed => rw [if_pos isScript, parsed, Except.map]
    | template isTemplate => rw [isTemplate]; rfl

/-- Only a body that looks like a script can be rejected. -/
theorem compileBody_eq_error_iff {error : ParseError} :
    compileBody limit body = .error error ↔ Rejects limit body error := by
  rw [compileBody]
  constructor
  · intro failed
    split at failed
    · next isScript =>
      cases parsed : Program.parse limit body with
      | error error' =>
          simp only [parsed, Except.map, Except.error.injEq] at failed
          exact ⟨isScript, by rw [parsed, failed]⟩
      | ok program => simp [parsed, Except.map] at failed
    · simp at failed
  · intro rejects
    rw [if_pos rejects.isScript, rejects.failed, Except.map]

/-! ## Names -/

/-- A name as it was submitted, without blanks around it and without the sigil in front of it. -/
def bareName (sigil name : String) : String :=
  let trimmed := Text.trim name.toList
  String.ofList ((Text.after? sigil.toList trimmed).getD trimmed)

/-- A command is registered under its bare name in lower case. -/
theorem commandKey_eq (sigil name : String) :
    commandKey sigil name = lowercase (bareName sigil name) := by
  rw [lowercase, bareName, String.toList_ofList, commandKey]

/-! ## Submissions -/

/-- A name and a body that are to be registered, and how many blocks a script may have open. -/
structure Submission where
  name : String
  body : String
  limit : Nat

/-- A submission is accepted as a command, which has the bare name in lower case. -/
structure Submission.Registers (sigil : String) (submission : Submission) (command : Command) :
    Prop where
  key : lowercase (bareName sigil submission.name) = command.name
  compiles : Compiles submission.limit submission.body command.kind command.program

/-- A submission is accepted under a key. -/
def Submission.RegistersAs (sigil key : String) (submission : Submission) : Prop :=
  ∃ command, submission.Registers sigil command ∧ command.name = key

namespace Registry

variable (registry : Registry) (sigil : String)

/-- The registry after a submission. -/
def submit (submission : Submission) : Registry :=
  match registry.add sigil submission.limit submission.name submission.body with
  | .ok (_, registry) => registry
  | .error _ => registry

/-- The registry after several submissions. -/
def submitAll (submissions : List Submission) : Registry :=
  submissions.foldl (fun registry submission => registry.submit sigil submission) registry

variable {registry sigil} {submission : Submission}

/-- A submission that is accepted takes the place of what was registered under its key. -/
theorem submit_of_registers {command : Command} (registers : submission.Registers sigil command) :
    registry.submit sigil submission = registry.insert command.name command := by
  rw [submit, add, compileBody_eq_ok_iff.mpr registers.compiles, commandKey_eq,
    registers.key]
  rfl

/-- A rejected submission leaves the registry as it is. -/
theorem submit_of_rejects {error : ParseError}
    (rejects : Rejects submission.limit submission.body error) :
    registry.submit sigil submission = registry := by
  rw [submit, add, compileBody_eq_error_iff.mpr rejects]
  rfl

variable (sigil submission) in
/-- A submission is accepted as one command, or rejected for an error. -/
theorem registers_or_rejects :
    (∃ command, submission.Registers sigil command) ∨
      ∃ error, Rejects submission.limit submission.body error := by
  cases compiled : compileBody submission.limit submission.body with
  | ok accepted =>
      obtain ⟨kind, program⟩ := accepted
      exact .inl ⟨⟨lowercase (bareName sigil submission.name), kind, program⟩, rfl,
        compileBody_eq_ok_iff.mp compiled⟩
  | error error => exact .inr ⟨error, compileBody_eq_error_iff.mp compiled⟩

/-- A key keeps its command when a submission is not accepted under it. -/
theorem get?_submit_of_not_registersAs {key : String}
    (other : ¬submission.RegistersAs sigil key) :
    (registry.submit sigil submission).get? key = registry.get? key := by
  rcases registers_or_rejects sigil submission with ⟨command, registers⟩ | ⟨error, rejects⟩
  · have distinct : command.name ≠ key := fun same => other ⟨command, registers, same⟩
    rw [submit_of_registers registers, Std.ExtTreeMap.get?_eq_getElem?,
      Std.ExtTreeMap.getElem?_insert, if_neg (by simpa using distinct),
      Std.ExtTreeMap.get?_eq_getElem?]
  · rw [submit_of_rejects rejects]

theorem get?_submit_of_registers {command : Command}
    (registers : submission.Registers sigil command) :
    (registry.submit sigil submission).get? command.name = some command := by
  rw [submit_of_registers registers, Std.ExtTreeMap.get?_eq_getElem?,
    Std.ExtTreeMap.getElem?_insert_self]

/-- Submissions that are not accepted under a key do not touch its command. -/
theorem get?_submitAll_of_not_registersAs {submissions : List Submission} {key : String}
    (others : ∀ other ∈ submissions, ¬other.RegistersAs sigil key) :
    (registry.submitAll sigil submissions).get? key = registry.get? key := by
  induction submissions generalizing registry with
  | nil => rfl
  | cons submission submissions ih =>
      rw [List.forall_mem_cons] at others
      exact (ih others.2).trans (get?_submit_of_not_registersAs others.1)

/-- A key has a command as soon as a submission is accepted under it. -/
theorem get?_submitAll_of_registersAs {submissions : List Submission} {key : String}
    (member : submission ∈ submissions) (registers : submission.RegistersAs sigil key) :
    ∃ command, (registry.submitAll sigil submissions).get? key = some command := by
  induction submissions generalizing registry submission with
  | nil => cases member
  | cons first others ih =>
      by_cases again : ∃ other ∈ others, other.RegistersAs sigil key
      · obtain ⟨other, later, accepted⟩ := again
        exact ih later accepted
      · have quiet : ∀ other ∈ others, ¬other.RegistersAs sigil key :=
          fun other later accepted => again ⟨other, later, accepted⟩
        obtain rfl := (List.mem_cons.mp member).resolve_right fun later => quiet _ later registers
        obtain ⟨command, accepted, rfl⟩ := registers
        exact ⟨command, (get?_submitAll_of_not_registersAs quiet).trans
          (get?_submit_of_registers accepted)⟩

/-- The command under a key is what the last submission was accepted as that was accepted under
that key. -/
theorem get?_submitAll_eq_some_iff {submissions : List Submission} {key : String}
    {command : Command} :
    ((∅ : Registry).submitAll sigil submissions).get? key = some command ↔
      command.name = key ∧ ∃ earlier submission later,
        submissions = earlier ++ submission :: later ∧ submission.Registers sigil command ∧
          ∀ other ∈ later, ¬other.RegistersAs sigil key := by
  constructor
  · intro found
    induction submissions using List.reverseRecOn with
    | nil => simp [submitAll] at found
    | append_singleton front last ih =>
        rw [submitAll, List.foldl_concat] at found
        by_cases decides : last.RegistersAs sigil key
        · obtain ⟨winner, registers, rfl⟩ := decides
          rw [get?_submit_of_registers registers, Option.some.injEq] at found
          subst found
          exact ⟨rfl, front, last, [], rfl, registers, by simp⟩
        · rw [get?_submit_of_not_registersAs decides] at found
          obtain ⟨named, earlier, submission, later, rfl, registers, others⟩ := ih found
          refine ⟨named, earlier, submission, later ++ [last], by simp, registers, ?_⟩
          simpa [or_imp, forall_and, decides] using others
  · rintro ⟨rfl, earlier, submission, later, rfl, registers, others⟩
    rw [submitAll, List.foldl_append, List.foldl_cons]
    exact (get?_submitAll_of_not_registersAs others).trans (get?_submit_of_registers registers)

/-! ## Objects of commands -/

variable (sigil) (limit : Nat)

/-- What is reported of a name with its body: its error, if it is rejected. -/
def rejection? (entry : String × String) : Option (String × ParseError) :=
  match compileBody limit entry.2 with
  | .ok _ => none
  | .error error => some (entry.1, error)

/-- A list of names and bodies registers what they do as submissions, and reports the rejected ones
in their order. -/
theorem ofBodies_eq (bodies : List (String × String)) :
    ofBodies sigil limit bodies =
      ((∅ : Registry).submitAll sigil (bodies.map fun entry => ⟨entry.1, entry.2, limit⟩),
        bodies.filterMap (rejection? limit)) := by
  induction bodies using List.reverseRecOn with
  | nil => rfl
  | append_singleton front last ih =>
      rw [ofBodies, List.foldl_concat, ← ofBodies, ih, List.map_append, submitAll, submitAll,
        List.foldl_append, List.filterMap_append]
      cases compiled : compileBody limit last.2 <;>
        simp [submit, add, rejection?, compiled, bind, Except.bind]

variable {sigil limit} {bodies : Std.ExtTreeMap String String}

variable (bodies limit) in
/-- The submissions of an object of commands, in the order of their names. -/
def submissionsOf : List Submission :=
  bodies.toList.map fun entry => ⟨entry.1, entry.2, limit⟩

/-- Every name of an object of commands is submitted with its body. -/
theorem mem_submissionsOf_iff :
    submission ∈ submissionsOf limit bodies ↔
      bodies.get? submission.name = some submission.body ∧ submission.limit = limit := by
  simp only [submissionsOf, List.mem_map, Prod.exists, Std.ExtTreeMap.get?_eq_getElem?,
    Std.ExtTreeMap.mem_toList_iff_getElem?_eq_some]
  constructor
  · rintro ⟨name, body, entry, rfl⟩
    exact ⟨entry, rfl⟩
  · rintro ⟨entry, rfl⟩
    exact ⟨submission.name, submission.body, entry, rfl⟩

/-- Submissions are made in the order of their names. -/
theorem pairwise_submissionsOf :
    (submissionsOf limit bodies).Pairwise fun first second => first.name < second.name :=
  List.pairwise_map.mpr (Std.ExtTreeMap.ordered_keys_toList.imp compare_lt_iff_lt.mp)

/-- The rejections of an object of commands are those of its scripts that cannot be parsed. -/
theorem mem_rejections_iff {name : String} {error : ParseError} :
    (name, error) ∈ bodies.toList.filterMap (rejection? limit) ↔
      ∃ body, bodies.get? name = some body ∧ Rejects limit body error := by
  simp only [List.mem_filterMap, Prod.exists, Std.ExtTreeMap.mem_toList_iff_getElem?_eq_some,
    Std.ExtTreeMap.get?_eq_getElem?, ← compileBody_eq_error_iff, rejection?]
  constructor
  · rintro ⟨name', body, entry, reported⟩
    cases compiled : compileBody limit body with
    | ok accepted => simp [compiled] at reported
    | error error' =>
        simp only [compiled, Option.some.injEq, Prod.mk.injEq] at reported
        obtain ⟨rfl, rfl⟩ := reported
        exact ⟨body, entry, compiled⟩
  · rintro ⟨body, entry, failed⟩
    exact ⟨name, body, entry, by rw [failed]⟩

/-- The rejections are listed in the order of their names. -/
theorem pairwise_rejections :
    (bodies.toList.filterMap (rejection? limit)).Pairwise fun first second =>
      first.1 < second.1 := by
  have named {entry : String × String} {report : String × ParseError}
      (reported : rejection? limit entry = some report) : report.1 = entry.1 := by
    rw [rejection?] at reported
    cases compiled : compileBody limit entry.2 <;> simp [compiled] at reported
    rw [← reported]
  refine List.Pairwise.filterMap _ ?_ Std.ExtTreeMap.ordered_keys_toList
  intro first second ascending firstReport firstReported secondReport secondReported
  rw [named firstReported, named secondReported]
  exact compare_lt_iff_lt.mp ascending

variable (sigil limit bodies) in
/-- The names of an object of commands that are accepted under a key. -/
def namesOf (key : String) : Set String :=
  {name | ∃ body, bodies.get? name = some body ∧
    (Submission.mk name body limit).RegistersAs sigil key}

/-- What an object of commands is loaded as: the registry, and the names that were rejected. -/
structure LoadedAs (sigil : String) (limit : Nat) (bodies : Std.ExtTreeMap String String)
    (registry : Registry) (rejected : List (String × ParseError)) : Prop where
  present : ∀ key, key ∈ registry ↔ (namesOf sigil limit bodies key).Nonempty
  greatest : ∀ key command, registry.get? key = some command →
    command.name = key ∧ ∃ name body, IsGreatest (namesOf sigil limit bodies key) name ∧
      bodies.get? name = some body ∧ Compiles limit body command.kind command.program
  ascending : rejected.Pairwise fun first second => first.1 < second.1
  reported : ∀ name error, (name, error) ∈ rejected ↔
    ∃ body, bodies.get? name = some body ∧ Rejects limit body error

/-- A name with a body that compiles is accepted under its bare name in lower case. -/
theorem mem_namesOf_of_isOk {name body : String} (entry : bodies.get? name = some body)
    (compiles : (compileBody limit body).isOk) :
    name ∈ namesOf sigil limit bodies (lowercase (bareName sigil name)) := by
  cases compiled : compileBody limit body with
  | ok accepted =>
      exact ⟨body, entry, ⟨_, accepted.1, accepted.2⟩,
        ⟨rfl, compileBody_eq_ok_iff.mp compiled⟩, rfl⟩
  | error error =>
      rw [compiled] at compiles
      cases compiles

/-- What is submitted and accepted under a key is one of the names of the key. -/
theorem mem_namesOf_of_mem {key : String} (member : submission ∈ submissionsOf limit bodies)
    (registers : submission.RegistersAs sigil key) :
    submission.name ∈ namesOf sigil limit bodies key := by
  obtain ⟨entry, rfl⟩ := mem_submissionsOf_iff.mp member
  exact ⟨submission.body, entry, registers⟩

/-- The last submission accepted under a key has the greatest name. -/
theorem isGreatest_namesOf {key : String} {earlier later : List Submission}
    (split : submissionsOf limit bodies = earlier ++ submission :: later)
    (registers : submission.RegistersAs sigil key)
    (others : ∀ other ∈ later, ¬other.RegistersAs sigil key) :
    IsGreatest (namesOf sigil limit bodies key) submission.name := by
  refine ⟨mem_namesOf_of_mem (by simp [split]) registers, ?_⟩
  rintro name ⟨body, entry, accepted⟩
  have member : Submission.mk name body limit ∈ submissionsOf limit bodies :=
    mem_submissionsOf_iff.mpr ⟨entry, rfl⟩
  have ascending := @pairwise_submissionsOf limit bodies
  rw [split] at member ascending
  rw [List.pairwise_append] at ascending
  rcases List.mem_append.mp member with before | rest
  · exact (ascending.2.2 _ before _ List.mem_cons_self).le
  · rcases List.mem_cons.mp rest with rfl | after
    · exact le_rfl
    · exact absurd accepted (others _ after)

/-- Submitting all commands of an object loads it. -/
theorem loadedAs_submitAll :
    LoadedAs sigil limit bodies ((∅ : Registry).submitAll sigil (submissionsOf limit bodies))
      (bodies.toList.filterMap (rejection? limit)) where
  present key := by
    rw [Std.ExtTreeMap.mem_iff_isSome_getElem?, Option.isSome_iff_exists]
    constructor
    · rintro ⟨command, found⟩
      obtain ⟨rfl, earlier, submission, later, split, registers, -⟩ :=
        get?_submitAll_eq_some_iff.mp found
      exact ⟨submission.name, mem_namesOf_of_mem (by simp [split]) ⟨command, registers, rfl⟩⟩
    · rintro ⟨name, body, entry, accepted⟩
      exact get?_submitAll_of_registersAs
        (mem_submissionsOf_iff.mpr ⟨entry, rfl⟩) accepted
  greatest key command found := by
    obtain ⟨rfl, earlier, submission, later, split, registers, others⟩ :=
      get?_submitAll_eq_some_iff.mp found
    have member : submission ∈ submissionsOf limit bodies := by simp [split]
    obtain ⟨entry, rfl⟩ := mem_submissionsOf_iff.mp member
    exact ⟨rfl, submission.name, submission.body,
      isGreatest_namesOf split ⟨command, registers, rfl⟩ others, entry, registers.compiles⟩
  ascending := pairwise_rejections
  reported _ _ := mem_rejections_iff

/-- The registry of an object of commands holds, under each key, the command of the greatest name
that is accepted under it, and the names with a rejected body are reported in order. A rejected body
makes no difference to the registry, whatever is submitted before and after it. -/
theorem read?_of_dictionary {document : String}
    (decoded : (Json.read? document).bind (Json.dictionary? Json.string?) = some bodies) :
    (∃ registry rejected, Registry.read? sigil limit document = some (registry, rejected) ∧
      LoadedAs sigil limit bodies registry rejected) ∧
    ∀ earlier name body error later, Rejects limit body error →
      (ofBodies sigil limit (earlier ++ (name, body) :: later)).1 =
        (ofBodies sigil limit (earlier ++ later)).1 := by
  refine ⟨⟨_, _, ?_, loadedAs_submitAll⟩, ?_⟩
  · rw [read?, decoded, Option.map_some, ofBodies_eq]
    rfl
  · intro earlier name body error later rejects
    have ignored (registry : Registry) : registry.submit sigil ⟨name, body, limit⟩ = registry :=
      submit_of_rejects rejects
    simp only [ofBodies_eq, submitAll, List.map_append, List.map_cons, List.foldl_append,
      List.foldl_cons, ignored]

/-- An object of commands with three names for one key. -/
def hugs : String :=
  "\x7b\" HUG \": \"when 1 then\", \"hug\": \"send 2\", \"!Hug\": \"Hug!\"\x7d"

/-- The entries of that object. -/
def hugBodies : Std.ExtTreeMap String String :=
  .ofList [(" HUG ", "when 1 then"), ("!Hug", "Hug!"), ("hug", "send 2")]

/-- Two names meet in one key, where the greater one is the command, and a third one is rejected. -/
theorem read?_of_dictionary_hugs :
    (Json.read? hugs).bind (Json.dictionary? Json.string?) = some hugBodies ∧
      "!Hug" ∈ namesOf "!" 1 hugBodies "hug" ∧ "hug" ∈ namesOf "!" 1 hugBodies "hug" ∧
      ∃ registry rejected, Registry.read? "!" 1 hugs = some (registry, rejected) ∧
        LoadedAs "!" 1 hugBodies registry rejected ∧
        (registry.get? "hug").map Command.kind = some .script ∧
        (registry.get? "!Hug").map Command.kind = none ∧
        rejected.map Prod.fst = [" HUG "] := by
  have decoded : (Json.read? hugs).bind (Json.dictionary? Json.string?) = some hugBodies := by
    decide +kernel
  have meets :
      lowercase (bareName "!" "!Hug") = "hug" ∧ lowercase (bareName "!" "hug") = "hug" := by
    decide +kernel
  have sigiled : "!Hug" ∈ namesOf "!" 1 hugBodies (lowercase (bareName "!" "!Hug")) :=
    mem_namesOf_of_isOk (show hugBodies.get? "!Hug" = some "Hug!" by decide +kernel)
      (by decide +kernel)
  have plain : "hug" ∈ namesOf "!" 1 hugBodies (lowercase (bareName "!" "hug")) :=
    mem_namesOf_of_isOk (show hugBodies.get? "hug" = some "send 2" by decide +kernel)
      (by decide +kernel)
  rw [meets.1] at sigiled
  rw [meets.2] at plain
  have found : (Registry.read? "!" 1 hugs).map (fun result =>
      ((result.1.get? "hug").map Command.kind, (result.1.get? "!Hug").map Command.kind,
        result.2.map Prod.fst)) = some (some .script, none, [" HUG "]) := by
    decide +kernel
  obtain ⟨⟨registry, rejected, loaded, loadedAs⟩, -⟩ :=
    @read?_of_dictionary "!" 1 hugBodies hugs decoded
  rw [loaded, Option.map_some, Option.some.injEq, Prod.mk.injEq, Prod.mk.injEq] at found
  exact ⟨decoded, sigiled, plain, registry, rejected, loaded, loadedAs, found⟩

end Registry

end ChatScript
