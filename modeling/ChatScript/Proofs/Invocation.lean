import ChatScript.Proofs.Conversation
import ChatScript.Proofs.Interference
import ChatScript.Proofs.LowerCase
import ChatScript.Proofs.Registration

/-! # Invocations

A command can be invoked under every spelling of the name it was submitted with: registering a name
and reading it off a chat line come down to the same key (`Registry.find?_lowercase`), since a text
in lower case stays as it is. So a line that spells a registered name behind the sigil carries out
the program of that command, for the user and with the arguments of the line
(`Chat.Session.handle_invocationLine`).
-/

namespace ChatScript

/-! ## Lines -/

/-- A text with words behind it, each after a space. -/
def spaced (front : List Char) (words : List (List Char)) : List Char :=
  front ++ words.flatMap fun word => ' ' :: word

theorem spaced_cons (front word : List Char) (words : List (List Char)) :
    spaced front (word :: words) = front ++ ' ' :: spaced word words := by
  simp [spaced]

/-- Words with single spaces between them are these words. -/
theorem words_spaced {word : List Char} (isWord : Text.IsWord word) {others : List (List Char)}
    (areWords : ∀ other ∈ others, Text.IsWord other) :
    Text.words (spaced word others) = word :: others := by
  induction others generalizing word with
  | nil => rw [spaced, List.flatMap_nil, List.append_nil, isWord.words_eq]
  | cons other others ih =>
      rw [List.forall_mem_cons] at areWords
      rw [spaced_cons, isWord.words_append_blank (by decide), ih areWords.1 areWords.2]

/-- A text that ends in words does not end in a blank. -/
theorem getLast?_spaced {front word : List Char} (isWord : Text.IsWord word)
    {others : List (List Char)} (areWords : ∀ other ∈ others, Text.IsWord other) :
    ∀ c ∈ (front ++ spaced word others).getLast?, Text.isBlank c = false := by
  induction others generalizing front word with
  | nil =>
      intro c last
      rw [spaced, List.flatMap_nil, List.append_nil,
        List.getLast?_append_of_ne_nil _ isWord.nonempty] at last
      exact isWord.whole c (List.mem_of_mem_getLast? last)
  | cons other others ih =>
      rw [List.forall_mem_cons] at areWords
      rw [spaced_cons, ← List.append_assoc, List.append_cons]
      exact ih areWords.1 areWords.2

namespace Chat

/-- A line in which a user types the sigil, the name of a command and arguments. -/
def invocationLine (user sigil spelling : String) (args : List String) : String :=
  user ++ ": " ++ sigil ++ spelling ++ String.join (args.map fun arg => " " ++ arg)

/-- An invocation is a user, a colon, and the command with its arguments behind the sigil. -/
theorem toList_invocationLine (user sigil spelling : String) (args : List String) :
    (invocationLine user sigil spelling args).toList =
      user.toList ++ ':' :: ' ' :: (sigil.toList ++
        spaced spelling.toList (args.map String.toList)) := by
  simp [invocationLine, spaced, String.toList_join, List.flatMap_map]

variable {user sigil spelling : String} {args : List String}

/-- The line is read back: its message is the sigil with the name and the arguments. -/
theorem Line.read?_invocationLine (userWord : Text.IsWord user.toList)
    (noColon : ':' ∉ user.toList) (unpadded : ∀ c ∈ sigil.toList.head?, Text.isBlank c = false)
    (nameWord : Text.IsWord spelling.toList) (argWords : ∀ arg ∈ args, Text.IsWord arg.toList) :
    Line.read? (invocationLine user sigil spelling args) =
      some ⟨user, String.ofList (sigil.toList ++
        spaced spelling.toList (args.map String.toList))⟩ := by
  have front : ∀ c ∈ (sigil.toList ++ spaced spelling.toList (args.map String.toList)).head?,
      Text.isBlank c = false := by
    intro c first
    cases sigilChars : sigil.toList with
    | nil =>
        rw [sigilChars, List.nil_append, spaced, List.head?_append_of_ne_nil _ nameWord.nonempty]
          at first
        exact nameWord.whole c (List.mem_of_mem_head? first)
    | cons d rest =>
        rw [sigilChars] at first unpadded
        exact unpadded c first
  have trimmed := Text.trim_of_no_blank front
    (getLast?_spaced nameWord (List.forall_mem_map.mpr argWords))
  have notBlank : user.toList.any Text.isBlank = false := by
    rw [List.any_eq_false]
    simpa using userWord.whole
  rw [Line.read?, toList_invocationLine, Text.cutAt?_append noColon]
  simp only [Option.bind_eq_bind, Option.bind_some, userWord.trim_eq, notBlank,
    Text.trim_cons_blank (by decide : Text.isBlank ' ' = true), trimmed]
  simp [userWord.nonempty]

/-- A command is invoked by the lower-case form of its spelling, whatever arguments follow. -/
theorem Invocation.read?_spaced (nameWord : Text.IsWord spelling.toList)
    (argWords : ∀ arg ∈ args, Text.IsWord arg.toList) :
    Invocation.read? sigil (String.ofList (sigil.toList ++
        spaced spelling.toList (args.map String.toList))) =
      some ⟨lowercase spelling, args⟩ := by
  have follows : Text.after? sigil.toList (sigil.toList ++
      spaced spelling.toList (args.map String.toList)) = some _ :=
    Text.after?_eq_some_iff.mpr rfl
  rw [Invocation.read?, String.toList_ofList, follows]
  simp only [Option.bind_eq_bind, Option.bind_some,
    words_spaced nameWord (List.forall_mem_map.mpr argWords)]
  simp [lowercase]

end Chat

/-! ## Names -/

theorem lowercase_lowercase (content : String) :
    lowercase (lowercase content) = lowercase content := by
  rw [lowercase, lowercase, String.toList_ofList, Text.lower_lower]

/-- A command is found under every spelling of its name. -/
theorem Registry.find?_lowercase {sigil spelling : String} {earlier later : List Submission}
    {submission : Submission} {command : Command} (registers : submission.Registers sigil command)
    (latest : ∀ other ∈ later, ¬other.RegistersAs sigil command.name)
    (spelled : lowercase spelling = lowercase (bareName sigil submission.name)) :
    ((∅ : Registry).submitAll sigil (earlier ++ submission :: later)).find? (lowercase spelling) =
      some command := by
  rw [find?, lowercase_lowercase, spelled, registers.key]
  exact get?_submitAll_eq_some_iff.mpr ⟨rfl, earlier, submission, later, rfl, registers, latest⟩

namespace Chat

/-! ## Invocations -/

theorem Session.user_context (session : Session) (moment : Moment) (user command : String)
    (args : List String) : (session.context moment user command args).user = user := by
  rw [context, Context.registerValues_eq]
  rfl

/-- A registered command can be invoked: a line that spells its name in any case carries out its
program, for the user of the line, under the key of the command and with the arguments of the
line. -/
theorem Session.handle_invocationLine {session : Session} {moment : Moment}
    {user spelling : String} {args : List String} {earlier later : List Submission}
    {submission : Submission} {command : Command}
    (loaded : session.registry =
      (∅ : Registry).submitAll session.sigil (earlier ++ submission :: later))
    (registers : submission.Registers session.sigil command)
    (latest : ∀ other ∈ later, ¬other.RegistersAs session.sigil command.name)
    (unpadded : ∀ c ∈ session.sigil.toList.head?, Text.isBlank c = false)
    (userWord : Text.IsWord user.toList) (noColon : ':' ∉ user.toList)
    (nameWord : Text.IsWord spelling.toList)
    (spelled : lowercase spelling = lowercase (bareName session.sigil submission.name))
    (argWords : ∀ arg ∈ args, Text.IsWord arg.toList) :
    ∃ context, context = (session.heard (invocationLine user session.sigil spelling args)).context
        moment user command.name args ∧
      context.user = user ∧ context.command = command.name ∧ context.args = args ∧
      (session.handle moment (invocationLine user session.sigil spelling args)).1 =
        replies user <$> command.program.execute context := by
  have invoked : session.invoked? (invocationLine user session.sigil spelling args) =
      some (user, args, command) := by
    rw [invoked?, Line.read?_invocationLine userWord noColon unpadded nameWord argWords]
    simp only [Option.bind_eq_bind, Option.bind_some, Invocation.read?_spaced nameWord argWords,
      loaded, Registry.find?_lowercase registers latest spelled]
    rfl
  refine ⟨_, rfl, user_context .., congrArg Prod.snd (key_context ..), args_context .., ?_⟩
  rw [handle_fst, invoked]

/-- The name has a letter with a form of its own at the end of a word, and it is submitted again
with a body that is rejected. -/
theorem Session.handle_invocationLine_sigma :
    let submitted : Submission := ⟨" !ΟΔΟΣ ", "Off to $(touser)!", 1⟩
    let rejected : Submission := ⟨"οδος", "when 1 then", 1⟩
    let session := start "#den" "!" ((∅ : Registry).submitAll "!" [submitted, rejected]) ∅
    ∃ context, context.user = "ann" ∧ context.command = "οδος" ∧ context.args = ["@bob"] ∧
      (session.handle ⟨id, id, 0⟩ "ann: !οΔοΣ @bob").1 =
        replies "ann" <$> (Program.ofTemplate "Off to $(touser)!").execute context := by
  intro submitted rejected session
  have registers : submitted.Registers "!" ⟨"οδος", .template, .ofTemplate "Off to $(touser)!"⟩ :=
    ⟨by decide +kernel, .template (by decide +kernel)⟩
  have latest : ∀ other ∈ [rejected], ¬other.RegistersAs "!" "οδος" := by
    intro other member
    rw [List.mem_singleton.mp member]
    rintro ⟨command, registers, -⟩
    have failed : (compileBody rejected.limit rejected.body).isOk = false := by
      decide +kernel
    rw [compileBody_eq_ok_iff.mpr registers.compiles] at failed
    cases failed
  have unpadded : ∀ c ∈ ("!" : String).toList.head?, Text.isBlank c = false := by
    intro c first
    cases first
    decide
  have line : invocationLine "ann" "!" "οΔοΣ" ["@bob"] = "ann: !οΔοΣ @bob" := by
    decide +kernel
  obtain ⟨context, -, user, command, args, handled⟩ :=
    @handle_invocationLine session ⟨id, id, 0⟩ "ann" "οΔοΣ" ["@bob"] [] [rejected] submitted _ rfl
      registers latest unpadded (by decide) (by decide) (by decide) (by decide +kernel) (by decide)
  exact ⟨context, user, command, args, line ▸ handled⟩

end Chat

end ChatScript
