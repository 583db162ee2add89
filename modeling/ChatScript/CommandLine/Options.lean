import ChatScript.Text.Split

/-!
# Options on a command line

Splitting the words of a command line into options and operands. An option has a long name, and
may have a letter; letters can be joined behind one dash. An option that takes a value has it
behind an equals sign, directly behind its letter, or in the next word, which then must not look
like an option itself. Two dashes end the options.
-/

namespace ChatScript.CommandLine

/-- Why a command line is not carried out: it is wrong, or it only asks for information. -/
inductive Usage where
  | wrong
  | help
  | version
  deriving DecidableEq, Repr

/-- An option that a command knows. -/
structure OptionSpec where
  name : String
  letter : Option Char
  takesValue : Bool

/-- A part of a command line. -/
inductive Item where
  | option (name value : String)
  | operand (word : String)
  /-- The words behind two dashes. -/
  | trailing (words : List String)
  /-- A command and the words behind it. -/
  | command (name : String) (words : List String)
  /-- A request for information. Nothing behind it is read. -/
  | question (usage : Usage)
  deriving DecidableEq, Repr

/-- Whether a word can only be an option, and not the value of one. -/
def looksLikeOption (word : String) : Bool :=
  match word.toList with
  | '-' :: _ :: _ => true
  | _ => false

/-- The item that an option without a value is. -/
def flag (name : String) : Item :=
  if name = "help" then .question .help
  else if name = "version" then .question .version
  else .option name ""

/-- The first request for information among items. -/
def questionOf? (items : List Item) : Option Usage :=
  items.findSome? fun item =>
    match item with
    | .question usage => some usage
    | _ => none

/-- Reads letters that are joined behind one dash. Also returns the option that waits for its
value in the next word, if there is one. -/
def readLetters (specs : List OptionSpec) :
    List Char → Except Usage (List Item × Option OptionSpec)
  | [] => .ok ([], none)
  | letter :: letters =>
    match specs.find? (·.letter == some letter) with
    | none => .error .wrong
    | some spec =>
      if spec.takesValue then
        match letters with
        | [] => .ok ([], some spec)
        | '=' :: value => .ok ([.option spec.name (String.ofList value)], none)
        | value => .ok ([.option spec.name (String.ofList value)], none)
      else
        match flag spec.name with
        | .question usage => .ok ([.question usage], none)
        | item => do
          let (items, waiting) ← readLetters specs letters
          .ok (item :: items, waiting)

/-- Reads a word behind two dashes. -/
def readLong (specs : List OptionSpec) (word : List Char) :
    Except Usage (List Item × Option OptionSpec) :=
  let (name, value) :=
    match Text.cutAt? '=' word with
    | some (name, value) => (name, some (String.ofList value))
    | none => (word, none)
  match specs.find? (·.name == String.ofList name) with
  | none => .error .wrong
  | some spec =>
    match spec.takesValue, value with
    | true, some value => .ok ([.option spec.name value], none)
    | true, none => .ok ([], some spec)
    | false, some _ => .error .wrong
    | false, none => .ok ([flag spec.name], none)

/-- Reads the words of a command line, where `waiting` is the option whose value comes next. If
`stops` holds, the first operand is a command and all words behind it belong to it. Reading ends
at a request for information. -/
def readItems (specs : List OptionSpec) (stops : Bool) :
    (waiting : Option OptionSpec) → List String → Except Usage (List Item)
  | none, [] => .ok []
  | some _, [] => .error .wrong
  | some spec, word :: words =>
    if looksLikeOption word then .error .wrong
    else do
      let items ← readItems specs stops none words
      .ok (.option spec.name word :: items)
  | none, word :: words =>
    match word.toList with
    | ['-', '-'] => .ok [.trailing words]
    | '-' :: '-' :: long => do
      let (items, waiting) ← readLong specs long
      if (questionOf? items).isSome then .ok items
      else
        let others ← readItems specs stops waiting words
        .ok (items ++ others)
    | '-' :: letter :: letters => do
      let (items, waiting) ← readLetters specs (letter :: letters)
      if (questionOf? items).isSome then .ok items
      else
        let others ← readItems specs stops waiting words
        .ok (items ++ others)
    | _ =>
      if stops then .ok [.command word words]
      else do
        let items ← readItems specs stops none words
        .ok (.operand word :: items)

/-- The values that an option is given, in order. -/
def valuesOf (items : List Item) (name : String) : List String :=
  items.filterMap fun item =>
    match item with
    | .option other value => if other = name then some value else none
    | _ => none

/-- The operands in front of two dashes. -/
def operandsOf (items : List Item) : List String :=
  items.filterMap fun item =>
    match item with
    | .operand word => some word
    | _ => none

/-- The words behind two dashes. -/
def trailingOf (items : List Item) : List String :=
  items.flatMap fun item =>
    match item with
    | .trailing words => words
    | _ => []

/-- The command and the words behind it. -/
def commandOf? (items : List Item) : Option (String × List String) :=
  items.findSome? fun item =>
    match item with
    | .command name words => some (name, words)
    | _ => none

/-- The value of an option that may be given once. -/
def single? (items : List Item) (name : String) : Except Usage (Option String) :=
  match valuesOf items name with
  | [] => .ok none
  | [value] => .ok (some value)
  | _ => .error .wrong

/-- A path, which has to have at least one character. -/
def checkedPath : Option String → Except Usage (Option String)
  | some "" => .error .wrong
  | path => .ok path

/-- The path that an option may be given once. -/
def singlePath? (items : List Item) (name : String) : Except Usage (Option String) := do
  checkedPath (← single? items name)

/-- Whether an option without a value is given, at most once. -/
def isGiven (items : List Item) (name : String) : Except Usage Bool := do
  .ok (← single? items name).isSome

/-- Answers a request for information. What is wrong in front of the request has to be found
before. -/
def answerQuestion (items : List Item) : Except Usage Unit :=
  match questionOf? items with
  | some usage => .error usage
  | none => .ok ()

/-- A value that has to be given, unless the command line only asks for information. -/
def required {α : Type} (items : List Item) : Option α → Except Usage α
  | some value => .ok value
  | none => .error ((questionOf? items).getD .wrong)

/-- The single path among operands, if there is one. -/
def onePath : List String → Except Usage (Option String)
  | [] => .ok none
  | [word] => checkedPath (some word)
  | _ => .error .wrong

end ChatScript.CommandLine
