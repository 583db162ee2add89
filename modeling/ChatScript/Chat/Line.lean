import ChatScript.Text.Lowercase
import ChatScript.Text.Split

/-!
# Chat lines

A chat line is `user: message`. A message that starts with the command sigil invokes the command
that is named behind it, with the words after the name as arguments.
-/

namespace ChatScript.Chat

/-- A chat line: its user and the message. -/
structure Line where
  user : String
  message : String
  deriving DecidableEq, Repr

/-- A command and its arguments, as a message invokes it. -/
structure Invocation where
  command : String
  args : List String
  deriving DecidableEq, Repr

/-- The lines of what was typed in. -/
def inputLines (input : String) : List String :=
  (Text.lines input.toList).map String.ofList

/-- Splits a line at its first colon. There has to be a user in front of it, in one word. -/
def Line.read? (line : String) : Option Line := do
  let (user, message) ← Text.cutAt? ':' line.toList
  let user := Text.trim user
  if user.isEmpty || user.any Text.isBlank then none
  else pure ⟨String.ofList user, String.ofList (Text.trim message)⟩

/-- Reads the invocation of a command off a message. The name of the command is taken in lower
case. -/
def Invocation.read? (sigil message : String) : Option Invocation := do
  let rest ← Text.after? sigil.toList message.toList
  match Text.words rest with
  | [] => none
  | name :: args => pure ⟨String.ofList (Text.lower name), args.map String.ofList⟩

/-- A length of time in seconds, given by its two largest units. A negative length counts as
none. -/
def formatUptime (seconds : Int) : String :=
  let seconds := seconds.toNat
  let hours := seconds / 3600
  let minutes := seconds % 3600 / 60
  if 0 < hours then hours.repr ++ "h " ++ minutes.repr ++ "m"
  else if 0 < minutes then minutes.repr ++ "m " ++ (seconds % 60).repr ++ "s"
  else (seconds % 60).repr ++ "s"

end ChatScript.Chat
