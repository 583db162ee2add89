import ChatScript.Text.Split

/-!
# Parse errors

A script that cannot be parsed is reported with the line at fault and the text of that line.
-/

namespace ChatScript

/-- A report about the source of a script. -/
structure ParseError where
  /-- The line at fault, counted from 1. -/
  line : Nat
  /-- The text of that line. -/
  sourceLine : String
  message : String
  deriving DecidableEq, Repr

namespace ParseError

/-- The text of line `line` of a source without the carriage returns at its end. A source without
such a line answers with no text, and line 0 means the first line. -/
def lineOf (source : String) (line : Nat) : String :=
  String.ofList
    (Text.dropAtEnd (· == '\r') ((Text.lines source.toList)[line - 1]?.getD []))

/-- The report of `message` about a line of a source. -/
def onLine (source : String) (line : Nat) (message : String) : ParseError :=
  ⟨line, lineOf source line, message⟩

/-- The report in one line. -/
def display (error : ParseError) : String :=
  "Parse error at line " ++ error.line.repr ++ ": " ++ error.message

end ParseError

end ChatScript
