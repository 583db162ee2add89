import ChatScript.Json.Decode
import ChatScript.Json.Reader
import ChatScript.Program.Template
import ChatScript.Text.Lowercase
import Std.Data.ExtTreeMap

/-!
# Command registries

Named chat commands. The body of a command is either a script or a template; it is compiled once,
when the command is registered, and a script that cannot be parsed is rejected.
-/

namespace ChatScript

/-- How the body of a command is understood. -/
inductive CommandKind where
  | script
  | template
  deriving DecidableEq, Repr

/-- A registered command. -/
structure Command where
  name : String
  kind : CommandKind
  program : Program
  deriving Repr

/-- The lower-case form of a string. -/
def lowercase (content : String) : String :=
  String.ofList (Text.lower content.toList)

/-- Whether a trimmed line can only belong to a script: it starts with a statement keyword and a
space, or it is the keyword that ends a block. -/
def isScriptLine (line : List Char) : Bool :=
  line == "end".toList ||
    ["set ", "send ", "when "].any fun start => (Text.after? start.toList line).isSome

/-- Whether the body of a command is a script, judged by its lines. -/
def looksLikeScript (body : String) : Bool :=
  (Text.lines body.toList).any fun line => isScriptLine (Text.trim line)

/-- The name a command is registered under: without blanks around it, without the sigil that may
stand in front of it, and in lower case. -/
def commandKey (sigil name : String) : String :=
  let trimmed := Text.trim name.toList
  String.ofList (Text.lower ((Text.after? sigil.toList trimmed).getD trimmed))

/-- Compiles the body of a command, where scripts may have `limit` blocks open at once. -/
def compileBody (limit : Nat) (body : String) : Except ParseError (CommandKind × Program) :=
  if looksLikeScript body then (Program.parse limit body).map fun program => (.script, program)
  else .ok (.template, .ofTemplate body)

/-- Commands by the name they are registered under. -/
abbrev Registry := Std.ExtTreeMap String Command

namespace Registry

/-- Registers a command in place of an earlier one with the same name. -/
def add (registry : Registry) (sigil : String) (limit : Nat) (name body : String) :
    Except ParseError (CommandKind × Registry) := do
  let (kind, program) ← compileBody limit body
  let key := commandKey sigil name
  .ok (kind, registry.insert key ⟨key, kind, program⟩)

/-- The command with a name, in any case. -/
def find? (registry : Registry) (name : String) : Option Command :=
  registry.get? (lowercase name)

/-- The registry of a list of names and bodies, in order, and the names that were rejected. -/
def ofBodies (sigil : String) (limit : Nat) (bodies : List (String × String)) :
    Registry × List (String × ParseError) :=
  bodies.foldl
    (fun loaded entry =>
      match loaded.1.add sigil limit entry.1 entry.2 with
      | .ok (_, registry) => (registry, loaded.2)
      | .error error => (loaded.1, loaded.2 ++ [(entry.1, error)]))
    (∅, [])

/-- The registry of a JSON object of names and bodies, and the names that were rejected. Names are
registered in ascending order. -/
def read? (sigil : String) (limit : Nat) (document : String) :
    Option (Registry × List (String × ParseError)) :=
  ((Json.read? document).bind (Json.dictionary? Json.string?)).map fun bodies =>
    ofBodies sigil limit bodies.toList

end Registry

end ChatScript
