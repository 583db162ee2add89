import ChatScript.Program.Parser

/-!
# Templates

A template is chat text with `$(...)` references and no statements. It becomes a program that
sends the text as one line, so templates and scripts are executed alike.
-/

namespace ChatScript

/-- The one line that a template stands for: its trimmed lines, without the empty ones, joined by
single spaces. -/
def templateLine (source : String) : List Char :=
  let kept := ((Text.lines source.toList).map Text.trim).filter fun line => !line.isEmpty
  [' '].intercalate kept

/-- The expression of a fragment of a template. A reference that cannot be parsed is text. -/
def templatePart : Fragment → Expr
  | .text content => .literal (.text content)
  | .reference body =>
    match embedded expression 1 body 0 with
    | .ok (value, _) => value
    | .error _ => .literal (.text ("$(" ++ body ++ ")"))

/-- The expression of a whole template. -/
def templateValue (source : String) : Expr :=
  match (templateFragments (templateLine source)).map templatePart with
  | [] => .literal (.text "")
  | parts => joinParts parts

/-- The program that sends the text of a template. -/
def Program.ofTemplate (source : String) : Program :=
  ⟨[.send (templateValue source) 1]⟩

end ChatScript
