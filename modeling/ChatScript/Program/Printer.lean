import ChatScript.Program

/-!
# Printing

The canonical text of a program: one statement per line, two spaces of indentation per open block,
double quotes around text, and parentheses only where the tree needs them.
-/

namespace ChatScript

/-- The characters that stand for `c` between double quotes. -/
def escapeChar (c : Char) : List Char :=
  if c = '"' then ['\\', '"']
  else if c = '\\' then ['\\', '\\']
  else if c = '$' then ['\\', '$']
  else if c = '\n' then ['\\', 'n']
  else if c = '\t' then ['\\', 't']
  else [c]

/-- The text between double quotes that stands for `content`. -/
def escape (content : String) : String :=
  String.ofList (content.toList.flatMap escapeChar)

/-- Double quotes around text that is already escaped. -/
def inQuotes (escaped : String) : String :=
  "\"" ++ escaped ++ "\""

/-- Parentheses around a text, if they are needed. -/
def inParens (needed : Bool) (content : String) : String :=
  if needed then "(" ++ content ++ ")" else content

/-- How tightly an operation binds its operands. -/
def BinaryOp.strength (op : BinaryOp) : Nat :=
  if op.isComparison then 1 else 2

/-- Whether the left operand of `op` needs parentheses: a weaker operation does, and so does a
comparison inside a comparison. -/
def leftNeedsParens (op : BinaryOp) : Expr → Bool
  | .binary inner _ _ =>
    inner.strength < op.strength || (op.isComparison && inner.strength == op.strength)
  | _ => false

/-- Whether the right operand of `op` needs parentheses: any operation does that does not bind
more tightly. -/
def rightNeedsParens (op : BinaryOp) : Expr → Bool
  | .binary inner _ _ => inner.strength ≤ op.strength
  | _ => false

mutual

/-- The canonical text of an expression. -/
def Expr.render : Expr → String
  | .literal (.text content) => inQuotes (escape content)
  | .literal value => value.toText
  | .named name => name
  | .reference name => "$(" ++ name ++ ")"
  | .call function arguments =>
    function ++ "(" ++ String.intercalate ", " (renderAll arguments) ++ ")"
  | .interpolated parts => inQuotes (renderParts parts)
  | .binary op left right =>
    inParens (leftNeedsParens op left) left.render ++ " " ++ op.symbol ++ " " ++
      inParens (rightNeedsParens op right) right.render

/-- The canonical texts of several expressions. -/
def renderAll : List Expr → List String
  | [] => []
  | expr :: exprs => expr.render :: renderAll exprs

/-- The parts of a string literal between its quotes: text is escaped, and everything else is put
into a reference. -/
def renderParts : List Expr → String
  | [] => ""
  | .literal value :: parts => escape value.toText ++ renderParts parts
  | .reference name :: parts => "$(" ++ name ++ ")" ++ renderParts parts
  | part :: parts => "$(" ++ part.render ++ ")" ++ renderParts parts

end

/-- The indentation of a line inside of `depth` blocks. -/
def indent (depth : Nat) : String :=
  String.ofList (List.replicate (2 * depth) ' ')

/-- A line of canonical text inside of `depth` blocks. -/
def printedLine (depth : Nat) (content : String) : String :=
  indent depth ++ content ++ "\n"

mutual

/-- The canonical text of a statement inside of `depth` blocks. -/
def Statement.renderAt (depth : Nat) : Statement → String
  | .set name value _ => printedLine depth ("set " ++ name ++ " " ++ value.render)
  | .send value _ => printedLine depth ("send " ++ value.render)
  | .conditional condition thenBranch none _ =>
    printedLine depth ("when " ++ condition.render ++ " then") ++
      renderBlock (depth + 1) thenBranch ++ printedLine depth "end"
  | .conditional condition thenBranch (some elseBranch) _ =>
    printedLine depth ("when " ++ condition.render ++ " then") ++
      renderBlock (depth + 1) thenBranch ++ printedLine depth "else" ++
      renderBlock (depth + 1) elseBranch ++ printedLine depth "end"

/-- The canonical text of the statements inside of `depth` blocks. -/
def renderBlock (depth : Nat) : List Statement → String
  | [] => ""
  | statement :: statements => statement.renderAt depth ++ renderBlock depth statements

end

/-- The canonical text of a program. -/
def Program.render (program : Program) : String :=
  renderBlock 0 program.statements

@[simp] theorem renderAll_eq_map (exprs : List Expr) : renderAll exprs = exprs.map Expr.render := by
  induction exprs with
  | nil => rfl
  | cons expr exprs ih => simp [renderAll, ih]

end ChatScript
