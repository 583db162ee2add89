import ChatScript.Value

/-!
# Programs

The tree of a script. A program is a list of statements; statements carry the line they start on,
expressions do not.
-/

namespace ChatScript

/-- The operations on two values. -/
inductive BinaryOp where
  | add
  | subtract
  | equal
  | notEqual
  | less
  | lessEqual
  | greater
  | greaterEqual
  deriving DecidableEq, Repr

namespace BinaryOp

/-- The mark a script writes the operation with. -/
def symbol : BinaryOp → String
  | .add => "+"
  | .subtract => "-"
  | .equal => "=="
  | .notEqual => "!="
  | .less => "<"
  | .lessEqual => "<="
  | .greater => ">"
  | .greaterEqual => ">="

/-- Whether the operation compares its operands. -/
def isComparison : BinaryOp → Bool
  | .add | .subtract => false
  | _ => true

end BinaryOp

/-- An expression. -/
inductive Expr where
  | literal (value : Value)
  /-- A bare name, which only a variable can answer. -/
  | named (name : String)
  /-- The form `$(name)`, which a variable, a builtin or an argument position can answer. -/
  | reference (name : String)
  | call (function : String) (arguments : List Expr)
  /-- Texts and references written together in one string literal, in order. -/
  | interpolated (parts : List Expr)
  | binary (op : BinaryOp) (left right : Expr)
  deriving Repr, Inhabited

/-- A statement with the line it starts on. -/
inductive Statement where
  | set (name : String) (value : Expr) (line : Nat)
  | conditional (condition : Expr) (thenBranch : List Statement)
      (elseBranch : Option (List Statement)) (line : Nat)
  | send (value : Expr) (line : Nat)
  deriving Repr, Inhabited

/-- The line a statement starts on. -/
def Statement.line : Statement → Nat
  | .set _ _ line => line
  | .conditional _ _ _ line => line
  | .send _ line => line

/-- A script: its statements in the order of the source. -/
structure Program where
  statements : List Statement
  deriving Repr, Inhabited

end ChatScript
