import ChatScript.Program

/-!
# Equality of programs

Programs are compared part by part. Names, operations and lines have to be the same. Literals are
compared as a script compares values, so a text may face the number that it holds.
-/

namespace ChatScript

mutual

/-- Whether two expressions are equal part by part. -/
def Expr.agrees : Expr → Expr → Bool
  | .literal a, .literal b => a.agrees b
  | .named a, .named b => a == b
  | .reference a, .reference b => a == b
  | .call function arguments, .call other others =>
    function == other && allAgree arguments others
  | .interpolated parts, .interpolated others => allAgree parts others
  | .binary op left right, .binary op' left' right' =>
    op == op' && left.agrees left' && right.agrees right'
  | _, _ => false

/-- Whether there are as many expressions on both sides and each is equal to its counterpart. -/
def allAgree : List Expr → List Expr → Bool
  | [], [] => true
  | expr :: exprs, other :: others => expr.agrees other && allAgree exprs others
  | _, _ => false

end

mutual

/-- Whether two statements are equal part by part, with their lines. -/
def Statement.agrees : Statement → Statement → Bool
  | .set name value line, .set name' value' line' =>
    name == name' && value.agrees value' && line == line'
  | .conditional condition thenBranch none line,
      .conditional condition' thenBranch' none line' =>
    condition.agrees condition' && blockAgrees thenBranch thenBranch' && line == line'
  | .conditional condition thenBranch (some elseBranch) line,
      .conditional condition' thenBranch' (some elseBranch') line' =>
    condition.agrees condition' && blockAgrees thenBranch thenBranch' &&
      blockAgrees elseBranch elseBranch' && line == line'
  | .send value line, .send value' line' => value.agrees value' && line == line'
  | _, _ => false

/-- Whether two blocks have equal statements in the same order. -/
def blockAgrees : List Statement → List Statement → Bool
  | [], [] => true
  | statement :: statements, other :: others =>
    statement.agrees other && blockAgrees statements others
  | _, _ => false

end

/-- Whether two programs are equal. -/
def Program.agrees (program other : Program) : Bool :=
  blockAgrees program.statements other.statements

end ChatScript
