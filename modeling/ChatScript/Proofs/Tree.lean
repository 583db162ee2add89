import ChatScript.Program

/-! # Inside a program

An expression contains other expressions, and a statement other statements. This module lists
what a tree contains (`Expr.subterms`, `Program.allStatements`), measures it (`Expr.nodeCount`,
`Expr.height`, `blockDepth`), compares programs without regard to their line numbers
(`Program.unlined`), and gives the induction principles that the nesting calls for.
-/

namespace ChatScript

namespace Expr

/-- Induction over expressions. The statement may be assumed for the arguments of a call and for
the parts of an interpolated literal. -/
@[elab_as_elim, induction_eliminator]
theorem nestedInduction {motive : Expr → Prop} (literal : ∀ value, motive (.literal value))
    (named : ∀ name, motive (.named name)) (reference : ∀ name, motive (.reference name))
    (call : ∀ function arguments, (∀ argument ∈ arguments, motive argument) →
      motive (.call function arguments))
    (interpolated : ∀ parts, (∀ part ∈ parts, motive part) → motive (.interpolated parts))
    (binary : ∀ op left right, motive left → motive right → motive (.binary op left right))
    (expr : Expr) : motive expr :=
  @Expr.rec motive (fun exprs => ∀ expr ∈ exprs, motive expr) literal named reference call
    interpolated binary (fun _ member => nomatch member)
    (fun _ _ first others => List.forall_mem_cons.mpr ⟨first, others⟩) expr

mutual

/-- An expression and everything it contains, from left to right, each before what is inside. -/
def subterms : Expr → List Expr
  | .literal value => [.literal value]
  | .named name => [.named name]
  | .reference name => [.reference name]
  | .call function arguments => .call function arguments :: subtermsOfAll arguments
  | .interpolated parts => .interpolated parts :: subtermsOfAll parts
  | .binary op left right => .binary op left right :: (left.subterms ++ right.subterms)

/-- The subterms of several expressions. -/
def subtermsOfAll : List Expr → List Expr
  | [] => []
  | expr :: exprs => expr.subterms ++ subtermsOfAll exprs

end

@[simp] theorem subtermsOfAll_eq_flatMap (exprs : List Expr) :
    subtermsOfAll exprs = exprs.flatMap subterms := by
  induction exprs with
  | nil => rfl
  | cons expr exprs ih => simp only [subtermsOfAll, List.flatMap_cons, ih]

/-- An expression is one of its own subterms. -/
theorem self_mem_subterms (expr : Expr) : expr ∈ expr.subterms := by
  cases expr <;> simp [subterms]

/-- What holds all over a call holds of it and all over its arguments. -/
theorem forall_mem_subterms_call {holds : Expr → Prop} {function : String}
    {arguments : List Expr} :
    (∀ sub ∈ (call function arguments).subterms, holds sub) ↔
      holds (call function arguments) ∧
        ∀ argument ∈ arguments, ∀ sub ∈ argument.subterms, holds sub := by
  rw [subterms, subtermsOfAll_eq_flatMap, List.forall_mem_cons, List.forall_mem_flatMap]

theorem forall_mem_subterms_interpolated {holds : Expr → Prop} {parts : List Expr} :
    (∀ sub ∈ (interpolated parts).subterms, holds sub) ↔
      holds (interpolated parts) ∧ ∀ part ∈ parts, ∀ sub ∈ part.subterms, holds sub := by
  rw [subterms, subtermsOfAll_eq_flatMap, List.forall_mem_cons, List.forall_mem_flatMap]

/-- What holds all over an operation holds of it and all over its operands. -/
theorem forall_mem_subterms_binary {holds : Expr → Prop} {op : BinaryOp} {left right : Expr} :
    (∀ sub ∈ (binary op left right).subterms, holds sub) ↔
      holds (binary op left right) ∧
        (∀ sub ∈ left.subterms, holds sub) ∧ ∀ sub ∈ right.subterms, holds sub := by
  rw [subterms, List.forall_mem_cons, List.forall_mem_append]

/-- What is inside of a part of an expression is inside of the expression. -/
theorem subterms_subset {expr sub : Expr} (member : sub ∈ expr.subterms) :
    sub.subterms ⊆ expr.subterms := by
  suffices all : ∀ inner ∈ expr.subterms, inner.subterms ⊆ expr.subterms from all sub member
  clear member
  induction expr with
  | literal value | named name | reference name => simp [subterms]
  | call function arguments ih | interpolated parts ih =>
      simp only [subterms, subtermsOfAll_eq_flatMap, List.mem_cons, List.mem_flatMap]
      rintro inner (rfl | ⟨argument, present, inside⟩)
      · simp [subterms]
      · refine List.subset_cons_of_subset _ fun below under => ?_
        exact List.mem_flatMap.mpr ⟨argument, present, ih argument present inner inside under⟩
  | binary op left right first second =>
      simp only [subterms, List.mem_cons, List.mem_append]
      rintro inner (rfl | inside | inside)
      · simp [subterms]
      · exact List.subset_cons_of_subset _
          (List.subset_append_of_subset_left _ (first inner inside))
      · exact List.subset_cons_of_subset _
          (List.subset_append_of_subset_right _ (second inner inside))

/-- Whether an expression is an operation, a call or a reference. -/
def isNode : Expr → Bool
  | .binary _ _ _ | .call _ _ | .reference _ => true
  | _ => false

/-- How many operations, calls and references an expression contains. -/
def nodeCount (expr : Expr) : Nat :=
  expr.subterms.countP isNode

mutual

/-- The number of levels of a tree, which is 1 for a leaf. -/
def height : Expr → Nat
  | .literal _ | .named _ | .reference _ => 1
  | .call _ arguments => heightOfAll arguments + 1
  | .interpolated parts => heightOfAll parts + 1
  | .binary _ left right => max left.height right.height + 1

/-- The greatest height among several expressions. -/
def heightOfAll : List Expr → Nat
  | [] => 0
  | expr :: exprs => max expr.height (heightOfAll exprs)

end

/-- The expressions that are written side by side in one string literal. Any other expression
stands alone. -/
def strands : Expr → List Expr
  | .interpolated parts => parts
  | expr => [expr]

end Expr

namespace Statement

/-- The expression of a statement: what it binds, sends or tests. -/
def value : Statement → Expr
  | .set _ value _ => value
  | .conditional condition _ _ _ => condition
  | .send value _ => value

/-- Induction over statements and the blocks they contain. -/
theorem blockInduction {motive : Statement → Prop} {blocks : List Statement → Prop}
    (set : ∀ name value line, motive (.set name value line))
    (send : ∀ value line, motive (.send value line))
    (conditional : ∀ condition thenBranch line, blocks thenBranch →
      motive (.conditional condition thenBranch none line))
    (alternative : ∀ condition thenBranch elseBranch line, blocks thenBranch →
      blocks elseBranch → motive (.conditional condition thenBranch (some elseBranch) line))
    (empty : blocks [])
    (next : ∀ statement statements, motive statement → blocks statements →
      blocks (statement :: statements)) :
    (∀ statement, motive statement) ∧ ∀ statements, blocks statements := by
  have all : ∀ statement, motive statement :=
    @Statement.rec motive blocks (fun branch => ∀ statements, branch = some statements →
      blocks statements) set
      (fun condition thenBranch elseBranch line first second => by
        cases elseBranch with
        | none => exact conditional condition thenBranch line first
        | some elseBranch =>
            exact alternative condition thenBranch elseBranch line first (second elseBranch rfl))
      send empty next (fun _ absent => nomatch absent)
      (fun _ block _ same => by cases same; exact block)
  refine ⟨all, fun statements => ?_⟩
  induction statements with
  | nil => exact empty
  | cons statement statements ih => exact next statement statements (all statement) ih

end Statement

mutual

/-- A statement and everything it contains, in the order of the source. -/
def Statement.substatements : Statement → List Statement
  | .set name value line => [.set name value line]
  | .send value line => [.send value line]
  | .conditional condition thenBranch none line =>
    .conditional condition thenBranch none line :: blockStatements thenBranch
  | .conditional condition thenBranch (some elseBranch) line =>
    .conditional condition thenBranch (some elseBranch) line ::
      (blockStatements thenBranch ++ blockStatements elseBranch)

/-- The statements of a block and everything they contain. -/
def blockStatements : List Statement → List Statement
  | [] => []
  | statement :: statements => statement.substatements ++ blockStatements statements

end

theorem Statement.self_mem_substatements (statement : Statement) :
    statement ∈ statement.substatements := by
  cases statement with
  | conditional _ _ elseBranch => cases elseBranch <;> simp [substatements]
  | set | send => simp [substatements]

/-- All statements of a program, at every depth. -/
def Program.allStatements (program : Program) : List Statement :=
  blockStatements program.statements

mutual

/-- How many blocks a statement opens inside of each other. -/
def Statement.depth : Statement → Nat
  | .set _ _ _ | .send _ _ => 0
  | .conditional _ thenBranch none _ => blockDepth thenBranch + 1
  | .conditional _ thenBranch (some elseBranch) _ =>
    max (blockDepth thenBranch) (blockDepth elseBranch) + 1

/-- How many blocks the statements of a block open inside of each other. -/
def blockDepth : List Statement → Nat
  | [] => 0
  | statement :: statements => max statement.depth (blockDepth statements)

end

mutual

/-- A statement with line 0 in place of every line number. -/
def Statement.unlined : Statement → Statement
  | .set name value _ => .set name value 0
  | .send value _ => .send value 0
  | .conditional condition thenBranch none _ =>
    .conditional condition (blockUnlined thenBranch) none 0
  | .conditional condition thenBranch (some elseBranch) _ =>
    .conditional condition (blockUnlined thenBranch) (some (blockUnlined elseBranch)) 0

/-- The statements of a block with line 0 in place of every line number. -/
def blockUnlined : List Statement → List Statement
  | [] => []
  | statement :: statements => statement.unlined :: blockUnlined statements

end

/-- A program with line 0 in place of every line number. -/
def Program.unlined (program : Program) : Program :=
  ⟨blockUnlined program.statements⟩

end ChatScript
