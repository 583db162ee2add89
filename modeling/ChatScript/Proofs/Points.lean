import ChatScript.Proofs.Stage

/-! # The points of a run

A run passes from point to point: at each of them a statement is about to be carried out, or an
expression about to be evaluated. The points are listed in order, with the stage that the run is at
(`Program.points`); what the run does not get to is not listed, be it a branch that is not taken, an
argument behind one that fails, or anything behind the first failure.

What every step of a run keeps holds at every point of it (`Kept.blockPoints`), and a statement that
fails ends every run that comes to it (`carry_of_mem_points`).
-/

namespace ChatScript

variable {σ : Type}

/-- A point of a run. -/
inductive Point (σ : Type) where
  /-- A statement is about to be carried out. -/
  | statement (statement : Statement) (stage : Stage σ)
  /-- An expression of a statement on the given line is about to be evaluated. -/
  | expression (line : Nat) (expr : Expr) (stage : Stage σ)

/-- The stage that a run is at. -/
def Point.stage : Point σ → Stage σ
  | statement _ stage => stage
  | expression _ _ stage => stage

/-- What comes after a step, which is nothing if the step has failed. -/
def onward {α β : Type} (next : α → Stage σ → List β) : Except Failure α × Stage σ → List β
  | (.ok value, after) => next value after
  | (.error _, _) => []

section Definitions

variable (context : Context) (counter : Counter σ)

mutual

/-- The points that the evaluation of an expression passes. -/
def Expr.points (line : Nat) : Expr → Stage σ → List (Point σ)
  | .call name arguments, stage =>
    .expression line (.call name arguments) stage ::
      match Function.ofName? name with
      | none => []
      | some _ => pointsOfAll line arguments stage
  | .interpolated parts, stage =>
    .expression line (.interpolated parts) stage :: pointsOfAll line parts stage
  | .binary op left right, stage =>
    .expression line (.binary op left right) stage ::
      (left.points line stage ++ onward (fun _ after => right.points line after)
        ((left.eval context line).carry counter stage))
  | .literal value, stage => [.expression line (.literal value) stage]
  | .named name, stage => [.expression line (.named name) stage]
  | .reference name, stage => [.expression line (.reference name) stage]

/-- The points that the evaluation of several expressions passes. -/
def pointsOfAll (line : Nat) : List Expr → Stage σ → List (Point σ)
  | [], _ => []
  | expr :: exprs, stage =>
    expr.points line stage ++ onward (fun _ after => pointsOfAll line exprs after)
      ((expr.eval context line).carry counter stage)

end

mutual

/-- The points that a statement passes. -/
def Statement.points : Statement → Stage σ → List (Point σ)
  | .set name value line, stage =>
    .statement (.set name value line) stage ::
      if context.isReserved name then [] else value.points context counter line stage
  | .conditional condition thenBranch none line, stage =>
    .statement (.conditional condition thenBranch none line) stage ::
      (condition.points context counter line stage ++
        onward (fun value after => if value.isTruthy then blockPoints thenBranch after else [])
          ((condition.eval context line).carry counter stage))
  | .conditional condition thenBranch (some elseBranch) line, stage =>
    .statement (.conditional condition thenBranch (some elseBranch) line) stage ::
      (condition.points context counter line stage ++
        onward (fun value after =>
            if value.isTruthy then blockPoints thenBranch after else blockPoints elseBranch after)
          ((condition.eval context line).carry counter stage))
  | .send value line, stage =>
    .statement (.send value line) stage :: value.points context counter line stage

/-- The points that the statements of a block pass. -/
def blockPoints : List Statement → Stage σ → List (Point σ)
  | [], _ => []
  | statement :: statements, stage =>
    statement.points stage ++ onward (fun _ after => blockPoints statements after)
      ((statement.perform context).carry counter stage)

end

/-- The points of a conditional are its own, those of the condition, and those of the branch that is
taken. -/
theorem Statement.points_conditional (condition : Expr) (thenBranch : List Statement)
    (elseBranch : Option (List Statement)) (line : Nat) (stage : Stage σ) :
    (Statement.conditional condition thenBranch elseBranch line).points context counter stage =
      .statement (.conditional condition thenBranch elseBranch line) stage ::
        (condition.points context counter line stage ++
          onward (fun value after =>
              blockPoints context counter (branchFor value thenBranch elseBranch) after)
            ((condition.eval context line).carry counter stage)) := by
  cases elseBranch
  all_goals
    rw [Statement.points]
    congr 3
    funext value after
    cases truth : value.isTruthy <;> simp [branchFor, truth, blockPoints]

/-- The points of a run of a program. -/
def Program.points (program : Program) (state : σ) : List (Point σ) :=
  blockPoints context counter program.statements (.start state)

end Definitions

/-- What comes after a step is only come to if the step has a result. -/
theorem forall_mem_onward {α β : Type} {ended : Except Failure α × Stage σ}
    {next : α → Stage σ → List β} {fits : β → Prop} :
    (∀ point ∈ onward next ended, fits point) ↔
      ∀ value after, ended = (.ok value, after) → ∀ point ∈ next value after, fits point := by
  rcases ended with ⟨result, after⟩
  cases result with
  | ok value =>
      constructor
      · rintro each _ _ ⟨⟩
        exact each
      · exact fun each => each value after rfl
  | error failure => simp [onward]

/-- A property of stages that every step of a run keeps: evaluating an expression, binding its value
to a name that is free, and sending a line. -/
structure Kept (context : Context) (counter : Counter σ) (holds : Stage σ → Prop) : Prop where
  evaluated : ∀ {line expr stage result after}, holds stage →
    (Expr.eval context line expr).carry counter stage = (result, after) → holds after
  bound : ∀ {line expr stage value after name}, holds stage → context.isReserved name = false →
    (Expr.eval context line expr).carry counter stage = (.ok value, after) →
    holds { after with run.bindings := after.run.bindings.insert name value }
  sent : ∀ {stage} line, holds stage → holds { stage with run.lines := stage.run.lines.push line }

namespace Kept

variable {context : Context} {counter : Counter σ} {holds : Stage σ → Prop}

section Expressions

variable {fits : Point σ → Prop} {line : Nat}

/-- What holds at the points of each expression holds at the points of all of them, if it is kept
from one to the next. -/
theorem pointsOfAll (kept : Kept context counter holds) {exprs : List Expr}
    (each : ∀ expr ∈ exprs, ∀ stage, holds stage →
      ∀ point ∈ expr.points context counter line stage, fits point)
    {stage : Stage σ} (start : holds stage) :
    ∀ point ∈ pointsOfAll context counter line exprs stage, fits point := by
  induction exprs generalizing stage with
  | nil => simp [ChatScript.pointsOfAll]
  | cons expr exprs ih =>
      rw [List.forall_mem_cons] at each
      rw [ChatScript.pointsOfAll, List.forall_mem_append]
      refine ⟨each.1 stage start, forall_mem_onward.mpr fun _ _ evaluated => ?_⟩
      exact ih each.2 (kept.evaluated start evaluated)

/-- What fits every expression at the stages where `holds` fits every point that an expression
passes. -/
theorem exprPoints (kept : Kept context counter holds)
    (here : ∀ expr stage, holds stage → fits (.expression line expr stage)) (expr : Expr) :
    ∀ stage, holds stage → ∀ point ∈ expr.points context counter line stage, fits point := by
  induction expr with
  | literal value | named name | reference name =>
      intro stage start
      rw [Expr.points, List.forall_mem_singleton]
      exact here _ stage start
  | call name arguments ih =>
      intro stage start
      rw [Expr.points, List.forall_mem_cons]
      refine ⟨here _ stage start, ?_⟩
      split
      · simp
      · exact kept.pointsOfAll ih start
  | interpolated parts ih =>
      intro stage start
      rw [Expr.points, List.forall_mem_cons]
      exact ⟨here _ stage start, kept.pointsOfAll ih start⟩
  | binary op left right first second =>
      intro stage start
      rw [Expr.points, List.forall_mem_cons, List.forall_mem_append]
      refine ⟨here _ stage start, first stage start, forall_mem_onward.mpr fun _ after done => ?_⟩
      exact second after (kept.evaluated start done)

end Expressions

/-- A property of stages that every step keeps holds at every point of a run, and where the run
ends. -/
theorem blockPoints (kept : Kept context counter holds) :
    (∀ (statement : Statement) stage, holds stage →
      (∀ point ∈ statement.points context counter stage, holds point.stage) ∧
        holds ((statement.perform context).carry counter stage).2) ∧
    ∀ block stage, holds stage →
      (∀ point ∈ blockPoints context counter block stage, holds point.stage) ∧
        holds ((performAll context block).carry counter stage).2 := by
  apply Statement.branchInduction
  case set =>
    intro name value line stage start
    rw [Statement.points, List.forall_mem_cons]
    by_cases reserved : context.isReserved name = true
    · rw [if_pos reserved, carry_set_reserved reserved]
      exact ⟨⟨start, by simp⟩, start⟩
    · rw [if_neg reserved, Statement.perform, if_neg reserved]
      refine ⟨⟨start, kept.exprPoints (fun _ _ => id) value stage start⟩, ?_⟩
      rcases evaluated : (value.eval context line).carry counter stage with ⟨result, after⟩
      cases result with
      | ok value =>
          rw [Step.carry_bind_ok evaluated, Step.carry_modify]
          exact kept.bound start (Bool.eq_false_iff.mpr reserved) evaluated
      | error failure =>
          rw [Step.carry_bind_error evaluated]
          exact kept.evaluated start evaluated
  case send =>
    intro value line stage start
    rw [Statement.points, List.forall_mem_cons, Statement.perform]
    refine ⟨⟨start, kept.exprPoints (fun _ _ => id) value stage start⟩, ?_⟩
    rcases evaluated : (value.eval context line).carry counter stage with ⟨result, after⟩
    have further := kept.evaluated start evaluated
    cases result with
    | ok value =>
        rw [Step.carry_bind_ok evaluated, Step.carry_modify]
        exact kept.sent value.toText further
    | error failure =>
        rw [Step.carry_bind_error evaluated]
        exact further
  case conditional =>
    intro condition thenBranch elseBranch line branch stage start
    rw [Statement.points_conditional, List.forall_mem_cons, List.forall_mem_append,
      perform_conditional]
    have inside : ∀ point ∈ condition.points context counter line stage, holds point.stage :=
      kept.exprPoints (fun _ _ => id) condition stage start
    rcases evaluated : (condition.eval context line).carry counter stage with ⟨result, after⟩
    have further := kept.evaluated start evaluated
    cases result with
    | ok value =>
        rw [Step.carry_bind_ok evaluated]
        exact ⟨⟨start, inside, (branch value after further).1⟩, (branch value after further).2⟩
    | error failure =>
        rw [Step.carry_bind_error evaluated]
        exact ⟨⟨start, inside, by simp [onward]⟩, further⟩
  case empty =>
    intro stage start
    rw [performAll, Step.carry_pure]
    exact ⟨by simp [ChatScript.blockPoints], start⟩
  case next =>
    intro statement statements first others stage start
    rw [ChatScript.blockPoints, List.forall_mem_append, performAll]
    obtain ⟨inside, ended⟩ := first stage start
    rcases carried : (statement.perform context).carry counter stage with ⟨result, after⟩
    rw [carried] at ended
    cases result with
    | ok done =>
        rw [Step.carry_bind_ok carried]
        exact ⟨⟨inside, (others after ended).1⟩, (others after ended).2⟩
    | error failure =>
        rw [Step.carry_bind_error carried]
        exact ⟨⟨inside, by simp [onward]⟩, ended⟩

end Kept

section Failures

variable {context : Context} {counter : Counter σ} {statement : Statement} {here final : Stage σ}

theorem kept_trivial : Kept context counter fun _ => True :=
  ⟨fun _ _ => trivial, fun _ _ _ => trivial, fun _ _ => trivial⟩

theorem statement_not_mem_points (line : Nat) (expr : Expr) (stage : Stage σ) :
    .statement statement here ∉ expr.points context counter line stage := by
  intro member
  have different : ∀ point ∈ expr.points context counter line stage,
      point ≠ .statement statement here :=
    kept_trivial.exprPoints (fun _ _ _ => nofun) expr stage trivial
  exact different _ member rfl

/-- A statement that fails ends every run that comes to it. -/
theorem carry_of_mem_points {failure : Failure}
    (failed : (statement.perform context).carry counter here = (.error failure, final)) :
    (∀ (first : Statement) stage,
      .statement statement here ∈ first.points context counter stage →
        (first.perform context).carry counter stage = (.error failure, final)) ∧
    ∀ block stage, .statement statement here ∈ blockPoints context counter block stage →
      (performAll context block).carry counter stage = (.error failure, final) := by
  apply Statement.branchInduction
  case set =>
    intro name value line stage member
    rw [Statement.points, List.mem_cons] at member
    obtain ⟨⟨rfl⟩, ⟨rfl⟩⟩ | inside := member
    · exact failed
    · split at inside
      · cases inside
      · exact (statement_not_mem_points _ _ _ inside).elim
  case send =>
    intro value line stage member
    rw [Statement.points, List.mem_cons] at member
    obtain ⟨⟨rfl⟩, ⟨rfl⟩⟩ | inside := member
    · exact failed
    · exact (statement_not_mem_points _ _ _ inside).elim
  case conditional =>
    intro condition thenBranch elseBranch line branch stage member
    rw [Statement.points_conditional, List.mem_cons, List.mem_append] at member
    obtain ⟨⟨rfl⟩, ⟨rfl⟩⟩ | inside | inside := member
    · exact failed
    · exact (statement_not_mem_points _ _ _ inside).elim
    · rcases evaluated : (condition.eval context line).carry counter stage with ⟨result, after⟩
      rw [evaluated] at inside
      cases result with
      | ok value => rw [carry_conditional evaluated, branch value after inside]
      | error => cases inside
  case empty =>
    intro stage member
    cases member
  case next =>
    intro first others within behind stage member
    rw [blockPoints, List.mem_append] at member
    rw [performAll]
    obtain inside | inside := member
    · exact Step.carry_bind_error (within stage inside) _
    · rcases carried : (first.perform context).carry counter stage with ⟨result, after⟩
      rw [carried] at inside
      cases result with
      | ok done => rw [Step.carry_bind_ok carried, behind after inside]
      | error => cases inside

end Failures

end ChatScript
