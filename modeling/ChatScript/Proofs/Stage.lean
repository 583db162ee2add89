import ChatScript.Execution
import ChatScript.Proofs.Tree

/-! # Carrying out the steps of a run

A run asks for counts and leaves it open who answers. Here it is given a counter with a state of its
own (`Counter`), and a step takes the run and the counter from one stage to the next (`Step.carry`).
A step that fails ends the run where it stands, so `carry` goes through the parts of a step one
after the other (`Step.carry_bind`).

Evaluating an expression can do very little: whatever is answered, it asks only for the counts of
its own command, changes no variable, sends no line, and fails on the line of its statement
(`Step.quiet_eval`).
-/

namespace ChatScript

/-- Whatever answers the requests for the next count of a command in a channel, with a state of its
own. -/
abbrev Counter (σ : Type) := String → String → StateM σ Int

/-- Counts in memory as a counter. -/
def Counts.next (channel command : String) : StateM Counts Int := fun counts =>
  let counted := counts.increment channel command
  (counted.count channel command, counted)

/-- The state of a run together with the state of the counter that it asks. -/
structure Stage (σ : Type) where
  run : Run
  counter : σ

/-- The stage at the start of a run. -/
def Stage.start {σ : Type} (state : σ) : Stage σ :=
  ⟨Run.start, state⟩

/-- The channel and the command that an invocation counts for. -/
def Context.key (context : Context) : String × String :=
  (context.channel, context.command)

namespace Counting

variable {α β σ : Type}

/-- A sequence is carried out step by step, whatever hands out its counts. -/
theorem runWith_bind {m : Type → Type} [Monad m] [LawfulMonad m]
    (increment : String → String → m Int) (computation : Counting α)
    (continuation : α → Counting β) :
    (computation >>= continuation).runWith increment =
      computation.runWith increment >>= fun result => (continuation result).runWith increment := by
  induction computation with
  | done result => simp [runWith]
  | next channel command resume ih => simp only [next_bind, runWith, ih, bind_assoc]

/-- A request is answered by the counter, which goes on from there. -/
theorem runWith_next (counter : Counter σ) (channel command : String) (resume : Int → Counting α)
    (state : σ) :
    ((next channel command resume).runWith counter).run state =
      ((resume ((counter channel command).run state).1).runWith counter).run
        ((counter channel command).run state).2 :=
  rfl

/-- Running on counts in memory is running with the counter that they are. -/
theorem run_eq_runWith (counts : Counts) (computation : Counting α) :
    computation.run counts = (computation.runWith Counts.next).run counts := by
  induction computation generalizing counts with
  | done result => rfl
  | next channel command resume ih => exact ih _ _

/-- Every request that the computation makes satisfies `asks`, and its result satisfies `holds`,
whatever the answers are. -/
def Always (asks : String → String → Prop) (holds : α → Prop) : Counting α → Prop
  | done result => holds result
  | next channel command resume =>
    asks channel command ∧ ∀ value, (resume value).Always asks holds

/-- What always holds of a sequence follows from what always holds of its steps. -/
theorem Always.bind {asks : String → String → Prop} {first : α → Prop} {second : β → Prop}
    {computation : Counting α} {continuation : α → Counting β}
    (start : computation.Always asks first)
    (further : ∀ result, first result → (continuation result).Always asks second) :
    (computation >>= continuation).Always asks second := by
  induction computation with
  | done result => exact further result start
  | next channel command resume ih => exact ⟨start.1, fun value => ih value (start.2 value)⟩

theorem Always.map {asks : String → String → Prop} {holds : α → Prop} {computation : Counting α}
    (always : computation.Always asks holds) (change : α → β) :
    (change <$> computation).Always asks fun _ => True := by
  rw [← bind_pure_comp]
  exact always.bind fun _ _ => trivial

theorem Always.mono {asks : String → String → Prop} {first second : α → Prop}
    {computation : Counting α} (always : computation.Always asks first)
    (weaker : ∀ result, first result → second result) : computation.Always asks second := by
  induction computation with
  | done result => exact weaker result always
  | next channel command resume ih => exact ⟨always.1, fun value => ih value (always.2 value)⟩

/-- What always holds of a result holds of the one that a counter leads to. -/
theorem Always.runWith {asks : String → String → Prop} {holds : α → Prop}
    {computation : Counting α} (always : computation.Always asks holds) (counter : Counter σ)
    (state : σ) : holds ((computation.runWith counter).run state).1 := by
  induction computation generalizing state with
  | done result => exact always
  | next channel command resume ih => exact ih _ (always.2 _) _

end Counting

namespace Step

variable {σ α β : Type}

/-- Carries out a step where `counter` answers its requests: its result, or the failure that ended
it, and the stage afterwards. -/
def carry (counter : Counter σ) (step : Step α) (stage : Stage σ) : Except Failure α × Stage σ :=
  let ended := ((step.run.run stage.run).runWith counter).run stage.counter
  (ended.1.1, ⟨ended.1.2, ended.2⟩)

section Carry

variable (counter : Counter σ) (stage : Stage σ)

@[simp] theorem carry_pure (value : α) : carry counter (pure value) stage = (.ok value, stage) :=
  rfl

@[simp] theorem carry_fail (line : Nat) (cause : Cause) :
    carry counter (fail line cause : Step α) stage = (.error ⟨line, cause⟩, stage) :=
  rfl

/-- A sequence is carried out step by step and ends at the first failure. -/
theorem carry_bind (step : Step α) (next : α → Step β) :
    carry counter (step >>= next) stage =
      match carry counter step stage with
      | (.ok value, after) => carry counter (next value) after
      | (.error failure, after) => (.error failure, after) := by
  simp only [carry, ExceptT.run_bind, StateT.run_bind, Counting.runWith_bind]
  rcases ((step.run.run stage.run).runWith counter).run stage.counter with ⟨⟨result, run⟩, state⟩
  cases result <;> rfl

variable {counter stage}

/-- A step that comes to a result is followed by the next one. -/
theorem carry_bind_ok {step : Step α} {value : α} {after : Stage σ}
    (done : step.carry counter stage = (.ok value, after)) (next : α → Step β) :
    carry counter (step >>= next) stage = carry counter (next value) after := by
  rw [carry_bind, done]

/-- Sequences that begin in the same way need only go on in the same way from where they get. -/
theorem carry_bind_congr {step other : Step α} {next further : α → Step β}
    (same : step.carry counter stage = other.carry counter stage)
    (onward : ∀ value after, other.carry counter stage = (.ok value, after) →
      (next value).carry counter after = (further value).carry counter after) :
    carry counter (step >>= next) stage = carry counter (other >>= further) stage := by
  rw [carry_bind, carry_bind, same]
  rcases carried : other.carry counter stage with ⟨result, after⟩
  cases result with
  | ok value => exact onward value after carried
  | error failure => rfl

/-- A step that fails is followed by nothing. -/
theorem carry_bind_error {step : Step α} {failure : Failure} {after : Stage σ}
    (failed : step.carry counter stage = (.error failure, after)) (next : α → Step β) :
    carry counter (step >>= next) stage = (.error failure, after) := by
  rw [carry_bind, failed]

/-- A step comes to its end if its parts do, one after the other. -/
theorem carry_bind_eq_ok_iff {step : Step α} {next : α → Step β} {result : β}
    {final : Stage σ} :
    carry counter (step >>= next) stage = (.ok result, final) ↔
      ∃ value after, step.carry counter stage = (.ok value, after) ∧
        (next value).carry counter after = (.ok result, final) := by
  rcases carried : step.carry counter stage with ⟨first, after⟩
  cases first with
  | ok value =>
      rw [carry_bind_ok carried]
      constructor
      · exact fun done => ⟨value, after, rfl, done⟩
      · rintro ⟨_, _, ⟨⟩, done⟩
        exact done
  | error failure => simp [carry_bind_error carried]

/-- A step fails if a part of it fails after the parts before it were carried out. -/
theorem carry_bind_eq_error_iff {step : Step α} {next : α → Step β} {failure : Failure}
    {final : Stage σ} :
    carry counter (step >>= next) stage = (.error failure, final) ↔
      step.carry counter stage = (.error failure, final) ∨
        ∃ value after, step.carry counter stage = (.ok value, after) ∧
          (next value).carry counter after = (.error failure, final) := by
  rcases carried : step.carry counter stage with ⟨result, after⟩
  cases result with
  | ok value =>
      rw [carry_bind_ok carried]
      constructor
      · exact fun failed => .inr ⟨value, after, rfl, failed⟩
      · rintro (⟨⟨⟩⟩ | ⟨_, _, ⟨⟩, failed⟩)
        exact failed
  | error failure => simp [carry_bind_error carried]

theorem carry_lift_eq_ok_iff {line : Nat} {result : Except Cause α} {value : α}
    {after : Stage σ} :
    (lift line result).carry counter stage = (.ok value, after) ↔
      result = .ok value ∧ stage = after := by
  cases result <;> simp [lift]

variable (counter stage)

@[simp] theorem carry_get_bind (next : Run → Step α) :
    carry counter (get >>= next) stage = carry counter (next stage.run) stage :=
  rfl

@[simp] theorem carry_modify (change : Run → Run) :
    carry counter (modify change : Step Unit) stage =
      (.ok (), { stage with run := change stage.run }) :=
  rfl

end Carry

/-! ## What evaluating can do -/

/-- A step does what is required if its parts do, and if a failure of the first part may end it. -/
theorem always_bind {asks : String → String → Prop} {first : Except Failure α × Run → Prop}
    {second : Except Failure β × Run → Prop} {step : Step α} {next : α → Step β} {run : Run}
    (start : (step.run.run run).Always asks first)
    (further : ∀ value after, first (.ok value, after) →
      ((next value).run.run after).Always asks second)
    (failed : ∀ failure after, first (.error failure, after) → second (.error failure, after)) :
    ((step >>= next).run.run run).Always asks second := by
  rw [ExceptT.run_bind, StateT.run_bind]
  refine start.bind ?_
  rintro ⟨result, after⟩ holds
  cases result with
  | ok value => exact further value after holds
  | error failure => exact failed failure after holds

/-- Whatever is answered, the step asks only for the counts of the command of the context, leaves
the variables and the lines sent as they are, and fails only on the given line. -/
def Quiet (context : Context) (line : Nat) (step : Step α) : Prop :=
  ∀ run : Run, (step.run.run run).Always
    (fun channel command => (channel, command) = context.key)
    fun ended => ended.2.bindings = run.bindings ∧ ended.2.lines = run.lines ∧
      ∀ failure, ended.1 = .error failure → failure.line = line

variable {context : Context} {line : Nat}

/-- A sequence is quiet if its steps are. -/
theorem Quiet.bind {step : Step α} {next : α → Step β} (first : Quiet context line step)
    (further : ∀ value, Quiet context line (next value)) : Quiet context line (step >>= next) := by
  intro run
  refine always_bind (first run) ?_ ?_
  · rintro value after ⟨bindings, lines, -⟩
    refine (further value after).mono ?_
    rintro ended ⟨sameBindings, sameLines, onLine⟩
    exact ⟨sameBindings.trans bindings, sameLines.trans lines, onLine⟩
  · rintro failure after ⟨bindings, lines, failures⟩
    refine ⟨bindings, lines, ?_⟩
    rintro _ ⟨⟩
    exact failures failure rfl

theorem quiet_pure (value : α) : Quiet context line (pure value : Step α) :=
  fun _ => ⟨rfl, rfl, by simp⟩

theorem quiet_fail (cause : Cause) : Quiet context line (fail line cause : Step α) := by
  intro run
  refine ⟨rfl, rfl, ?_⟩
  rintro _ ⟨⟩
  rfl

theorem quiet_lift (result : Except Cause α) : Quiet context line (lift line result) := by
  cases result with
  | ok value => exact quiet_pure value
  | error cause => exact quiet_fail cause

theorem quiet_draw : Quiet context line (draw context) :=
  fun _ => ⟨rfl, rfl, by simp⟩

theorem quiet_ask : Quiet context line
    ((Counting.ask context.channel context.command : Counting Int) : Step Int) :=
  fun _ => ⟨rfl, fun _ => ⟨rfl, rfl, by simp⟩⟩

theorem run_get_bind (next : Run → Step α) (run : Run) :
    (get >>= next : Step α).run.run run = (next run).run.run run :=
  rfl

/-- Looking up a name changes neither variables nor lines. -/
theorem quiet_resolve (name : String) : Quiet context line (resolve context line name) := by
  intro run
  rw [resolve, run_get_bind]
  split
  · exact quiet_pure _ run
  · split
    · exact ⟨rfl, rfl, by simp⟩
    · split
      · exact quiet_pure _ run
      · exact quiet_fail _ run

/-- No function changes variables or lines. -/
theorem quiet_apply (function : Function) (arguments : List Value) :
    Quiet context line (apply context line function arguments) := by
  cases function with
  | roll => exact (quiet_lift _).bind fun _ => quiet_draw.bind fun _ => quiet_pure _
  | pick =>
      cases arguments with
      | nil => exact quiet_fail _
      | cons first others => exact quiet_draw.bind fun _ => quiet_pure _
  | count =>
      simp only [apply]
      split
      · exact quiet_fail _
      · split
        · exact quiet_ask.bind fun _ => quiet_pure _
        · exact quiet_fail _

theorem quiet_evalAll {exprs : List Expr}
    (each : ∀ expr ∈ exprs, Quiet context line (expr.eval context line)) :
    Quiet context line (evalAll context line exprs) := by
  induction exprs with
  | nil => exact quiet_pure []
  | cons expr exprs ih =>
      rw [List.forall_mem_cons] at each
      exact each.1.bind fun _ => (ih each.2).bind fun _ => quiet_pure _

/-- Evaluating an expression neither changes a variable nor sends a line, it asks only for the
counts of its own command, and it fails on the line of its statement. -/
theorem quiet_eval (expr : Expr) : Quiet context line (expr.eval context line) := by
  induction expr with
  | literal value => exact quiet_pure value
  | named name =>
      intro run
      rw [Expr.eval, run_get_bind]
      split
      · exact quiet_pure _ run
      · exact quiet_fail _ run
  | reference name => exact quiet_resolve name
  | call name arguments ih =>
      rw [Expr.eval]
      split
      · exact quiet_fail _
      · exact (quiet_evalAll ih).bind fun _ => quiet_apply _ _
  | interpolated parts ih => exact (quiet_evalAll ih).bind fun _ => quiet_pure _
  | binary op left right first second =>
      exact first.bind fun _ => second.bind fun _ => quiet_lift _

section Frame

variable {step : Step α} {counter : Counter σ} {stage after : Stage σ} {result : Except Failure α}

/-- A quiet step leaves the variables as they are, also if it fails. -/
theorem Quiet.bindings_eq (quiet : Quiet context line step)
    (ended : step.carry counter stage = (result, after)) :
    after.run.bindings = stage.run.bindings := by
  have frame := ((quiet stage.run).runWith counter stage.counter).1
  rwa [← congrArg (fun ended => ended.2.run.bindings) ended]

/-- A quiet step sends nothing, also if it fails. -/
theorem Quiet.lines_eq (quiet : Quiet context line step)
    (ended : step.carry counter stage = (result, after)) : after.run.lines = stage.run.lines := by
  have frame := ((quiet stage.run).runWith counter stage.counter).2.1
  rwa [← congrArg (fun ended => ended.2.run.lines) ended]

/-- A quiet step fails on the line that it was given. -/
theorem Quiet.failure_line (quiet : Quiet context line step) {failure : Failure}
    (failed : step.carry counter stage = (.error failure, after)) : failure.line = line :=
  ((quiet stage.run).runWith counter stage.counter).2.2 failure (congrArg Prod.fst failed)

end Frame

end Step

/-- There is a value for each of several expressions. -/
theorem evalAll_length {σ : Type} {context : Context} {counter : Counter σ} {line : Nat}
    {exprs : List Expr} {stage after : Stage σ} {values : List Value}
    (evaluated : (evalAll context line exprs).carry counter stage = (.ok values, after)) :
    values.length = exprs.length := by
  induction exprs generalizing stage values with
  | nil =>
      cases evaluated
      rfl
  | cons expr exprs ih =>
      simp only [evalAll, Step.carry_bind_eq_ok_iff] at evaluated
      obtain ⟨value, middle, -, others, last, behind, ⟨⟩⟩ := evaluated
      rw [List.length_cons, List.length_cons, ih behind]

/-! ## Statements -/

/-- The branch that a conditional takes when its condition has the given value, which is empty if
there is no such branch. -/
def branchFor (value : Value) (thenBranch : List Statement) (elseBranch : Option (List Statement)) :
    List Statement :=
  if value.isTruthy then thenBranch else elseBranch.getD []

section Statements

variable {σ : Type} {context : Context} {counter : Counter σ} {stage after : Stage σ}

/-- A condition that is true leads to the first branch. -/
theorem branchFor_of_truthy {value : Value} (truthy : value.isTruthy = true)
    (thenBranch : List Statement) (elseBranch : Option (List Statement)) :
    branchFor value thenBranch elseBranch = thenBranch :=
  if_pos truthy

/-- A condition that is false leads to the `else` branch, or nowhere. -/
theorem branchFor_of_falsy {value : Value} (falsy : value.isTruthy = false)
    (thenBranch : List Statement) (elseBranch : Option (List Statement)) :
    branchFor value thenBranch elseBranch = elseBranch.getD [] := by
  rw [branchFor, falsy, if_neg Bool.false_ne_true]

/-- Induction over the statements that a run can come to: a statement is made of the branches that
it can take. -/
theorem Statement.branchInduction {motive : Statement → Prop} {blocks : List Statement → Prop}
    (set : ∀ name value line, motive (.set name value line))
    (send : ∀ value line, motive (.send value line))
    (conditional : ∀ condition thenBranch elseBranch line,
      (∀ value, blocks (branchFor value thenBranch elseBranch)) →
      motive (.conditional condition thenBranch elseBranch line))
    (empty : blocks [])
    (next : ∀ statement statements, motive statement → blocks statements →
      blocks (statement :: statements)) :
    (∀ statement, motive statement) ∧ ∀ statements, blocks statements := by
  refine Statement.blockInduction set send ?_ ?_ empty next
  · intro condition thenBranch line thens
    refine conditional condition thenBranch none line fun value => ?_
    cases truth : value.isTruthy with
    | true => rwa [branchFor_of_truthy truth]
    | false => rwa [branchFor_of_falsy truth]
  · intro condition thenBranch elseBranch line thens elses
    refine conditional condition thenBranch (some elseBranch) line fun value => ?_
    cases truth : value.isTruthy with
    | true => rwa [branchFor_of_truthy truth]
    | false => rwa [branchFor_of_falsy truth]

/-- Blocks are carried out one behind the other. -/
theorem performAll_append (context : Context) (first second : List Statement) :
    performAll context (first ++ second) =
      performAll context first >>= fun _ => performAll context second := by
  induction first with
  | nil => simp [performAll]
  | cons statement first ih => simp only [List.cons_append, performAll, ih, bind_assoc]

/-- A conditional evaluates its condition and carries out one branch. -/
theorem perform_conditional (context : Context) (condition : Expr) (thenBranch : List Statement)
    (elseBranch : Option (List Statement)) (line : Nat) :
    (Statement.conditional condition thenBranch elseBranch line).perform context =
      condition.eval context line >>= fun value =>
        performAll context (branchFor value thenBranch elseBranch) := by
  cases elseBranch
  all_goals
    rw [Statement.perform]
    congr 1
    funext value
    cases truth : value.isTruthy <;> simp [branchFor, truth, performAll]

/-- A conditional whose condition has a value goes on in a branch, from where the condition got. -/
theorem carry_conditional {condition : Expr} {line : Nat} {value : Value}
    (evaluated : (condition.eval context line).carry counter stage = (.ok value, after))
    (thenBranch : List Statement) (elseBranch : Option (List Statement)) :
    ((Statement.conditional condition thenBranch elseBranch line).perform context).carry counter
      stage = (performAll context (branchFor value thenBranch elseBranch)).carry counter after := by
  rw [perform_conditional, Step.carry_bind_ok evaluated]

/-- Setting a name that is taken fails before anything else happens. -/
theorem carry_set_reserved {name : String} (reserved : context.isReserved name = true)
    (value : Expr) (line : Nat) :
    ((Statement.set name value line).perform context).carry counter stage =
      (.error ⟨line, .reservedName name⟩, stage) := by
  rw [Statement.perform, if_pos reserved, Step.carry_fail]

end Statements

/-! ## Programs -/

variable {σ : Type}

/-- Carries out a program in a context where `counter` answers its requests: the result, and the
state of the counter afterwards. -/
def Program.executeOn (program : Program) (context : Context) (counter : Counter σ) (state : σ) :
    Outcome × σ :=
  ((program.execute context).runWith counter).run state

/-- The result of a program is read off the stage that its statements end on. -/
theorem Program.executeOn_eq (program : Program) (context : Context) (counter : Counter σ)
    (state : σ) :
    program.executeOn context counter state =
      let ended := (performAll context program.statements).carry counter (.start state)
      (Run.outcome (ended.1, ended.2.run), ended.2.counter) := by
  rw [executeOn, execute, ← bind_pure_comp, Counting.runWith_bind, StateT.run_bind]
  rfl

end ChatScript
