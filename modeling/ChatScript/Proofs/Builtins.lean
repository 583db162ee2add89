import ChatScript.Proofs.Points

/-! # No script can stand in for a builtin

`$(name)` looks for a variable before it looks for a builtin, so a variable with the name of a
builtin would take its place. There never is one: a name that is taken cannot be set
(`carry_set_reserved`), so at no point of a run a variable has it (`kept_unshadowed`). It follows
that the order of the two makes no difference; to say so, programs are also carried out with another
way of looking up references (`Program.executeBy`).
-/

namespace ChatScript

/-- No variable of the run has a standard name or the name of a builtin. -/
def Run.Unshadowed (context : Context) (run : Run) : Prop :=
  ∀ name, name ∈ standardNames ∨ name ∈ context.builtins → name ∉ run.bindings

/-- Reserved names are those of standard builtins and of those registered. -/
theorem Context.isReserved_iff {context : Context} {name : String} :
    context.isReserved name = true ↔ name ∈ standardNames ∨ name ∈ context.builtins := by
  rw [isReserved, Bool.or_eq_true, List.contains_iff_mem, Std.ExtTreeMap.mem_iff_contains]

theorem unshadowed_start (context : Context) : Run.start.Unshadowed context :=
  fun _ _ => Std.ExtTreeMap.not_mem_empty

section

variable {σ : Type} {context : Context} {counter : Counter σ}

/-- Whatever a run does, no name that is taken becomes the name of a variable. -/
theorem kept_unshadowed : Kept context counter fun stage => stage.run.Unshadowed context where
  evaluated := by
    intro line expr stage result after unshadowed ended
    rw [Run.Unshadowed, (Step.quiet_eval expr).bindings_eq ended]
    exact unshadowed
  bound := by
    intro line expr stage value after name unshadowed free ended other taken
    have different : name ≠ other := by
      rintro rfl
      rw [Context.isReserved_iff.mpr taken] at free
      cases free
    rw [(Step.quiet_eval expr).bindings_eq ended, Std.ExtTreeMap.mem_insert, not_or]
    exact ⟨by simpa using different, unshadowed other taken⟩
  sent := fun _ unshadowed => unshadowed

/-- A registered builtin has no variable of its name. -/
theorem Run.Unshadowed.get_eq_none {run : Run} {name : String} {supplier : Supplier}
    (unshadowed : run.Unshadowed context)
    (registered : context.builtins.get? name = some supplier) : run.bindings.get? name = none := by
  have member : name ∈ context.builtins := by
    rw [Std.ExtTreeMap.mem_iff_isSome_getElem?, ← Std.ExtTreeMap.get?_eq_getElem?, registered]
    rfl
  simpa using unshadowed name (.inr member)

/-- A reference to a builtin has the next answer of its supplier as its value. -/
theorem carry_reference {stage : Stage σ} {name : String} {supplier : Supplier}
    (unshadowed : stage.run.Unshadowed context)
    (registered : context.builtins.get? name = some supplier) (line : Nat) :
    let earlier := (stage.run.calls.get? name).getD 0
    ((Expr.reference name).eval context line).carry counter stage =
      (.ok (.text (supplier earlier)),
        { stage with run.calls := stage.run.calls.insert name (earlier + 1) }) := by
  rw [Expr.eval, Step.resolve, Step.carry_get_bind, unshadowed.get_eq_none registered,
    Context.ask?, registered]
  rfl

/-- The value of `$(name)` if builtins went before variables: that of a builtin, else, as always, of
a variable or an argument. -/
def Step.resolveBuiltinFirst (context : Context) (line : Nat) (name : String) : Step Value := do
  let run ← get
  match context.ask? run.calls name with
  | some (answer, calls) =>
    set { run with calls }
    pure (.text answer)
  | none => resolve context line name

/-- While no builtin is shadowed, it makes no difference whether builtins or variables are looked up
first. -/
theorem carry_resolveBuiltinFirst {stage : Stage σ} (unshadowed : stage.run.Unshadowed context)
    (line : Nat) (name : String) :
    (Step.resolveBuiltinFirst context line name).carry counter stage =
      (Step.resolve context line name).carry counter stage := by
  rw [Step.resolveBuiltinFirst, Step.carry_get_bind]
  cases registered : context.builtins.get? name with
  | some supplier =>
      simp only [Step.resolve, Step.carry_get_bind, unshadowed.get_eq_none registered,
        Context.ask?, registered, Option.map_some]
  | none => simp only [Context.ask?, registered, Option.map_none]

end

/-! ## Another way of looking up references -/

section Lookup

variable (lookup : Nat → String → Step Value) (context : Context)

mutual

/-- The value of an expression where `lookup` gives the values of references. -/
def Expr.evalBy (line : Nat) : Expr → Step Value
  | .literal value => pure value
  | .named name => do
    let run ← get
    match run.bindings.get? name with
    | some value => pure value
    | none => Step.fail line (.undefinedVariable name)
  | .reference name => lookup line name
  | .call name arguments =>
    match Function.ofName? name with
    | none => Step.fail line (.undefinedReference name)
    | some function => do
      let values ← evalAllBy line arguments
      Step.apply context line function values
  | .interpolated parts => do
    let values ← evalAllBy line parts
    pure (.text (String.join (values.map Value.toText)))
  | .binary op left right => do
    let a ← left.evalBy line
    let b ← right.evalBy line
    Step.lift line (op.apply a b)

/-- The values of several expressions where `lookup` gives the values of references. -/
def evalAllBy (line : Nat) : List Expr → Step (List Value)
  | [] => pure []
  | expr :: exprs => do
    let value ← expr.evalBy line
    let values ← evalAllBy line exprs
    pure (value :: values)

end

mutual

/-- Carries out a statement where `lookup` gives the values of references. -/
def Statement.performBy : Statement → Step Unit
  | .set name value line =>
    if context.isReserved name then Step.fail line (.reservedName name)
    else do
      let value ← value.evalBy lookup context line
      modify fun run => { run with bindings := run.bindings.insert name value }
  | .conditional condition thenBranch elseBranch line => do
    let value ← condition.evalBy lookup context line
    if value.isTruthy then performAllBy thenBranch
    else
      match elseBranch with
      | some branch => performAllBy branch
      | none => pure ()
  | .send value line => do
    let value ← value.evalBy lookup context line
    modify fun run => { run with lines := run.lines.push value.toText }

/-- Carries out statements in order where `lookup` gives the values of references. -/
def performAllBy : List Statement → Step Unit
  | [] => pure ()
  | statement :: statements => do
    statement.performBy
    performAllBy statements

end

/-- Carries out a program where `lookup` gives the values of references. -/
def Program.executeBy (program : Program) : Counting Outcome :=
  Run.outcome <$> (performAllBy lookup context program.statements).run.run Run.start

theorem performBy_conditional (condition : Expr) (thenBranch : List Statement)
    (elseBranch : Option (List Statement)) (line : Nat) :
    (Statement.conditional condition thenBranch elseBranch line).performBy lookup context =
      condition.evalBy lookup context line >>= fun value =>
        performAllBy lookup context (branchFor value thenBranch elseBranch) := by
  cases elseBranch
  all_goals
    rw [Statement.performBy]
    congr 1
    funext value
    cases truth : value.isTruthy <;> simp [branchFor, truth, performAllBy]

end Lookup

section Agreement

variable {σ : Type} {context : Context} {counter : Counter σ} {holds : Stage σ → Prop}
  {lookup : Nat → String → Step Value}

/-- The lookup gives a reference the value that it has, at every stage where `holds`. -/
def Agrees (context : Context) (counter : Counter σ) (holds : Stage σ → Prop)
    (lookup : Nat → String → Step Value) : Prop :=
  ∀ {stage}, holds stage → ∀ line name,
    (lookup line name).carry counter stage = (Step.resolve context line name).carry counter stage

theorem Kept.carry_evalAllBy (kept : Kept context counter holds) {line : Nat} {exprs : List Expr}
    (each : ∀ expr ∈ exprs, ∀ stage, holds stage →
      (expr.evalBy lookup context line).carry counter stage =
        (expr.eval context line).carry counter stage)
    {stage : Stage σ} (start : holds stage) :
    (evalAllBy lookup context line exprs).carry counter stage =
      (evalAll context line exprs).carry counter stage := by
  induction exprs generalizing stage with
  | nil => rw [evalAllBy, evalAll]
  | cons expr exprs ih =>
      rw [List.forall_mem_cons] at each
      rw [evalAllBy, evalAll]
      refine Step.carry_bind_congr (each.1 stage start) fun value after evaluated => ?_
      exact Step.carry_bind_congr (ih each.2 (kept.evaluated start evaluated)) fun _ _ _ => rfl

/-- An expression comes to the same with a lookup that agrees wherever the run gets. -/
theorem Kept.carry_evalBy (kept : Kept context counter holds)
    (agrees : Agrees context counter holds lookup) (line : Nat) (expr : Expr) :
    ∀ stage, holds stage →
      (expr.evalBy lookup context line).carry counter stage =
        (expr.eval context line).carry counter stage := by
  induction expr with
  | literal value => exact fun _ _ => rfl
  | named name => exact fun _ _ => rfl
  | reference name => exact fun _ start => agrees start line name
  | call name arguments ih =>
      intro stage start
      rw [Expr.evalBy, Expr.eval]
      cases Function.ofName? name with
      | none => rfl
      | some function =>
          exact Step.carry_bind_congr (kept.carry_evalAllBy ih start) fun _ _ _ => rfl
  | interpolated parts ih =>
      intro stage start
      rw [Expr.evalBy, Expr.eval]
      exact Step.carry_bind_congr (kept.carry_evalAllBy ih start) fun _ _ _ => rfl
  | binary op left right first second =>
      intro stage start
      rw [Expr.evalBy, Expr.eval]
      refine Step.carry_bind_congr (first stage start) fun value after evaluated => ?_
      exact Step.carry_bind_congr (second after (kept.evaluated start evaluated)) fun _ _ _ => rfl

/-- Statements do the same with a lookup that agrees wherever the run gets. -/
theorem Kept.carry_performBy (kept : Kept context counter holds)
    (agrees : Agrees context counter holds lookup) :
    (∀ (statement : Statement) stage, holds stage →
      (statement.performBy lookup context).carry counter stage =
        (statement.perform context).carry counter stage) ∧
    ∀ block stage, holds stage →
      (performAllBy lookup context block).carry counter stage =
        (performAll context block).carry counter stage := by
  apply Statement.branchInduction
  case set =>
    intro name value line stage start
    rw [Statement.performBy, Statement.perform]
    split
    · rfl
    · exact Step.carry_bind_congr (kept.carry_evalBy agrees line value stage start) fun _ _ _ => rfl
  case send =>
    intro value line stage start
    rw [Statement.performBy, Statement.perform]
    exact Step.carry_bind_congr (kept.carry_evalBy agrees line value stage start) fun _ _ _ => rfl
  case conditional =>
    intro condition thenBranch elseBranch line branch stage start
    rw [performBy_conditional, perform_conditional]
    refine Step.carry_bind_congr (kept.carry_evalBy agrees line condition stage start) ?_
    exact fun value after evaluated => branch value after (kept.evaluated start evaluated)
  case empty =>
    intro stage start
    rw [performAllBy, performAll]
  case next =>
    intro statement statements first others stage start
    rw [performAllBy, performAll]
    refine Step.carry_bind_congr (first stage start) fun done after carried => others after ?_
    have ended := (kept.blockPoints.1 statement stage start).2
    rwa [carried] at ended

/-- A lookup that gives every reference the value that it has leaves the result of a program as it
is. -/
theorem Kept.executeBy_eq (kept : Kept context counter holds)
    (agrees : Agrees context counter holds lookup) (program : Program) {state : σ}
    (start : holds (.start state)) :
    ((program.executeBy lookup context).runWith counter).run state =
      program.executeOn context counter state := by
  have same := (kept.carry_performBy agrees).2 program.statements (.start state) start
  rw [Program.executeOn_eq, ← same, Program.executeBy, ← bind_pure_comp, Counting.runWith_bind,
    StateT.run_bind]
  rfl

end Agreement

/-- Where references are looked up as in a run, the result is that of the run. -/
theorem Program.executeBy_resolve {σ : Type} (program : Program) (context : Context)
    (counter : Counter σ) (state : σ) :
    ((program.executeBy (Step.resolve context) context).runWith counter).run state =
      program.executeOn context counter state :=
  kept_trivial.executeBy_eq (fun _ _ _ => rfl) program trivial

/-- Builtins cannot be spoofed, whatever the program, the context and the counter are.

At every point of the run, and where it ends, no variable has a standard name or the name of a
builtin. So a reference to a builtin has the next answer of its supplier as its value wherever it is
evaluated, and looking up builtins before variables gives the same result. Setting such a name fails
before its expression is evaluated and leaves everything as it was, and the run ends there. -/
theorem Program.builtins_genuine {σ : Type} (program : Program) (context : Context)
    (counter : Counter σ) (state : σ) :
    (∀ point ∈ program.points context counter state, point.stage.run.Unshadowed context) ∧
    ((performAll context program.statements).carry counter (.start state)).2.run.Unshadowed
      context ∧
    (∀ line name stage supplier,
      .expression line (.reference name) stage ∈ program.points context counter state →
      context.builtins.get? name = some supplier →
      let earlier := (stage.run.calls.get? name).getD 0
      ((Expr.reference name).eval context line).carry counter stage =
        (.ok (.text (supplier earlier)),
          { stage with run.calls := stage.run.calls.insert name (earlier + 1) })) ∧
    ((program.executeBy (Step.resolveBuiltinFirst context) context).runWith counter).run state =
      program.executeOn context counter state ∧
    ∀ name value line, name ∈ standardNames ∨ name ∈ context.builtins → ∀ stage : Stage σ,
      ((Statement.set name value line).perform context).carry counter stage =
        (.error ⟨line, .reservedName name⟩, stage) ∧
      (Statement.set name value line).points context counter stage =
        [.statement (.set name value line) stage] ∧
      (.statement (.set name value line) stage ∈ program.points context counter state →
        program.executeOn context counter state =
          (.failed stage.run.lines.toList ⟨line, .reservedName name⟩, stage.counter)) := by
  have start : (Stage.start state).run.Unshadowed context := unshadowed_start context
  obtain ⟨inside, ended⟩ := kept_unshadowed.blockPoints.2 program.statements (.start state) start
  refine ⟨inside, ended, ?_, ?_, ?_⟩
  · intro line name stage supplier member registered
    exact carry_reference (inside _ member) registered line
  · exact kept_unshadowed.executeBy_eq carry_resolveBuiltinFirst program start
  · intro name value line taken stage
    have reserved := Context.isReserved_iff.mpr taken
    have failed : ((Statement.set name value line).perform context).carry counter stage =
        (.error ⟨line, .reservedName name⟩, stage) := carry_set_reserved reserved value line
    refine ⟨failed, ?_, ?_⟩
    · rw [Statement.points, if_pos reserved]
    · intro member
      rw [executeOn_eq, (carry_of_mem_points failed).2 _ _ member]
      rfl

/-- A program sends who its user is and fails on the attempt to set it, before it counts. -/
theorem Program.builtins_genuine_user :
    let context := { Context.ofInvocation "ann" "#c" "hi" [] fun _ => 0 with counted := true }
    let program : Program := ⟨[.send (.reference "user") 1, .set "user" (.call "count" []) 2]⟩
    program.executeOn context Counts.next ∅ = (.failed ["ann"] ⟨2, .reservedName "user"⟩, ∅) := by
  intro context program
  have genuine := program.builtins_genuine context Counts.next ∅
  have taken : "user" ∈ standardNames ∨ "user" ∈ context.builtins := .inl (by decide)
  have reached : (program.points context Counts.next ∅)[2]? =
      some (.statement (.set "user" (.call "count" []) 2) _) := rfl
  exact (genuine.2.2.2.2 "user" _ 2 taken _).2.2 (List.mem_of_getElem? reached)

end ChatScript
