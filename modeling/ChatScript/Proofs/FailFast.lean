import ChatScript.Proofs.Stage

/-! # The first failure ends a run

A run that fails does so at one statement, however deep it stands. A `Site` is a place in a program:
the statement at it, and what stands before and behind it in every block that it is in. The program
can be cut there (`Site.cut`), and a run that gets there has carried out what stands before and has
taken the branches that lead there (`Site.Reaches`).

A failed run has reached the statement that failed (`Site.exists_failsAt`), and what it has done by
then is exactly what the program does that is cut there (`Site.Reaches.cut`); what stands behind
plays no part in it (`Site.Reaches.block`).
-/

namespace ChatScript

/-- A place in a block. -/
inductive Site where
  /-- At a statement of the block itself. -/
  | here (before : List Statement) (statement : Statement) (after : List Statement)
  /-- In the first branch of a conditional of the block. -/
  | inThen (before : List Statement) (condition : Expr) (inner : Site)
      (elseBranch : Option (List Statement)) (line : Nat) (after : List Statement)
  /-- In the second branch of a conditional of the block. -/
  | inElse (before : List Statement) (condition : Expr) (thenBranch : List Statement)
      (inner : Site) (line : Nat) (after : List Statement)

namespace Site

/-- The block that the place is in. -/
def block : Site → List Statement
  | here before statement after => before ++ statement :: after
  | inThen before condition inner elseBranch line after =>
    before ++ .conditional condition inner.block elseBranch line :: after
  | inElse before condition thenBranch inner line after =>
    before ++ .conditional condition thenBranch (some inner.block) line :: after

/-- The statement at the place. -/
def statement : Site → Statement
  | here _ statement _ => statement
  | inThen _ _ inner _ _ _ => inner.statement
  | inElse _ _ _ inner _ _ => inner.statement

/-- The block without the statement at the place, and without what stands behind it in any of the
blocks that it is in. -/
def cut : Site → List Statement
  | here before _ _ => before
  | inThen before condition inner elseBranch line _ =>
    before ++ [.conditional condition inner.cut elseBranch line]
  | inElse before condition thenBranch inner line _ =>
    before ++ [.conditional condition thenBranch (some inner.cut) line]

/-- The place if nothing stood behind it: neither in a block that it is in, nor in the second branch
of a conditional that has it in the first. -/
def start : Site → Site
  | here before statement _ => here before statement []
  | inThen before condition inner _ line _ => inThen before condition inner.start none line []
  | inElse before condition thenBranch inner line _ =>
    inElse before condition thenBranch inner.start line []

/-- The place if one more statement stood at the front of the block. -/
def behind (first : Statement) : Site → Site
  | here before statement after => here (first :: before) statement after
  | inThen before condition inner elseBranch line after =>
    inThen (first :: before) condition inner elseBranch line after
  | inElse before condition thenBranch inner line after =>
    inElse (first :: before) condition thenBranch inner line after

variable {σ : Type} (context : Context) (counter : Counter σ)

/-- A run of the block that is at the first stage comes to the place, and is then at the last stage:
the statements before the place succeed, and the conditions lead into its branches. -/
def Reaches : Site → (first last : Stage σ) → Prop
  | here before _ _, first, last => (performAll context before).carry counter first = (.ok (), last)
  | inThen before condition inner _ line _, first, last => ∃ middle value after,
      (performAll context before).carry counter first = (.ok (), middle) ∧
      (condition.eval context line).carry counter middle = (.ok value, after) ∧
      value.isTruthy = true ∧ inner.Reaches after last
  | inElse before condition _ inner line _, first, last => ∃ middle value after,
      (performAll context before).carry counter first = (.ok (), middle) ∧
      (condition.eval context line).carry counter middle = (.ok value, after) ∧
      value.isTruthy = false ∧ inner.Reaches after last

@[simp] theorem statement_start (site : Site) : site.start.statement = site.statement := by
  induction site with
  | here => rfl
  | inThen _ _ _ _ _ _ ih | inElse _ _ _ _ _ _ ih => exact ih

/-- Whether a run comes to a place does not depend on what stands behind it. -/
@[simp] theorem reaches_start (site : Site) (first last : Stage σ) :
    site.start.Reaches context counter first last ↔ site.Reaches context counter first last := by
  induction site generalizing first with
  | here => exact Iff.rfl
  | inThen _ _ _ _ _ _ ih | inElse _ _ _ _ _ _ ih => simp only [start, Reaches, ih]

variable {context counter}

/-- A run that gets to a statement gets to it at every site that starts there. -/
theorem Reaches.of_start {site other : Site} {first last : Stage σ}
    (reaches : site.Reaches context counter first last) (same : other.start = site.start) :
    other.Reaches context counter first last := by
  rwa [← reaches_start, same, reaches_start]

/-- The program that is cut at the place gets just as far. -/
theorem Reaches.cut {site : Site} {first last : Stage σ}
    (reaches : site.Reaches context counter first last) :
    (performAll context site.cut).carry counter first = (.ok (), last) := by
  induction site generalizing first with
  | here => exact reaches
  | inThen before condition inner elseBranch line after ih =>
      obtain ⟨middle, value, next, passed, evaluated, truthy, further⟩ := reaches
      have taken := carry_conditional evaluated inner.cut elseBranch
      rw [branchFor_of_truthy truthy, ih further] at taken
      rw [Site.cut, performAll_append, Step.carry_bind_ok passed, performAll,
        Step.carry_bind_ok taken, performAll, Step.carry_pure]
  | inElse before condition thenBranch inner line after ih =>
      obtain ⟨middle, value, next, passed, evaluated, falsy, further⟩ := reaches
      have taken := carry_conditional evaluated thenBranch (some inner.cut)
      rw [branchFor_of_falsy falsy, Option.getD_some, ih further] at taken
      rw [Site.cut, performAll_append, Step.carry_bind_ok passed, performAll,
        Step.carry_bind_ok taken, performAll, Step.carry_pure]

/-- If the statement at the place fails, then so does the block, whatever stands behind. -/
theorem Reaches.block {site : Site} {first last final : Stage σ} {failure : Failure}
    (reaches : site.Reaches context counter first last)
    (failed : (site.statement.perform context).carry counter last = (.error failure, final)) :
    (performAll context site.block).carry counter first = (.error failure, final) := by
  induction site generalizing first with
  | here before statement after =>
      rw [Reaches] at reaches
      rw [Site.statement] at failed
      rw [Site.block, performAll_append, Step.carry_bind_ok reaches, performAll,
        Step.carry_bind_error failed]
  | inThen before condition inner elseBranch line after ih =>
      obtain ⟨middle, value, next, passed, evaluated, truthy, further⟩ := reaches
      have taken := carry_conditional evaluated inner.block elseBranch
      rw [branchFor_of_truthy truthy, ih further failed] at taken
      rw [Site.block, performAll_append, Step.carry_bind_ok passed, performAll,
        Step.carry_bind_error taken]
  | inElse before condition thenBranch inner line after ih =>
      obtain ⟨middle, value, next, passed, evaluated, falsy, further⟩ := reaches
      have taken := carry_conditional evaluated thenBranch (some inner.block)
      rw [branchFor_of_falsy falsy, Option.getD_some, ih further failed] at taken
      rw [Site.block, performAll_append, Step.carry_bind_ok passed, performAll,
        Step.carry_bind_error taken]

theorem block_ne_nil (site : Site) : site.block ≠ [] := by
  cases site <;> simp [Site.block]

@[simp] theorem statement_behind (first : Statement) (site : Site) :
    (site.behind first).statement = site.statement := by
  cases site <;> rfl

@[simp] theorem block_behind (first : Statement) (site : Site) :
    (site.behind first).block = first :: site.block := by
  cases site <;> rfl

/-- A run that gets past a statement gets on to what is behind it. -/
theorem Reaches.behind {site : Site} {statement : Statement} {first next last : Stage σ}
    (passed : (statement.perform context).carry counter first = (.ok (), next))
    (reaches : site.Reaches context counter next last) :
    (site.behind statement).Reaches context counter first last := by
  cases site with
  | here before failing after =>
      rw [Site.behind, Reaches, performAll, Step.carry_bind_ok passed]
      exact reaches
  | inThen before condition inner elseBranch line after =>
      simp only [Site.behind, Reaches, performAll, Step.carry_bind_ok passed]
      exact reaches
  | inElse before condition thenBranch inner line after =>
      simp only [Site.behind, Reaches, performAll, Step.carry_bind_ok passed]
      exact reaches

end Site

/-- A run that is at the first stage comes to the place and ends at the final stage because the
statement there fails: it fails on its own line, and sends nothing. -/
def Site.FailsAt {σ : Type} (context : Context) (counter : Counter σ) (first final : Stage σ)
    (failure : Failure) (site : Site) : Prop :=
  ∃ last, site.Reaches context counter first last ∧
    (site.statement.perform context).carry counter last = (.error failure, final) ∧
    failure.line = site.statement.line ∧ final.run.lines = last.run.lines

namespace Site

variable {σ : Type} {context : Context} {counter : Counter σ} {first final : Stage σ}
  {failure : Failure}

/-- A failure in the first branch is one of the conditional, if the condition is true. -/
theorem FailsAt.inThen {inner : Site} {condition : Expr} {line : Nat} {value : Value}
    {next : Stage σ} (fails : inner.FailsAt context counter next final failure)
    (evaluated : (condition.eval context line).carry counter first = (.ok value, next))
    (truthy : value.isTruthy = true) (elseBranch : Option (List Statement))
    (after : List Statement) :
    (Site.inThen [] condition inner elseBranch line after).FailsAt context counter first final
      failure := by
  obtain ⟨last, reaches, stops⟩ := fails
  exact ⟨last, ⟨first, value, next, rfl, evaluated, truthy, reaches⟩, stops⟩

/-- A failure in the `else` branch is one of the conditional, if the condition is false. -/
theorem FailsAt.inElse {inner : Site} {condition : Expr} {line : Nat} {value : Value}
    {next : Stage σ} (fails : inner.FailsAt context counter next final failure)
    (evaluated : (condition.eval context line).carry counter first = (.ok value, next))
    (falsy : value.isTruthy = false) (thenBranch after : List Statement) :
    (Site.inElse [] condition thenBranch inner line after).FailsAt context counter first final
      failure := by
  obtain ⟨last, reaches, stops⟩ := fails
  exact ⟨last, ⟨first, value, next, rfl, evaluated, falsy, reaches⟩, stops⟩

/-- A failure behind a statement that succeeds is one of the block. -/
theorem FailsAt.behind {site : Site} {statement : Statement} {next : Stage σ}
    (fails : site.FailsAt context counter next final failure)
    (passed : (statement.perform context).carry counter first = (.ok (), next)) :
    (site.behind statement).FailsAt context counter first final failure := by
  obtain ⟨last, reaches, stops⟩ := fails
  refine ⟨last, reaches.behind passed, ?_⟩
  rwa [statement_behind]

/-- A statement whose own expression cannot be evaluated is the one that fails. -/
theorem failsAt_of_eval {statement : Statement}
    (failed : (statement.perform context).carry counter first = (.error failure, final))
    (evaluated : (statement.value.eval context statement.line).carry counter first =
      (.error failure, final)) (after : List Statement) :
    (Site.here [] statement after).FailsAt context counter first final failure := by
  have quiet : Step.Quiet context statement.line (statement.value.eval context statement.line) :=
    Step.quiet_eval statement.value
  exact ⟨first, rfl, failed, quiet.failure_line evaluated, quiet.lines_eq evaluated⟩

/-- **A failed run has reached the statement that failed.** The induction follows the nesting of the
blocks: either a statement fails by itself, or it is a conditional and one of its branches does. -/
theorem exists_failsAt (context : Context) (counter : Counter σ) :
    (∀ (statement : Statement) first final failure,
      (statement.perform context).carry counter first = (.error failure, final) →
      ∀ after, ∃ site : Site, site.block = statement :: after ∧
        site.FailsAt context counter first final failure) ∧
    ∀ block first final failure,
      (performAll context block).carry counter first = (.error failure, final) →
      ∃ site : Site, site.block = block ∧ site.FailsAt context counter first final failure := by
  apply Statement.branchInduction
  case set =>
    intro name value line first final failure failed after
    refine ⟨.here [] (.set name value line) after, rfl, ?_⟩
    by_cases reserved : context.isReserved name = true
    · have stopped := failed
      rw [carry_set_reserved reserved] at stopped
      cases stopped
      exact ⟨first, rfl, failed, rfl, rfl⟩
    · have unfolded := failed
      rw [Statement.perform, if_neg reserved, Step.carry_bind_eq_error_iff] at unfolded
      rcases unfolded with stopped | ⟨_, _, -, ⟨⟩⟩
      exact failsAt_of_eval failed stopped after
  case send =>
    intro value line first final failure failed after
    have unfolded := failed
    rw [Statement.perform, Step.carry_bind_eq_error_iff] at unfolded
    rcases unfolded with stopped | ⟨_, _, -, ⟨⟩⟩
    exact ⟨.here [] (.send value line) after, rfl, failsAt_of_eval failed stopped after⟩
  case conditional =>
    intro condition thenBranch elseBranch line branch first final failure failed after
    have unfolded := failed
    rw [perform_conditional, Step.carry_bind_eq_error_iff] at unfolded
    rcases unfolded with stopped | ⟨value, next, evaluated, further⟩
    · exact ⟨.here [] _ after, rfl, failsAt_of_eval failed stopped after⟩
    · obtain ⟨inner, isBranch, fails⟩ := branch value next final failure further
      cases truth : value.isTruthy with
      | true =>
          rw [branchFor_of_truthy truth] at isBranch
          subst isBranch
          exact ⟨.inThen [] condition inner elseBranch line after, rfl,
            fails.inThen evaluated truth elseBranch after⟩
      | false =>
          rw [branchFor_of_falsy truth] at isBranch
          cases elseBranch with
          | none => exact absurd isBranch inner.block_ne_nil
          | some elseBranch =>
              subst isBranch
              exact ⟨.inElse [] condition thenBranch inner line after, rfl,
                fails.inElse evaluated truth thenBranch after⟩
  case empty =>
    intro first final failure failed
    rw [performAll] at failed
    cases failed
  case next =>
    intro statement statements head others first final failure failed
    rw [performAll, Step.carry_bind_eq_error_iff] at failed
    rcases failed with stopped | ⟨_, next, passed, further⟩
    · exact head first final failure stopped statements
    · obtain ⟨site, rfl, fails⟩ := others next final failure further
      exact ⟨site.behind statement, block_behind statement site, fails.behind passed⟩

end Site

/-- **The first failure ends a run.** A result without failure has no error. If a run fails, there
is a statement of the program that the run has come to, and the error reports the line of that
statement. The program that is cut there succeeds with the same lines, and so far as the result is
concerned, anything may stand behind the statement. -/
theorem Program.fails_fast {σ : Type} (program : Program) (context : Context) (counter : Counter σ)
    (state : σ) :
    let ended := program.executeOn context counter state
    (ended.1.success = true → ended.1.error = none) ∧
    (ended.1.success = false → ∃ (site : Site) (last : Stage σ) (detail : ErrorDetail),
      site.block = program.statements ∧ site.Reaches context counter (.start state) last ∧
      ended.1.error = some detail ∧ detail.line = some site.statement.line ∧
      ∀ other : Site, other.start = site.start →
        let cut := (Program.executeOn ⟨other.cut⟩ context counter state).1
        cut.success = true ∧ cut.error = none ∧ cut.lines = ended.1.lines ∧
          Program.executeOn ⟨other.block⟩ context counter state = ended) := by
  rcases carried : (performAll context program.statements).carry counter (.start state) with
    ⟨result, final⟩
  rw [Program.executeOn_eq, carried]
  cases result with
  | ok done => exact ⟨fun _ => rfl, fun failed => (nomatch failed)⟩
  | error failure =>
      refine ⟨fun succeeded => (nomatch succeeded), fun _ => ?_⟩
      obtain ⟨site, block, last, reaches, failed, line, lines⟩ :=
        (Site.exists_failsAt context counter).2 _ _ _ _ carried
      have reported : failure.detail.line = some site.statement.line := congrArg some line
      refine ⟨site, last, failure.detail, block, reaches, rfl, reported, fun other same => ?_⟩
      have reached := reaches.of_start same
      have stops : (other.statement.perform context).carry counter last =
          (.error failure, final) := by
        rwa [← Site.statement_start, same, Site.statement_start]
      rw [Program.executeOn_eq, Program.executeOn_eq, reached.cut, reached.block stops]
      have sent : last.run.lines.toList = final.run.lines.toList := congrArg Array.toList lines.symm
      exact ⟨rfl, rfl, sent, rfl⟩

/-- A reference without a value in a branch: the first line is sent and the last one is not. -/
theorem Program.fails_fast_in_branch :
    let context := { Context.ofInvocation "ann" "#c" "hi" [] fun _ => 0 with counted := true }
    let program : Program := ⟨[.send (.literal (.text "a")) 1,
      .conditional (.call "count" []) [.send (.reference "b") 3, .send (.literal (.text "c")) 4]
        none 2]⟩
    let ended := (program.execute context).run ∅
    ended.1 = ⟨false, ["a"], some ⟨some 3, some "b", "Undefined reference 'b' at line 3"⟩⟩ ∧
      ∃ (site : Site) (last : Stage Counts) (detail : ErrorDetail),
        site.block = program.statements ∧ site.Reaches context Counts.next (.start ∅) last ∧
        ended.1.error = some detail ∧ detail.line = some site.statement.line ∧
        ∀ other : Site, other.start = site.start →
          let cut := (Program.executeOn ⟨other.cut⟩ context Counts.next ∅).1
          cut.success = true ∧ cut.error = none ∧ cut.lines = ended.1.lines ∧
            Program.executeOn ⟨other.block⟩ context Counts.next ∅ = ended := by
  intro context program ended
  have same : ended = program.executeOn context Counts.next ∅ := Counting.run_eq_runWith _ _
  have failed : ended.1 =
      ⟨false, ["a"], some ⟨some 3, some "b", "Undefined reference 'b' at line 3"⟩⟩ := by
    decide +kernel
  refine ⟨failed, ?_⟩
  rw [same] at failed ⊢
  exact (program.fails_fast context Counts.next ∅).2 (congrArg Outcome.success failed)

end ChatScript
