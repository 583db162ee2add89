import ChatScript.Proofs.Likeness

/-! # Runs of equal programs

Two runs are followed side by side. They stay on stages that look alike (`Stage.LooksLike`), and
each step of one either comes to a result that is related to that of its counterpart or fails with
the same failure (`Step.Parallel`). There is a rule for each way of putting steps together, and one
for each step that reads or changes the stage. From there the expressions are gone through from the
inside to the outside (`Expr.parallel_eval`), and then the statements in the order of the run
(`parallel_perform`). So equal programs that look alike where it matters do the same
(`Program.executeOn_of_agrees`).
-/

namespace ChatScript

variable {σ : Type}

/-! ## Two runs side by side -/

/-- Stages that are the same but for the values of the variables, which are alike in what is looked
at. -/
structure Stage.LooksLike (seen : String → List Aspect) (stage other : Stage σ) : Prop where
  bindings : ∀ name, Option.Rel (Value.LooksLike (seen name)) (stage.run.bindings.get? name)
    (other.run.bindings.get? name)
  calls : stage.run.calls = other.run.calls
  draws : stage.run.draws = other.run.draws
  lines : stage.run.lines = other.run.lines
  counter : stage.counter = other.counter

/-- Both ends are results that are related or one failure, on stages that look alike. -/
inductive EndAlike {α : Type} (seen : String → List Aspect) (related : α → α → Prop) :
    Except Failure α × Stage σ → Except Failure α × Stage σ → Prop
  | ok {a b : α} {stage other : Stage σ} : related a b → stage.LooksLike seen other →
    EndAlike seen related (.ok a, stage) (.ok b, other)
  | error {failure : Failure} {stage other : Stage σ} : stage.LooksLike seen other →
    EndAlike seen related (.error failure, stage) (.error failure, other)

namespace Step

variable {α β : Type}

/-- From stages that look alike, the steps come to ends that do. -/
def Parallel (counter : Counter σ) (seen : String → List Aspect) (related : α → α → Prop)
    (step other : Step α) : Prop :=
  ∀ stage stage' : Stage σ, stage.LooksLike seen stage' →
    EndAlike seen related (step.carry counter stage) (other.carry counter stage')

section Rules

variable {counter : Counter σ} {seen : String → List Aspect} {related : α → α → Prop}
  {further : β → β → Prop} {context : Context} {line : Nat}

theorem parallel_pure {a b : α} (alike : related a b) :
    Parallel counter seen related (pure a) (pure b) :=
  fun _ _ start => .ok alike start

theorem parallel_fail (cause : Cause) :
    Parallel counter seen related (fail line cause) (fail line cause) :=
  fun _ _ start => .error start

/-- Sequences run side by side if their steps do, the second from results that are related. -/
theorem Parallel.bind {step other : Step α} {next next' : α → Step β}
    (first : Parallel counter seen related step other)
    (onward : ∀ a b, related a b → Parallel counter seen further (next a) (next' b)) :
    Parallel counter seen further (step >>= next) (other >>= next') := by
  intro stage stage' start
  have ended := first stage stage' start
  generalize carried : step.carry counter stage = ends,
    carried' : other.carry counter stage' = ends' at ended
  cases ended with
  | ok alike between =>
      rw [carry_bind_ok carried, carry_bind_ok carried']
      exact onward _ _ alike _ _ between
  | error between =>
      rw [carry_bind_error carried, carry_bind_error carried']
      exact .error between

/-- How the results are related may be told from how the steps came to them. -/
theorem Parallel.imp {step other : Step α} (parallel : Parallel counter seen related step other)
    {weaker : α → α → Prop}
    (implied : ∀ {stage stage' after after' a b}, step.carry counter stage = (.ok a, after) →
      other.carry counter stage' = (.ok b, after') → related a b → weaker a b) :
    Parallel counter seen weaker step other := by
  intro stage stage' start
  have ended := parallel stage stage' start
  generalize carried : step.carry counter stage = ends,
    carried' : other.carry counter stage' = ends' at ended ⊢
  cases ended with
  | ok alike between => exact .ok (implied carried carried' alike) between
  | error between => exact .error between

theorem parallel_lift (result : Except Cause α) :
    Parallel counter seen Eq (lift line result) (lift line result) := by
  cases result with
  | ok value => exact parallel_pure rfl
  | error cause => exact parallel_fail cause

theorem parallel_draw : Parallel counter seen Eq (draw context) (draw context) := by
  intro stage stage' start
  have drawn (stage : Stage σ) : (draw context).carry counter stage =
      (.ok (context.random stage.run.draws),
        { stage with run := { stage.run with draws := stage.run.draws + 1 } }) := rfl
  rw [drawn, drawn, start.draws]
  exact .ok rfl { start with draws := rfl }

theorem parallel_ask : Parallel counter seen Eq
    ((Counting.ask context.channel context.command : Counting Int) : Step Int)
    ((Counting.ask context.channel context.command : Counting Int) : Step Int) := by
  intro stage stage' start
  have asked (stage : Stage σ) :
      carry counter ((Counting.ask context.channel context.command : Counting Int) : Step Int)
          stage =
        (.ok ((counter context.channel context.command).run stage.counter).1,
          { stage with counter :=
            ((counter context.channel context.command).run stage.counter).2 }) := rfl
  rw [asked, asked, start.counter]
  exact .ok rfl { start with counter := rfl }

/-- A bare name has values that are alike in what is seen of its variable. -/
theorem parallel_named (name : String) : Parallel counter seen (Value.LooksLike (seen name))
    ((Expr.named name).eval context line) ((Expr.named name).eval context line) := by
  intro stage stage' start
  have bound := start.bindings name
  rw [Expr.eval, carry_get_bind, carry_get_bind]
  generalize stage.run.bindings.get? name = value, stage'.run.bindings.get? name = value' at bound
  cases bound with
  | some alike => exact .ok alike start
  | none => exact .error start

/-- A reference has values that are alike in what is seen of its variable. -/
theorem parallel_resolve (name : String) : Parallel counter seen (Value.LooksLike (seen name))
    (resolve context line name) (resolve context line name) := by
  intro stage stage' start
  have bound := start.bindings name
  rw [resolve, carry_get_bind, carry_get_bind, ← start.calls]
  generalize stage.run.bindings.get? name = value, stage'.run.bindings.get? name = value' at bound
  cases bound with
  | some alike => exact .ok alike start
  | none =>
      dsimp only
      split
      · exact .ok (.refl _ _) { start with calls := rfl }
      · split
        · exact .ok (.refl _ _) start
        · exact .error start

end Rules

end Step

/-! ## Expressions -/

section Expressions

variable {counter : Counter σ} {seen : String → List Aspect} {looked : List Aspect}
  {context : Context} {line : Nat}

/-- What is picked is related if all choices are. -/
theorem forall₂_pickFrom {α : Type} {related : α → α → Prop} {first first' : α}
    {others others' : List α} (all : List.Forall₂ related (first :: others) (first' :: others'))
    (random : Nat) : related (pickFrom first others random) (pickFrom first' others' random) := by
  have inside : random % (first :: others).length < (first :: others).length :=
    Nat.mod_lt _ (by simp)
  have selected := all.get inside (all.length_eq ▸ inside)
  simpa only [pickFrom, all.length_eq] using selected

/-- A function is carried out alike for arguments that are alike in what it looks at. -/
theorem Step.parallel_apply {function : Function} {arguments others : List Value}
    (alike : List.Forall₂ (Value.LooksLike (argumentsLookAt function.name looked)) arguments
      others) :
    Parallel counter seen (Value.LooksLike looked) (apply context line function arguments)
      (apply context line function others) := by
  cases function with
  | roll =>
      rw [apply, apply, rollBounds_of_agrees (alike.imp fun _ _ alike => alike.agree)]
      refine (parallel_lift _).bind ?_
      rintro bounds _ rfl
      refine parallel_draw.bind ?_
      rintro random _ rfl
      exact parallel_pure (.refl _ _)
  | pick =>
      cases alike with
      | nil => exact parallel_fail _
      | cons first more =>
          refine parallel_draw.bind ?_
          rintro random _ rfl
          exact parallel_pure (forall₂_pickFrom (.cons first more) random)
  | count =>
      rw [apply, apply, alike.length_eq]
      split
      · exact parallel_fail _
      · split
        · refine parallel_ask.bind ?_
          rintro count _ rfl
          exact parallel_pure (.refl _ _)
        · exact parallel_fail _

/-- Expressions run side by side if each of them does. -/
theorem Step.parallel_evalAll {exprs others : List Expr}
    (each : List.Forall₂ (fun expr other => Parallel counter seen (Value.LooksLike looked)
      (expr.eval context line) (other.eval context line)) exprs others) :
    Parallel counter seen (List.Forall₂ (Value.LooksLike looked)) (evalAll context line exprs)
      (evalAll context line others) := by
  induction each with
  | nil => exact parallel_pure .nil
  | cons first _ ih =>
      exact first.bind fun _ _ alike => ih.bind fun _ _ more => parallel_pure (.cons alike more)

/-- Arguments that agree and look alike do so one by one. -/
theorem forall₂_of_allAgree {exprs others : List Expr} (agree : allAgree exprs others)
    (alike : allLookLike seen looked exprs others) {related : Expr → Expr → Prop}
    (each : ∀ expr ∈ exprs, ∀ other, expr.agrees other → expr.looksLike seen looked other →
      related expr other) : List.Forall₂ related exprs others := by
  induction exprs generalizing others with
  | nil =>
      cases others with
      | nil => exact .nil
      | cons => cases agree
  | cons expr exprs ih =>
      cases others with
      | nil => cases agree
      | cons other others =>
          rw [allAgree, Bool.and_eq_true] at agree
          rw [allLookLike, Bool.and_eq_true] at alike
          rw [List.forall_mem_cons] at each
          exact .cons (each.1 other agree.1 alike.1) (ih agree.2 alike.2 each.2)

/-- The values of two expressions are also what these promise. -/
theorem Step.Parallel.promised {expr other : Expr}
    (parallel : Parallel counter seen (Value.LooksLike looked) (expr.eval context line)
      (other.eval context line)) :
    Parallel counter seen
      (fun a b => a.LooksLike looked b ∧ expr.Promises a ∧ other.Promises b)
      (expr.eval context line) (other.eval context line) :=
  parallel.imp fun done done' alike =>
    ⟨alike, Expr.promises_of_eval done, Expr.promises_of_eval done'⟩

/-- Equal expressions that are alike in what is looked at have values that are, or fail with the
same failure. -/
theorem Expr.parallel_eval {expr other : Expr} (agree : expr.agrees other)
    (alike : expr.looksLike seen looked other) :
    Step.Parallel counter seen (Value.LooksLike looked) (expr.eval context line)
      (other.eval context line) := by
  induction expr generalizing other looked with
  | literal a =>
      cases other with
      | literal b => exact Step.parallel_pure ⟨agree, List.all_eq_true.mp alike⟩
      | _ => cases agree
  | named name =>
      cases other with
      | named _ =>
          obtain rfl := eq_of_beq agree
          exact (Step.parallel_named name).imp fun _ _ found =>
            found.mono (of_decide_eq_true alike)
      | _ => cases agree
  | reference name =>
      cases other with
      | reference _ =>
          obtain rfl := eq_of_beq agree
          exact (Step.parallel_resolve name).imp fun _ _ found =>
            found.mono (of_decide_eq_true alike)
      | _ => cases agree
  | call name arguments ih =>
      cases other with
      | call _ others =>
          simp only [Expr.agrees, Bool.and_eq_true, beq_iff_eq] at agree
          obtain ⟨rfl, agree⟩ := agree
          rw [Expr.eval, Expr.eval]
          cases known : Function.ofName? name with
          | none => exact Step.parallel_fail _
          | some function =>
              obtain rfl := Function.name_of_ofName? known
              have values := Step.parallel_evalAll (forall₂_of_allAgree agree alike
                fun expr member _ agree alike => ih expr member agree alike)
              exact values.bind fun _ _ alike => Step.parallel_apply alike
      | _ => cases agree
  | interpolated parts ih =>
      cases other with
      | interpolated others =>
          have values := Step.parallel_evalAll (forall₂_of_allAgree agree alike
            fun expr member _ agree alike => ih expr member agree alike)
          refine values.bind fun texts texts' alike => Step.parallel_pure ?_
          have same : texts.map Value.toText = texts'.map Value.toText := by
            rw [← List.forall₂_eq_eq_eq, List.forall₂_map_left_iff, List.forall₂_map_right_iff]
            exact alike.imp fun _ _ alike => alike.toText_eq
          rw [same]
          exact .refl _ _
      | _ => cases agree
  | binary op left right first second =>
      cases other with
      | binary _ left' right' =>
          simp only [Expr.agrees, Bool.and_eq_true, beq_iff_eq] at agree
          obtain ⟨⟨rfl, agreeLeft⟩, agreeRight⟩ := agree
          rw [looksLike, Bool.and_eq_true] at alike
          have lefts := (first agreeLeft alike.1).promised
          have rights := (second agreeRight alike.2).promised
          refine lefts.bind fun a a' alike => rights.bind fun b b' alike' => ?_
          rw [BinaryOp.apply_of_looksLike alike.1 alike'.1 alike.2 alike'.2]
          exact (Step.parallel_lift _).imp fun _ _ same => same ▸ .refl _ _
      | _ => cases agree

end Expressions

/-! ## Statements -/

section Statements

variable {counter : Counter σ} {seen : String → List Aspect} {context : Context}

/-- Setting a variable keeps stages alike if the values are alike in what is seen of it. -/
theorem Stage.LooksLike.insert {stage other : Stage σ} (alike : stage.LooksLike seen other)
    (name : String) {value value' : Value} (same : value.LooksLike (seen name) value') :
    Stage.LooksLike seen
      { stage with run := { stage.run with bindings := stage.run.bindings.insert name value } }
      { other with
        run := { other.run with bindings := other.run.bindings.insert name value' } } := by
  refine { alike with bindings := fun queried => ?_ }
  simp only [Std.ExtTreeMap.get?_eq_getElem?, Std.ExtTreeMap.getElem?_insert]
  split
  · rename_i isName
    obtain rfl := Std.LawfulEqCmp.eq_of_compare isName
    exact .some same
  · exact alike.bindings queried

theorem Stage.LooksLike.push {stage other : Stage σ} (alike : stage.LooksLike seen other)
    (sent : String) :
    Stage.LooksLike seen
      { stage with run := { stage.run with lines := stage.run.lines.push sent } }
      { other with run := { other.run with lines := other.run.lines.push sent } } :=
  { alike with lines := congrArg (·.push sent) alike.lines }

section Branches

variable {condition condition' : Expr} {thenBranch thenBranch' : List Statement}
  {elseBranch elseBranch' : Option (List Statement)} {line line' : Nat} {value value' : Value}

/-- Conditionals that agree do so in their conditions, in both branches and in their line. -/
theorem agrees_conditional
    (agree : (Statement.conditional condition thenBranch elseBranch line).agrees
      (.conditional condition' thenBranch' elseBranch' line')) :
    condition.agrees condition' ∧ blockAgrees thenBranch thenBranch' ∧
      blockAgrees (elseBranch.getD []) (elseBranch'.getD []) ∧ line = line' := by
  cases elseBranch <;> cases elseBranch' <;>
    simp only [Statement.agrees, Bool.and_eq_true, beq_iff_eq, Bool.false_eq_true] at agree
  · exact ⟨agree.1.1, agree.1.2, rfl, agree.2⟩
  · exact ⟨agree.1.1.1, agree.1.1.2, agree.1.2, agree.2⟩

/-- Conditionals that look alike do so in the truth of their conditions and in both branches. -/
theorem looksLike_conditional
    (alike : (Statement.conditional condition thenBranch elseBranch line).looksLike seen
      (.conditional condition' thenBranch' elseBranch' line')) :
    condition.looksLike seen [.truth] condition' ∧ blockLooksLike seen thenBranch thenBranch' ∧
      blockLooksLike seen (elseBranch.getD []) (elseBranch'.getD []) := by
  cases elseBranch <;> cases elseBranch' <;>
    simp only [Statement.looksLike, Bool.and_eq_true, Bool.false_eq_true] at alike
  · exact ⟨alike.1, alike.2, rfl⟩
  · exact ⟨alike.1.1, alike.1.2, alike.2⟩

/-- Conditions that are alike lead into branches that are counterparts. -/
theorem branchFor_related (related : List Statement → List Statement → Prop)
    (thens : related thenBranch thenBranch')
    (elses : related (elseBranch.getD []) (elseBranch'.getD []))
    (truth : value.isTruthy = value'.isTruthy) :
    related (branchFor value thenBranch elseBranch) (branchFor value' thenBranch' elseBranch') := by
  rw [branchFor, branchFor, truth]
  split
  · exact thens
  · exact elses

end Branches

/-- Equal statements that are alike in what is looked at do the same, and leave variables behind
that are alike. -/
theorem parallel_perform :
    (∀ statement other : Statement, statement.agrees other → statement.looksLike seen other →
      Step.Parallel counter seen Eq (statement.perform context) (other.perform context)) ∧
    ∀ block others, blockAgrees block others → blockLooksLike seen block others →
      Step.Parallel counter seen Eq (performAll context block) (performAll context others) := by
  apply Statement.branchInduction
  case set =>
    intro name value line other agree alike
    cases other with
    | set _ value' _ =>
        simp only [Statement.agrees, Bool.and_eq_true, beq_iff_eq] at agree
        obtain ⟨⟨rfl, agree⟩, rfl⟩ := agree
        rw [Statement.perform, Statement.perform]
        split
        · exact Step.parallel_fail _
        · refine (Expr.parallel_eval agree alike).bind fun _ _ same => ?_
          exact fun _ _ start => .ok rfl (start.insert name same)
    | _ => cases agree
  case send =>
    intro value line other agree alike
    cases other with
    | send value' _ =>
        simp only [Statement.agrees, Bool.and_eq_true, beq_iff_eq] at agree
        obtain ⟨agree, rfl⟩ := agree
        rw [Statement.perform, Statement.perform]
        refine (Expr.parallel_eval agree alike).bind fun _ _ same => ?_
        rw [same.toText_eq]
        exact fun _ _ start => .ok rfl (start.push _)
    | _ => cases agree
  case conditional =>
    intro condition thenBranch elseBranch line ih other agree alike
    cases other with
    | conditional condition' thenBranch' elseBranch' line' =>
        obtain ⟨equal, equalThens, equalElses, rfl⟩ := agrees_conditional agree
        obtain ⟨similar, similarThens, similarElses⟩ := looksLike_conditional alike
        rw [perform_conditional, perform_conditional]
        refine (Expr.parallel_eval equal similar).bind fun value value' same => ?_
        have truth := same.isTruthy_eq
        refine ih value _ ?_ ?_
        · exact branchFor_related (fun block others => blockAgrees block others) equalThens
            equalElses truth
        · exact branchFor_related (fun block others => blockLooksLike seen block others)
            similarThens similarElses truth
    | _ => cases elseBranch <;> cases agree
  case empty =>
    intro others agree _
    cases others with
    | nil => exact Step.parallel_pure rfl
    | cons => cases agree
  case next =>
    intro statement statements first more others agree alike
    cases others with
    | nil => cases agree
    | cons other others =>
        rw [blockAgrees, Bool.and_eq_true] at agree
        rw [blockLooksLike, Bool.and_eq_true] at alike
        exact (first other agree.1 alike.1).bind fun _ _ _ => more others agree.2 alike.2

end Statements

/-! ## Programs -/

theorem Stage.looksLike_start (seen : String → List Aspect) (state : σ) :
    (Stage.start state).LooksLike seen (.start state) where
  bindings name := by simp [Stage.start, Run.start]
  calls := rfl
  draws := rfl
  lines := rfl
  counter := rfl

namespace Program

/-- **Equal programs behave equally**, in every context and with every counter, if the literals that
face each other are alike in what is looked at where their values go: in the text where they are
sent, put into a text or appended by a sum, in the truth where they decide on a branch, and in the
kind where they are compared with what may be a text. Anywhere else only their numbers count. -/
theorem executeOn_of_agrees {program other : Program} (agree : program.agrees other)
    {seen : String → List Aspect} (alike : program.looksLike seen other) (context : Context)
    (counter : Counter σ) (state : σ) :
    program.executeOn context counter state = other.executeOn context counter state := by
  have ended : EndAlike seen Eq
      ((performAll context program.statements).carry counter (.start state))
      ((performAll context other.statements).carry counter (.start state)) :=
    parallel_perform.2 _ _ agree alike _ _ (Stage.looksLike_start seen state)
  rw [executeOn_eq, executeOn_eq]
  generalize (performAll context program.statements).carry counter (.start state) = ends,
    (performAll context other.statements).carry counter (.start state) = ends' at ended
  cases ended with
  | ok _ final => simp only [Run.outcome, final.lines, final.counter]
  | error final => simp only [Run.outcome, final.lines, final.counter]

/-- Compares a value with 42, computes with it and another one, and sends the result. -/
def weighing (n low : Value) : Program :=
  ⟨[.set "n" (.literal n) 1,
    .conditional (.binary .equal (.named "n") (.literal (.number 42)))
      [.set "sum" (.binary .add (.named "n")
        (.call "roll" [.literal low, .binary .subtract (.named "n") (.literal low)])) 3,
      .send (.interpolated [.literal (.text "sum: "), .reference "sum"]) 4]
      none 2]⟩

theorem executeOn_of_agrees_weighing :
    let context := Context.ofInvocation "ann" "#c" "hi" [] fun _ => 6
    let seen := fun name => if name = "sum" then [Aspect.text] else []
    (weighing (.text " +042") (.number 1)).agrees (weighing (.number 42) (.text "01")) ∧
      (weighing (.text " +042") (.number 1)).looksLike seen (weighing (.number 42) (.text "01")) ∧
      (weighing (.text " +042") (.number 1)).executeOn context Counts.next ∅ =
        (weighing (.number 42) (.text "01")).executeOn context Counts.next ∅ ∧
      ((weighing (.number 42) (.text "01")).executeOn context Counts.next ∅).1 =
        .completed ["sum: 49"] := by
  intro context seen
  have agree : (weighing (.text " +042") (.number 1)).agrees
      (weighing (.number 42) (.text "01")) := by decide +kernel
  have alike : (weighing (.text " +042") (.number 1)).looksLike seen
      (weighing (.number 42) (.text "01")) := by decide +kernel
  have same := executeOn_of_agrees agree alike context Counts.next ∅
  exact ⟨agree, alike, same, by decide +kernel⟩

/-- Sends a value. -/
def sending (value : Value) : Program :=
  ⟨[.send (.literal value) 1]⟩

/-- Sends a line if a value counts as true. -/
def deciding (value : Value) : Program :=
  ⟨[.conditional (.literal value) [.send (.literal (.text "yes")) 2] none 1]⟩

/-- Sends whether a value equals a text. -/
def equating (value : Value) (content : String) : Program :=
  ⟨[.send (.binary .equal (.literal value) (.literal (.text content))) 1]⟩

/-- Equal programs may be told apart by each of the things that are looked at: by the text of what
they send, by the branch that they take, and by an equality with a text. -/
theorem executeOn_ne_of_agrees :
    let context := Context.ofInvocation "ann" "#c" "hi" [] fun _ => 0
    let outcome := fun program : Program => (program.executeOn context Counts.next ∅).1
    ((sending (.text "042")).agrees (sending (.number 42)) ∧
      outcome (sending (.text "042")) ≠ outcome (sending (.number 42))) ∧
    ((deciding (.text "0")).agrees (deciding (.number 0)) ∧
      outcome (deciding (.text "0")) ≠ outcome (deciding (.number 0))) ∧
    (equating (.text "7") "07").agrees (equating (.number 7) "07") ∧
      outcome (equating (.text "7") "07") ≠ outcome (equating (.number 7) "07") := by
  decide +kernel

end Program

end ChatScript
