import ChatScript.Proofs.Stage

/-! # What a run depends on

The result of a program depends only on what the program mentions: the builtins that it refers to,
the names that it sets, and, if it calls the functions that need them, random numbers and counts.

Two contexts that agree on what is mentioned (`Expr.AgreeOn`, `Statement.AgreeOn`) lead to
computations that are alike: they make their requests at the same points and go on alike whatever
the answers are (`Counting.Alike`, `Program.execute_alike`). So their results are equal as long as
the requests of both are answered alike (`Counting.Alike.result_eq`).
-/

namespace ChatScript

/-! ## What a program mentions -/

namespace Program

/-- All expressions of a program: those of its statements, and everything inside of them. -/
def expressions (program : Program) : List Expr :=
  program.allStatements.flatMap fun statement => statement.value.subterms

/-- The program refers to `$(name)`. -/
def Refers (program : Program) (name : String) : Prop :=
  .reference name ∈ program.expressions

/-- The program calls a function of the given name. -/
def Calls (program : Program) (name : String) : Prop :=
  ∃ arguments, .call name arguments ∈ program.expressions

/-- The program sets a variable of the given name. -/
def Sets (program : Program) (name : String) : Prop :=
  ∃ value line, .set name value line ∈ program.allStatements

end Program

/-- Whether the expression is `$(name)`. -/
def Expr.isReferenceTo (name : String) : Expr → Bool
  | .reference other => other == name
  | _ => false

/-- Whether the expression is a call of the function of the given name. -/
def Expr.isCallOf (name : String) : Expr → Bool
  | .call other _ => other == name
  | _ => false

instance (program : Program) (name : String) : Decidable (program.Refers name) :=
  decidable_of_iff (program.expressions.any (Expr.isReferenceTo name)) (by
    rw [List.any_eq_true]
    constructor
    · rintro ⟨expr, member, same⟩
      cases expr with
      | reference other =>
          obtain rfl : other = name := beq_iff_eq.mp same
          exact member
      | _ => cases same
    · exact fun refers => ⟨_, refers, beq_self_eq_true name⟩)

instance (program : Program) (name : String) : Decidable (program.Calls name) :=
  decidable_of_iff (program.expressions.any (Expr.isCallOf name)) (by
    rw [List.any_eq_true]
    constructor
    · rintro ⟨expr, member, same⟩
      cases expr with
      | call other arguments =>
          obtain rfl : other = name := beq_iff_eq.mp same
          exact ⟨arguments, member⟩
      | _ => cases same
    · exact fun ⟨_, calls⟩ => ⟨_, calls, beq_self_eq_true name⟩)

/-! ## Computations that are alike -/

namespace Counting

variable {α β : Type} {asks : String × String → String × String → Prop}

/-- The two computations have the same result, or each of them makes a request, the requests are
related by `asks`, and whatever the answer is, they go on alike. -/
def Alike (asks : String × String → String × String → Prop) : Counting α → Counting α → Prop
  | done result, done other => result = other
  | next channel command resume, next channel' command' resume' =>
    asks (channel, command) (channel', command') ∧
      ∀ value, (resume value).Alike asks (resume' value)
  | _, _ => False

/-- Sequences are alike if their steps are, whatever the first of them comes to. -/
theorem Alike.bind {first second : Counting α} {onward further : α → Counting β}
    (start : first.Alike asks second) (go : ∀ result, (onward result).Alike asks (further result)) :
    (first >>= onward).Alike asks (second >>= further) := by
  induction first generalizing second with
  | done result =>
      cases second with
      | done other =>
          obtain rfl : result = other := start
          exact go result
      | next => cases start
  | next channel command resume ih =>
      cases second with
      | done => cases start
      | next channel' command' resume' => exact ⟨start.1, fun value => ih value (start.2 value)⟩

theorem Alike.map {first second : Counting α} (alike : first.Alike asks second) (change : α → β) :
    (change <$> first).Alike asks (change <$> second) := by
  rw [← bind_pure_comp, ← bind_pure_comp]
  exact alike.bind fun _ => rfl

end Counting

/-- The answer of a counter to a request for the count of `key`, made after as many others for it as
given. -/
def Counter.answer {σ : Type} (counter : Counter σ) (key : String × String) (state : σ) :
    (earlier : Nat) → Int
  | 0 => ((counter key.1 key.2).run state).1
  | earlier + 1 => answer counter key ((counter key.1 key.2).run state).2 earlier

/-- The next count of a command is its count and one more. -/
theorem Counts.run_next (channel command : String) (counts : Counts) :
    (next channel command).run counts =
      (counts.count channel command + 1, counts.increment channel command) := by
  rw [← (counts.count_increment channel command channel command).trans (if_pos ⟨rfl, rfl⟩)]
  rfl

/-- Counts in memory answer with the counts that follow each other. -/
theorem Counts.answer_next (key : String × String) (counts : Counts) (earlier : Nat) :
    Counter.answer next key counts earlier = counts.count key.1 key.2 + 1 + earlier := by
  induction earlier generalizing counts with
  | zero => rw [Counter.answer, run_next, Int.natCast_zero, Int.add_zero]
  | succ earlier ih =>
      rw [Counter.answer, run_next, ih, count_increment, if_pos ⟨rfl, rfl⟩]
      omega

/-- Computations that are alike have the same result where the requests of either are given the same
answers. -/
theorem Counting.Alike.result_eq {α σ τ : Type} {first second : Counting α}
    {key other : String × String} {requests : Prop}
    (alike : first.Alike (fun asked asked' => asked = key ∧ asked' = other ∧ requests) second)
    {counter : Counter σ} {counter' : Counter τ} {state : σ} {state' : τ}
    (answers : requests →
      ∀ earlier, counter.answer key state earlier = counter'.answer other state' earlier) :
    ((first.runWith counter).run state).1 = ((second.runWith counter').run state').1 := by
  induction first generalizing second state state' with
  | done result =>
      cases second with
      | done result' => exact alike
      | next => cases alike
  | next channel command resume ih =>
      cases second with
      | done => cases alike
      | next channel' command' resume' =>
          obtain ⟨⟨rfl, rfl, made⟩, go⟩ := alike
          have same : ((counter channel command).run state).1 =
              ((counter' channel' command').run state').1 := answers made 0
          have further := ih ((counter channel command).run state).1 (go _)
            fun made earlier => answers made (earlier + 1)
          rw [runWith_next, runWith_next, ← same]
          exact further

/-! ## Contexts that agree -/

section Agreement

variable {α β : Type} (asks : String × String → String × String → Prop) (first second : Context)

/-- The contexts agree on what the expression itself needs. What is inside of it may need more. -/
def Expr.AgreeOn : Expr → Prop
  | .reference name =>
    first.args = second.args ∧ first.builtins.get? name = second.builtins.get? name
  | .call name _ =>
    (name = "roll" ∨ name = "pick" → first.random = second.random) ∧
      (name = "count" → first.counted = second.counted ∧
        (first.counted = true → asks first.key second.key))
  | _ => True

/-- The contexts agree on what the statement needs, not counting the statements inside of it. -/
def Statement.AgreeOn (statement : Statement) : Prop :=
  (∀ name value line, statement = .set name value line →
    first.isReserved name = second.isReserved name) ∧
  ∀ expr ∈ statement.value.subterms, expr.AgreeOn asks first second

variable {asks first second}

namespace Step

/-- The steps are alike wherever they start. -/
def Alike (asks : String × String → String × String → Prop) (step other : Step α) : Prop :=
  ∀ run : Run, (step.run.run run).Alike asks (other.run.run run)

theorem Alike.bind {step other : Step α} {next further : α → Step β} (start : step.Alike asks other)
    (go : ∀ value, (next value).Alike asks (further value)) :
    (step >>= next).Alike asks (other >>= further) := by
  intro run
  rw [ExceptT.run_bind, ExceptT.run_bind, StateT.run_bind, StateT.run_bind]
  refine (start run).bind ?_
  rintro ⟨result, after⟩
  cases result with
  | ok value => exact go value after
  | error failure => exact rfl

theorem alike_pure (value : α) : (pure value : Step α).Alike asks (pure value) :=
  fun _ => rfl

theorem alike_fail (line : Nat) (cause : Cause) :
    (fail line cause : Step α).Alike asks (fail line cause) :=
  fun _ => rfl

theorem alike_modify (change : Run → Run) :
    (modify change : Step Unit).Alike asks (modify change) :=
  fun _ => rfl

theorem alike_lift (line : Nat) (result : Except Cause α) :
    (lift line result).Alike asks (lift line result) := by
  cases result with
  | ok value => exact alike_pure value
  | error cause => exact alike_fail line cause

theorem alike_draw (random : first.random = second.random) :
    (draw first).Alike asks (draw second) := by
  rw [draw, draw, random]
  exact fun _ => rfl

theorem alike_ask (related : asks first.key second.key) :
    Alike asks ((Counting.ask first.channel first.command : Counting Int) : Step Int)
      ((Counting.ask second.channel second.command : Counting Int) : Step Int) :=
  fun _ => ⟨related, fun _ => rfl⟩

/-- A name is resolved alike if the contexts agree on it. -/
theorem alike_resolve {name : String} (agree : (Expr.reference name).AgreeOn asks first second)
    (line : Nat) : (resolve first line name).Alike asks (resolve second line name) := by
  obtain ⟨args, builtins⟩ := agree
  have argument : first.argument? = second.argument? := by
    funext position
    rw [Context.argument?, Context.argument?, args]
  have same : resolve first line name = resolve second line name := by
    simp only [resolve, Context.ask?, builtins, argument]
  rw [same]
  intro run
  rw [resolve, run_get_bind]
  split
  · exact alike_pure _ run
  · split
    · exact rfl
    · split
      · exact alike_pure _ run
      · exact alike_fail _ _ run

/-- A function is applied alike if the contexts agree on what it reads. -/
theorem alike_apply {function : Function} {exprs : List Expr}
    (agree : (Expr.call function.name exprs).AgreeOn asks first second) (line : Nat)
    (arguments : List Value) :
    (apply first line function arguments).Alike asks (apply second line function arguments) := by
  obtain ⟨random, counts⟩ := agree
  cases function with
  | roll =>
      have random := random (.inl rfl)
      exact (alike_lift _ _).bind fun _ => (alike_draw random).bind fun _ => alike_pure _
  | pick =>
      cases arguments with
      | nil => exact alike_fail _ _
      | cons value values => exact (alike_draw (random (.inr rfl))).bind fun _ => alike_pure _
  | count =>
      obtain ⟨counted, related⟩ := counts rfl
      simp only [apply, ← counted]
      split
      · exact alike_fail _ _
      · split
        · rename_i present
          exact (alike_ask (related present)).bind fun _ => alike_pure _
        · exact alike_fail _ _

theorem alike_evalAll {line : Nat} {exprs : List Expr}
    (each : ∀ expr ∈ exprs, (expr.eval first line).Alike asks (expr.eval second line)) :
    (evalAll first line exprs).Alike asks (evalAll second line exprs) := by
  induction exprs with
  | nil => exact alike_pure []
  | cons expr exprs ih =>
      rw [List.forall_mem_cons] at each
      exact each.1.bind fun _ => (ih each.2).bind fun _ => alike_pure _

end Step

/-- An expression is evaluated alike if the contexts agree on all that it mentions. -/
theorem Expr.alike_eval {expr : Expr} (line : Nat)
    (agree : ∀ sub ∈ expr.subterms, sub.AgreeOn asks first second) :
    (expr.eval first line).Alike asks (expr.eval second line) := by
  induction expr with
  | literal value => exact Step.alike_pure value
  | named name =>
      intro run
      rw [Expr.eval, Expr.eval, Step.run_get_bind]
      split
      · exact Step.alike_pure _ run
      · exact Step.alike_fail _ _ run
  | reference name => exact Step.alike_resolve (agree _ (Expr.self_mem_subterms _)) line
  | call name arguments ih =>
      rw [forall_mem_subterms_call] at agree
      rw [Expr.eval, Expr.eval]
      cases known : Function.ofName? name with
      | none => exact Step.alike_fail _ _
      | some function =>
          obtain rfl := Function.name_of_ofName? known
          have values := Step.alike_evalAll fun expr member => ih expr member (agree.2 expr member)
          exact values.bind fun _ => Step.alike_apply agree.1 line _
  | interpolated parts ih =>
      rw [forall_mem_subterms_interpolated] at agree
      have values := Step.alike_evalAll fun expr member => ih expr member (agree.2 expr member)
      exact values.bind fun _ => Step.alike_pure _
  | binary op left right ihLeft ihRight =>
      rw [forall_mem_subterms_binary] at agree
      obtain ⟨-, left, right⟩ := agree
      exact (ihLeft left).bind fun _ => (ihRight right).bind fun _ => Step.alike_lift _ _

/-- The branch that a conditional takes is inside of it. -/
theorem blockStatements_branchFor_subset (condition : Expr) (thenBranch : List Statement)
    (elseBranch : Option (List Statement)) (line : Nat) (value : Value) :
    blockStatements (branchFor value thenBranch elseBranch) ⊆
      (Statement.conditional condition thenBranch elseBranch line).substatements := by
  cases truth : value.isTruthy with
  | true =>
      rw [branchFor_of_truthy truth]
      cases elseBranch with
      | none => exact List.subset_cons_self _ _
      | some elseBranch => exact List.subset_cons_of_subset _ (List.subset_append_left _ _)
  | false =>
      rw [branchFor_of_falsy truth]
      cases elseBranch with
      | none => exact List.nil_subset _
      | some elseBranch => exact List.subset_cons_of_subset _ (List.subset_append_right _ _)

/-- Statements are carried out alike if the contexts agree on all that they mention. -/
theorem alike_perform :
    (∀ statement : Statement,
      (∀ inner ∈ statement.substatements, inner.AgreeOn asks first second) →
      (statement.perform first).Alike asks (statement.perform second)) ∧
    ∀ block, (∀ inner ∈ blockStatements block, inner.AgreeOn asks first second) →
      (performAll first block).Alike asks (performAll second block) := by
  apply Statement.branchInduction
  case set =>
    intro name value line agree
    obtain ⟨reserved, inside⟩ := agree (.set name value line) (by simp [Statement.substatements])
    rw [Statement.perform, Statement.perform, reserved name value line rfl]
    split
    · exact Step.alike_fail _ _
    · exact (Expr.alike_eval line inside).bind fun _ => Step.alike_modify _
  case send =>
    intro value line agree
    obtain ⟨-, inside⟩ := agree (.send value line) (by simp [Statement.substatements])
    exact (Expr.alike_eval line inside).bind fun _ => Step.alike_modify _
  case conditional =>
    intro condition thenBranch elseBranch line branch agree
    obtain ⟨-, inside⟩ := agree (.conditional condition thenBranch elseBranch line)
      (Statement.self_mem_substatements _)
    rw [perform_conditional, perform_conditional]
    refine (Expr.alike_eval line inside).bind fun value => branch value fun inner member => ?_
    exact agree inner (blockStatements_branchFor_subset _ _ _ _ value member)
  case empty => exact fun _ => Step.alike_pure ()
  case next =>
    intro statement statements head others agree
    rw [blockStatements, List.forall_mem_append] at agree
    exact (head agree.1).bind fun _ => others agree.2

end Agreement

/-- **A run sees only what its program mentions.** In contexts that agree on the builtins that the
program refers to, on the names that it sets, and on random numbers and counts if it calls for them,
it leads to computations that are alike. -/
theorem Program.execute_alike (program : Program) {first second : Context}
    {asks : String × String → String × String → Prop} (args : first.args = second.args)
    (builtins : ∀ name, program.Refers name →
      first.builtins.get? name = second.builtins.get? name)
    (reserved : ∀ name, program.Sets name → first.isReserved name = second.isReserved name)
    (random : program.Calls "roll" ∨ program.Calls "pick" → first.random = second.random)
    (counts : program.Calls "count" → first.counted = second.counted ∧
      (first.counted = true → asks first.key second.key)) :
    (program.execute first).Alike asks (program.execute second) := by
  have agree : ∀ statement ∈ program.allStatements, statement.AgreeOn asks first second := by
    intro statement member
    refine ⟨?_, fun expr inside => ?_⟩
    · rintro name value line rfl
      exact reserved name ⟨value, line, member⟩
    · have mentioned : expr ∈ program.expressions := List.mem_flatMap.mpr ⟨_, member, inside⟩
      cases expr with
      | reference name => exact ⟨args, builtins name mentioned⟩
      | call name arguments =>
          refine ⟨?_, ?_⟩
          · rintro (rfl | rfl)
            · exact random (.inl ⟨arguments, mentioned⟩)
            · exact random (.inr ⟨arguments, mentioned⟩)
          · rintro rfl
            exact counts ⟨arguments, mentioned⟩
      | literal | named | interpolated | binary => trivial
  exact (alike_perform.2 program.statements agree Run.start).map Run.outcome

/-- The result of a program depends only on what the program mentions.

It is the same in any two contexts with the same arguments, with the same supplier, or none, for
every builtin that the program refers to, and with the same answer to whether a name is reserved for
every name that it sets. Random numbers have to be the same only if the program calls `roll` or
`pick`. Only if it calls `count`, there have to be counts to ask for in both contexts or in neither,
and then the counters have to answer alike, though they may be of different kinds and count for
different commands. -/
theorem Program.executeOn_congr {σ τ : Type} (program : Program) {first second : Context}
    {counter : Counter σ} {counter' : Counter τ} {state : σ} {state' : τ}
    (args : first.args = second.args)
    (builtins : ∀ name, program.Refers name →
      first.builtins.get? name = second.builtins.get? name)
    (reserved : ∀ name, program.Sets name → first.isReserved name = second.isReserved name)
    (random : program.Calls "roll" ∨ program.Calls "pick" → first.random = second.random)
    (counts : program.Calls "count" → first.counted = second.counted ∧
      (first.counted = true → ∀ earlier,
        counter.answer first.key state earlier = counter'.answer second.key state' earlier)) :
    (program.executeOn first counter state).1 = (program.executeOn second counter' state').1 := by
  let answers : Prop := ∀ earlier,
    counter.answer first.key state earlier = counter'.answer second.key state' earlier
  have alike : (program.execute first).Alike
      (fun asked asked' => asked = first.key ∧ asked' = second.key ∧ answers)
      (program.execute second) :=
    program.execute_alike args builtins reserved random fun calls =>
      ⟨(counts calls).1, fun counted => ⟨rfl, rfl, (counts calls).2 counted⟩⟩
  exact alike.result_eq id

/-- A program that counts and draws does the same for another user in another channel, whose count
is the same. -/
theorem Program.executeOn_congr_other_channel :
    let program : Program := ⟨[
      .set "total" (.binary .add (.call "count" []) (.literal (.number 1))) 1,
      .send (.interpolated [.reference "touser", .literal (.text " "), .reference "1"]) 2,
      .send (.call "roll" [.literal (.number 1), .named "total"]) 3]⟩
    let here := { Context.ofInvocation "ann" "#den" "hug" ["bob"] id with counted := true }
    let there := { Context.ofInvocation "eve" "#pub" "wave" ["bob"] id with counted := true }
    let first := here.registerValue "touser" "bob"
    let second := (there.registerValue "touser" "bob").registerValue "game" "chess"
    first.key ≠ second.key ∧
      (program.executeOn first Counts.next ∅).1 = (program.executeOn second Counts.next ∅).1 := by
  intro program here there first second
  refine ⟨by decide, program.executeOn_congr rfl ?_ ?_ (fun _ => rfl) fun _ => ⟨rfl, ?_⟩⟩
  · intro name refers
    have named : name = "touser" ∨ name = "1" := by
      simpa [program, Program.Refers, Program.expressions, Program.allStatements, blockStatements,
        Statement.substatements, Statement.value, Expr.subterms] using refers
    rcases named with rfl | rfl
    · rfl
    · rfl
  · rintro name ⟨value, line, sets⟩
    have named : name = "total" := by
      simp [program, Program.allStatements, blockStatements, Statement.substatements] at sets
      exact sets.1
    subst named
    rfl
  · intro _ earlier
    rw [Counts.answer_next, Counts.answer_next]
    rfl

end ChatScript
