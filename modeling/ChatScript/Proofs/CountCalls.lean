import ChatScript.Proofs.Points
import Mathlib.Logic.Function.Iterate

/-! # What a run asks for

A run asks for a count exactly where it evaluates a call of `count` without arguments. So its
counter ends as if it had been asked once for each of these calls among the points that the run
passes (`Program.executeOn_snd`), which goes for every step on the way (`asking_eval`,
`asking_perform`). When the answers are taken from a list (`answering`), the counter keeps how many
requests were made (`Program.executeOn_answering`).
-/

namespace ChatScript

/-- Answers requests with the given values, one after the other. The state is the number of requests
made so far. -/
def answering (values : List Int) : Counter Nat :=
  fun _ _ made => (values.getD made 0, made + 1)

/-- A request is answered with the next of the values that are given. -/
theorem runWith_answering_next {α : Type} (values : List Int) (channel command : String)
    (resume : Int → Counting α) (made : Nat) :
    ((Counting.next channel command resume).runWith (answering values)).run made =
      ((resume (values.getD made 0)).runWith (answering values)).run (made + 1) :=
  rfl

/-- Whether a call of `count` without arguments is about to be evaluated. -/
def Point.isCountCall {σ : Type} : Point σ → Bool
  | .expression _ (.call name arguments) _ => name == "count" && arguments.isEmpty
  | _ => false

/-- The state of a counter that was asked for the count of an invocation so many times. -/
def Counter.asked {σ : Type} (counter : Counter σ) (context : Context) (times : Nat) (state : σ) :
    σ :=
  (fun state => ((counter context.channel context.command).run state).2)^[times] state

section

variable {σ α β : Type} {context : Context} {counter : Counter σ}

/-- The step makes one request for every call of `count` without arguments among the given
points. -/
def Asking (context : Context) (counter : Counter σ) (step : Step α)
    (points : Stage σ → List (Point σ)) : Prop :=
  ∀ stage, (step.carry counter stage).2.counter =
    counter.asked context ((points stage).countP Point.isCountCall) stage.counter

/-- A sequence asks as often as its steps do, the second from where the first got. -/
theorem Asking.bind {step : Step α} {next : α → Step β} {points : Stage σ → List (Point σ)}
    {further : α → Stage σ → List (Point σ)} (first : Asking context counter step points)
    (second : ∀ value, Asking context counter (next value) (further value)) :
    Asking context counter (step >>= next) fun stage =>
      points stage ++ onward further (step.carry counter stage) := by
  intro stage
  have ended := first stage
  rw [Step.carry_bind, List.countP_append]
  rcases carried : step.carry counter stage with ⟨result, after⟩
  rw [carried] at ended
  cases result with
  | ok value =>
      rw [onward, second value after, ended, Counter.asked, Counter.asked, Counter.asked,
        Nat.add_comm, Function.iterate_add_apply]
  | error failure => exact ended

/-- What makes no request can come behind. -/
theorem Asking.bind_silent {step : Step α} {next : α → Step β}
    {points : Stage σ → List (Point σ)} (first : Asking context counter step points)
    (silent : ∀ stage value after, step.carry counter stage = (.ok value, after) →
      ((next value).carry counter after).2.counter = after.counter) :
    Asking context counter (step >>= next) points := by
  intro stage
  have ended := first stage
  rw [Step.carry_bind]
  rcases carried : step.carry counter stage with ⟨result, after⟩
  rw [carried] at ended
  cases result with
  | ok value => rw [silent stage value after carried, ended]
  | error failure => exact ended

/-- A point that is no call of `count` without arguments can stand in front. -/
theorem Asking.passing {step : Step α} {points : Stage σ → List (Point σ)}
    (asking : Asking context counter step points) {point : Stage σ → Point σ}
    (other : ∀ stage, (point stage).isCountCall = false) :
    Asking context counter step fun stage => point stage :: points stage := by
  intro stage
  rw [asking stage, List.countP_cons_of_neg (by simp [other stage])]

variable (counter) (stage : Stage σ) (context) (line : Nat)

theorem counter_resolve (name : String) :
    ((Step.resolve context line name).carry counter stage).2.counter = stage.counter := by
  rw [Step.resolve, Step.carry_get_bind]
  split
  · rfl
  · split
    · rfl
    · split <;> rfl

theorem counter_named (name : String) :
    (((Expr.named name).eval context line).carry counter stage).2.counter = stage.counter := by
  rw [Expr.eval, Step.carry_get_bind]
  split <;> rfl

theorem counter_lift (result : Except Cause α) :
    ((Step.lift line result).carry counter stage).2.counter = stage.counter := by
  cases result <;> rfl

/-- Only `count` without arguments asks for a count. -/
theorem counter_apply {function : Function} {arguments : List Value}
    (other : function = .count → arguments ≠ []) :
    ((Step.apply context line function arguments).carry counter stage).2.counter =
      stage.counter := by
  cases function with
  | roll =>
      rw [Step.apply]
      cases rollBounds arguments <;> rfl
  | pick => cases arguments <;> rfl
  | count =>
      have some : arguments.length ≠ 0 := by simpa using other rfl
      rw [Step.apply, if_pos some]
      rfl

end

section

variable {σ : Type} {context : Context} (counter : Counter σ)

/-- Several expressions ask as often as each of them does. -/
theorem asking_evalAll {line : Nat} {exprs : List Expr}
    (each : ∀ expr ∈ exprs, Asking context counter (expr.eval context line)
      (expr.points context counter line)) :
    Asking context counter (evalAll context line exprs)
      (pointsOfAll context counter line exprs) := by
  induction exprs with
  | nil => exact fun _ => rfl
  | cons expr exprs ih =>
      rw [List.forall_mem_cons] at each
      exact each.1.bind fun _ => (ih each.2).bind_silent fun _ _ _ _ => rfl

variable (counted : context.counted = true)

include counted

/-- A call of `count` without arguments makes one request. -/
theorem counter_count (line : Nat) (stage : Stage σ) :
    (((Expr.call "count" []).eval context line).carry counter stage).2.counter =
      counter.asked context 1 stage.counter := by
  have known : Function.ofName? "count" = some .count := rfl
  simp only [Expr.eval, known, evalAll, pure_bind, Step.apply, List.length_nil, ne_eq,
    not_true_eq_false, if_false, counted, if_true]
  rfl

/-- Evaluating an expression makes one request for each of the calls of `count` without arguments
that it evaluates. -/
theorem asking_eval (line : Nat) (expr : Expr) :
    Asking context counter (expr.eval context line) (expr.points context counter line) := by
  induction expr with
  | literal value => exact fun _ => rfl
  | named name => exact fun stage => counter_named _ _ stage line name
  | reference name => exact fun stage => counter_resolve _ _ stage line name
  | call name arguments ih =>
      by_cases counts : name = "count" ∧ arguments = []
      · obtain ⟨rfl, rfl⟩ := counts
        exact fun stage => counter_count counter counted line stage
      · have other : ∀ stage : Stage σ,
            (Point.expression line (.call name arguments) stage).isCountCall = false := by
          intro stage
          simpa [Point.isCountCall] using counts
        intro stage
        rw [Expr.points, Expr.eval]
        cases known : Function.ofName? name with
        | none =>
            rw [List.countP_cons_of_neg (by simp [other stage])]
            rfl
        | some function =>
            refine ((asking_evalAll counter ih).bind_silent ?_).passing other stage
            intro before results after evaluated
            apply counter_apply
            rintro rfl
            -- a call of `count` that gets here has arguments, and so it has values to refuse
            have named : name = "count" := (Function.name_of_ofName? known).symm
            obtain ⟨expr, exprs, rfl⟩ := List.exists_cons_of_ne_nil fun none => counts ⟨named, none⟩
            exact List.ne_nil_of_length_eq_add_one (evalAll_length evaluated)
  | interpolated parts ih =>
      have inner := asking_evalAll counter ih
      exact (inner.bind_silent fun _ _ _ _ => rfl).passing fun _ => rfl
  | binary op left right first second =>
      refine (first.bind fun _ => second.bind_silent fun _ _ _ _ => ?_).passing fun _ => rfl
      exact counter_lift ..

/-- A statement makes one request for each of the calls of `count` without arguments that it
evaluates, and so does a block. -/
theorem asking_perform :
    (∀ statement : Statement, Asking context counter (statement.perform context)
      (statement.points context counter)) ∧
    ∀ block, Asking context counter (performAll context block)
      (blockPoints context counter block) := by
  apply Statement.branchInduction
  case set =>
    intro name value line stage
    rw [Statement.points, Statement.perform]
    split
    · rfl
    · have inner := asking_eval counter counted line value
      exact (inner.bind_silent fun _ _ _ _ => rfl).passing (fun _ => rfl) stage
  case send =>
    intro value line stage
    rw [Statement.points, Statement.perform]
    have inner := asking_eval counter counted line value
    exact (inner.bind_silent fun _ _ _ _ => rfl).passing (fun _ => rfl) stage
  case conditional =>
    intro condition thenBranch elseBranch line branch stage
    rw [Statement.points_conditional, perform_conditional]
    have inner := asking_eval counter counted line condition
    exact (inner.bind branch).passing (fun _ => rfl) stage
  case empty => exact fun _ => rfl
  case next => exact fun statement statements first others => first.bind fun _ => others

/-- A run asks its counter once for each of the calls of `count` without arguments that it
evaluates. -/
theorem Program.executeOn_snd (program : Program) (state : σ) :
    (program.executeOn context counter state).2 =
      counter.asked context ((program.points context counter state).countP Point.isCountCall)
        state := by
  rw [executeOn_eq]
  exact (asking_perform counter counted).2 program.statements (.start state)

end

/-- Asking so many times takes so many of the values. -/
theorem asked_answering (values : List Int) (context : Context) (times made : Nat) :
    (answering values).asked context times made = made + times := by
  induction times generalizing made with
  | zero => rfl
  | succ times ih => exact (ih (made + 1)).trans (by omega)

/-- A run makes one request for each of the calls of `count` without arguments that it evaluates. -/
theorem Program.executeOn_answering {context : Context} (values : List Int)
    (counted : context.counted = true) (program : Program) :
    (program.executeOn context (answering values) 0).2 =
      (program.points context (answering values) 0).countP Point.isCountCall := by
  rw [executeOn_snd _ counted, asked_answering, Nat.zero_add]

end ChatScript
