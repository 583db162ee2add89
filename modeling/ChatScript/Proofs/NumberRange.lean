import ChatScript.Proofs.CountCalls
import ChatScript.Proofs.Mentions
import ChatScript.Proofs.NormalForm

/-! # Numbers stay in range

Arithmetic never wraps around. As long as the literals of a program and the counts that it is given
are in range, so are the number of every expression that a run evaluates and the number of every
variable, wherever the run is (`Program.arithmetic_inRange`).

Any operation on numbers is exact or fails (`ExactArithmetic`), a random number is one of those
between its bounds (`rollBetween_bounds`), and text stands for a number only if that is in range
(`Text.inRange_of_readNumber?`). From there the expressions are gone through from the inside to the
outside (`Expr.inRange_points`), and then the statements in the order of the run (`staysInRange`).
-/

namespace ChatScript

variable {σ : Type}

/-! ## Values -/

namespace Text

/-- A number that a script can hold. -/
def InRange (n : Int) : Prop :=
  minNumber ≤ n ∧ n ≤ maxNumber

instance (n : Int) : Decidable (InRange n) :=
  inferInstanceAs (Decidable (minNumber ≤ n ∧ n ≤ maxNumber))

theorem le_of_readUpTo? {limit n : Nat} {cs : List Char} (read : readUpTo? limit cs = some n) :
    n ≤ limit := by
  rw [readUpTo?_eq, Option.filter_eq_some_iff] at read
  exact of_decide_eq_true read.2

/-- The number that a text holds is in range. -/
theorem inRange_of_readNumber? {cs : List Char} {n : Int} (read : readNumber? cs = some n) :
    InRange n := by
  unfold readNumber? at read
  split at read
  · obtain ⟨_, digits, rfl⟩ := Option.map_eq_some_iff.mp read
    obtain ⟨size, sized, ⟨⟩⟩ := Option.bind_eq_some_iff.mp digits
    have small := le_of_readUpTo? sized
    simp only [InRange, minNumber, maxNumber] at small ⊢
    omega
  all_goals
    obtain ⟨size, digits, rfl⟩ := Option.map_eq_some_iff.mp read
    have small := le_of_readUpTo? digits
    simp only [InRange, minNumber, maxNumber, Int.ofNat_eq_natCast] at small ⊢
    omega

end Text

/-- A value that is not a number out of range. -/
def Value.InRange : Value → Prop
  | .number n => Text.InRange n
  | _ => True

theorem Value.InRange.number {value : Value} (inRange : value.InRange) {n : Int}
    (coerced : value.toNumber? = some n) : Text.InRange n := by
  cases value with
  | text content => exact Text.inRange_of_readNumber? coerced
  | number m =>
      cases coerced
      exact inRange
  | boolean truth => cases coerced

/-- A result is computed exactly or not at all. -/
theorem checkedNumber_eq (op : BinaryOp) (n : Int) :
    checkedNumber op n =
      if Text.InRange n then .ok (.number n)
      else .error (.mismatch ("'" ++ op.symbol ++ "' overflowed")) := by
  unfold checkedNumber
  by_cases inRange : Text.InRange n
  · rw [Text.inRange?_eq_some_iff.mpr ⟨rfl, inRange⟩, if_pos inRange]
  · cases found : Text.inRange? n with
    | none => rw [if_neg inRange]
    | some m => exact absurd (Text.inRange?_eq_some_iff.mp found).2 inRange

/-- A number that passes the check is in range. -/
theorem inRange_of_checkedNumber {op : BinaryOp} {n : Int} {value : Value}
    (checked : checkedNumber op n = .ok value) : value.InRange := by
  rw [checkedNumber_eq] at checked
  split at checked
  · cases checked
    assumption
  · cases checked

/-- Whatever the operands are, the number that an operation returns is in range. -/
theorem BinaryOp.inRange_apply {op : BinaryOp} {left right value : Value}
    (applied : op.apply left right = .ok value) : value.InRange := by
  cases op with
  | add =>
      rw [BinaryOp.apply] at applied
      split at applied
      · exact inRange_of_checkedNumber applied
      · cases applied
        trivial
  | subtract =>
      simp only [BinaryOp.apply, bind_eq_ok_iff] at applied
      obtain ⟨_, _, checked⟩ := applied
      exact inRange_of_checkedNumber checked
  | equal | notEqual =>
      cases applied
      trivial
  | less | lessEqual | greater | greaterEqual =>
      simp only [BinaryOp.apply, bind_eq_ok_iff] at applied
      obtain ⟨_, _, ⟨⟩⟩ := applied
      trivial

/-- A sum is a text if one of its operands does not hold a number. -/
theorem apply_add_of_none {left right : Value}
    (none : left.toNumber? = none ∨ right.toNumber? = none) :
    BinaryOp.add.apply left right = .ok (.text (left.toText ++ right.toText)) := by
  rw [BinaryOp.apply]
  rcases none with none | none
  · rw [none]
  · rw [none]
    cases left.toNumber? <;> rfl

/-- Operands that hold numbers are these numbers. -/
theorem operandNumbers_of_numbers {left right : Value} {m n : Int} (op : BinaryOp)
    (isLeft : left.toNumber? = some m) (isRight : right.toNumber? = some n) :
    operandNumbers op left right = .ok (m, n) := by
  rw [operandNumbers, operandNumber, operandNumber, isLeft, isRight]
  rfl

/-- An operand that does not hold a number is a mismatch. -/
theorem operandNumbers_of_none {left right : Value} (op : BinaryOp)
    (none : left.toNumber? = none ∨ right.toNumber? = none) :
    ∃ message, operandNumbers op left right = .error (.mismatch message) := by
  rw [operandNumbers, operandNumber, operandNumber]
  rcases none with none | none
  · rw [none]
    exact ⟨_, rfl⟩
  · rw [none]
    cases left.toNumber? <;> exact ⟨_, rfl⟩

/-- A random number is between its bounds, and these may be as far apart as any two numbers. -/
theorem rollBetween_bounds {low high : Int} (ordered : low ≤ high) (random : Nat) :
    low ≤ rollBetween low high random ∧ rollBetween low high random ≤ high := by
  have below : random % ((high - low).toNat + 1) < (high - low).toNat + 1 :=
    Nat.mod_lt random (Nat.succ_pos _)
  rw [rollBetween]
  generalize random % ((high - low).toNat + 1) = offset at below ⊢
  omega

/-- Two numbers are bounds if the first is not greater than the second. -/
theorem rollBounds_of_numbers {first second : Value} {low high : Int}
    (isLow : first.toNumber? = some low) (isHigh : second.toNumber? = some high) :
    rollBounds [first, second] =
      if low ≤ high then .ok (low, high)
      else .error (.mismatch ("roll() lower bound " ++ low.repr ++
        " is greater than upper bound " ++ high.repr)) := by
  simp only [rollBounds, rollBound, isLow, isHigh, bind, Except.bind]
  by_cases ordered : low ≤ high
  · rw [if_pos ordered, if_neg (Int.not_lt.mpr ordered)]
  · rw [if_neg ordered, if_pos (Int.not_le.mp ordered)]

/-- The bounds of a random number are the numbers of two arguments, the lower one first. -/
theorem exists_of_rollBounds {arguments : List Value} {low high : Int}
    (found : rollBounds arguments = .ok (low, high)) :
    ∃ first second, arguments = [first, second] ∧ first.toNumber? = some low ∧
      second.toNumber? = some high ∧ low ≤ high := by
  match arguments with
  | [first, second] =>
      cases isLow : first.toNumber? with
      | none => simp [rollBounds, rollBound, isLow, bind, Except.bind] at found
      | some m =>
          cases isHigh : second.toNumber? with
          | none => simp [rollBounds, rollBound, isLow, isHigh, bind, Except.bind] at found
          | some n =>
              rw [rollBounds_of_numbers isLow isHigh] at found
              split at found
              · cases found
                exact ⟨first, second, rfl, isLow, isHigh, by assumption⟩
              · cases found
  | [] | [_] | _ :: _ :: _ :: _ => cases found

theorem pickFrom_mem {α : Type} (first : α) (others : List α) (random : Nat) :
    pickFrom first others random ∈ first :: others :=
  List.get_mem _ _

/-! ## Steps -/

/-- All variables that hold numbers hold numbers in range. -/
def Run.InRange (run : Run) : Prop :=
  ∀ name value, run.bindings.get? name = some value → value.InRange

theorem Run.inRange_start : Run.start.InRange := by
  intro name value found
  simp [Run.start] at found

namespace Step

variable {context : Context} {counter : Counter σ} {stage after : Stage σ} {line : Nat}
  {value : Value}

/-- What a name is resolved to is in range where the variables are. -/
theorem inRange_resolve {name : String} (start : stage.run.InRange)
    (resolved : (resolve context line name).carry counter stage = (.ok value, after)) :
    value.InRange := by
  rw [resolve, carry_get_bind] at resolved
  split at resolved
  · rename_i bound
    cases resolved
    exact start name _ bound
  · split at resolved
    · cases resolved
      trivial
    · split at resolved
      · cases resolved
        trivial
      · cases resolved

/-- What a function comes to is in range if its arguments are, and the count if it is asked for. -/
theorem inRange_apply {function : Function} {arguments : List Value}
    (each : ∀ argument ∈ arguments, argument.InRange)
    (counts : function = .count → arguments = [] → context.counted = true →
      Text.InRange ((counter context.channel context.command).run stage.counter).1)
    (applied : (apply context line function arguments).carry counter stage =
      (.ok value, after)) : value.InRange := by
  cases function with
  | roll =>
      rw [apply] at applied
      cases bounds : rollBounds arguments with
      | error cause =>
          rw [bounds] at applied
          cases applied
      | ok found =>
          obtain ⟨low, high⟩ := found
          rw [bounds] at applied
          cases applied
          obtain ⟨first, second, rfl, isLow, isHigh, ordered⟩ := exists_of_rollBounds bounds
          obtain ⟨above, -⟩ := (each first (by simp)).number isLow
          obtain ⟨-, below⟩ := (each second (by simp)).number isHigh
          obtain ⟨least, greatest⟩ := rollBetween_bounds ordered (context.random stage.run.draws)
          exact ⟨Int.le_trans above least, Int.le_trans greatest below⟩
  | pick =>
      cases arguments with
      | nil => cases applied
      | cons first others =>
          cases applied
          exact each _ (pickFrom_mem ..)
  | count =>
      rw [apply] at applied
      split at applied
      · cases applied
      · rename_i none
        split at applied
        · rename_i counted
          cases applied
          exact counts rfl (by simpa using none) counted
        · cases applied

end Step

/-! ## Points -/

section Points

variable (context : Context) (counter : Counter σ)

/-- Where the run is, all variables are in range, and so is the value of the expression that is
about to be evaluated. -/
def Point.InRange : Point σ → Prop
  | .statement _ stage => stage.run.InRange
  | .expression line expr stage => stage.run.InRange ∧ ∀ value after,
      (expr.eval context line).carry counter stage = (.ok value, after) → value.InRange

/-- If a count is about to be asked for, the answer is in range. -/
def Point.CountInRange (point : Point σ) : Prop :=
  context.counted = true → point.isCountCall = true →
    Text.InRange ((counter context.channel context.command).run point.stage.counter).1

/-- If the expression is a literal, it is in range. -/
def Expr.LiteralInRange : Expr → Prop
  | .literal value => value.InRange
  | _ => True

/-- The literals of a statement are in range. -/
def Statement.LiteralsInRange (statement : Statement) : Prop :=
  ∀ sub ∈ statement.value.subterms, sub.LiteralInRange

/-- From where all variables are in range, a part of a run stays in range up to its end, as long as
the counts that it asks for are in range. -/
def StaysInRange (points : Stage σ → List (Point σ)) (step : Step Unit) : Prop :=
  ∀ stage, stage.run.InRange →
    (∀ point ∈ points stage, point.CountInRange context counter) →
    (∀ point ∈ points stage, point.InRange context counter) ∧
      (step.carry counter stage).2.run.InRange

end Points

section Runs

variable {context : Context} {counter : Counter σ} {line : Nat}

/-- Evaluating an expression leaves the variables in range. -/
theorem inRange_after_eval {expr : Expr} {stage after : Stage σ} {result : Except Failure Value}
    (start : stage.run.InRange)
    (evaluated : (expr.eval context line).carry counter stage = (result, after)) :
    after.run.InRange := by
  rwa [Run.InRange, (Step.quiet_eval expr).bindings_eq evaluated]

theorem Expr.self_mem_points (expr : Expr) (stage : Stage σ) :
    .expression line expr stage ∈ expr.points context counter line stage := by
  cases expr <;> simp [Expr.points]

/-- An expression is evaluated to a value in range if all points on the way are. -/
theorem inRange_of_points {expr : Expr} {stage after : Stage σ} {value : Value}
    (points : ∀ point ∈ expr.points context counter line stage, point.InRange context counter)
    (evaluated : (expr.eval context line).carry counter stage = (.ok value, after)) :
    value.InRange :=
  (points _ (expr.self_mem_points stage)).2 value after evaluated

/-- Evaluating expressions one after the other keeps to the range if evaluating each of them
does. -/
theorem inRange_pointsOfAll {exprs : List Expr}
    (each : ∀ expr ∈ exprs, ∀ stage, stage.run.InRange →
      (∀ point ∈ expr.points context counter line stage, point.CountInRange context counter) →
      ∀ point ∈ expr.points context counter line stage, point.InRange context counter)
    {stage : Stage σ} (start : stage.run.InRange)
    (counts : ∀ point ∈ pointsOfAll context counter line exprs stage,
      point.CountInRange context counter) :
    (∀ point ∈ pointsOfAll context counter line exprs stage, point.InRange context counter) ∧
      ∀ values after, (evalAll context line exprs).carry counter stage = (.ok values, after) →
        ∀ value ∈ values, value.InRange := by
  induction exprs generalizing stage with
  | nil =>
      refine ⟨by simp [pointsOfAll], ?_⟩
      rintro _ _ ⟨⟩
      simp
  | cons expr exprs ih =>
      rw [List.forall_mem_cons] at each
      rw [pointsOfAll, List.forall_mem_append, forall_mem_onward] at counts ⊢
      have first := each.1 stage start counts.1
      refine ⟨⟨first, fun _ after done => ?_⟩, fun values final evaluated => ?_⟩
      · exact (ih each.2 (inRange_after_eval start done) (counts.2 _ after done)).1
      · simp only [evalAll, Step.carry_bind_eq_ok_iff] at evaluated
        obtain ⟨value, middle, done, others, last, behind, ⟨⟩⟩ := evaluated
        rw [List.forall_mem_cons]
        refine ⟨inRange_of_points first done, ?_⟩
        exact (ih each.2 (inRange_after_eval start done) (counts.2 _ middle done)).2 _ _ behind

/-- At every point of an evaluation values are in range if the literals, the variables and the
counts are. -/
theorem Expr.inRange_points {expr : Expr} {stage : Stage σ}
    (literals : ∀ sub ∈ expr.subterms, sub.LiteralInRange) (start : stage.run.InRange)
    (counts : ∀ point ∈ expr.points context counter line stage,
      point.CountInRange context counter) :
    ∀ point ∈ expr.points context counter line stage, point.InRange context counter := by
  induction expr generalizing stage with
  | literal value =>
      rw [Expr.points, List.forall_mem_singleton]
      refine ⟨start, ?_⟩
      rintro _ _ ⟨⟩
      exact literals _ (Expr.self_mem_subterms _)
  | named name =>
      rw [Expr.points, List.forall_mem_singleton]
      refine ⟨start, fun value after evaluated => ?_⟩
      rw [Expr.eval, Step.carry_get_bind] at evaluated
      split at evaluated
      · rename_i bound
        cases evaluated
        exact start name _ bound
      · cases evaluated
  | reference name =>
      rw [Expr.points, List.forall_mem_singleton]
      exact ⟨start, fun value after => Step.inRange_resolve start⟩
  | call name arguments ih =>
      rw [forall_mem_subterms_call] at literals
      rw [Expr.points, List.forall_mem_cons] at counts ⊢
      cases known : Function.ofName? name with
      | none =>
          refine ⟨⟨start, fun value after evaluated => ?_⟩, by simp⟩
          simp only [Expr.eval, known] at evaluated
          cases evaluated
      | some function =>
          simp only [known] at counts
          have inside := inRange_pointsOfAll
            (fun expr member _ => ih expr member (literals.2 expr member)) start counts.2
          refine ⟨⟨start, fun value after evaluated => ?_⟩, inside.1⟩
          simp only [Expr.eval, known, Step.carry_bind_eq_ok_iff] at evaluated
          obtain ⟨values, middle, done, applied⟩ := evaluated
          refine Step.inRange_apply (inside.2 values middle done) ?_ applied
          rintro rfl rfl counted
          -- Without arguments the count is asked for where the call begins.
          obtain rfl := List.length_eq_zero_iff.mp (evalAll_length done).symm
          cases done
          obtain rfl := Function.name_of_ofName? known
          exact counts.1 counted rfl
  | interpolated parts ih =>
      rw [forall_mem_subterms_interpolated] at literals
      rw [Expr.points, List.forall_mem_cons] at counts ⊢
      have inside := inRange_pointsOfAll
        (fun expr member _ => ih expr member (literals.2 expr member)) start counts.2
      refine ⟨⟨start, fun value after evaluated => ?_⟩, inside.1⟩
      simp only [Expr.eval, Step.carry_bind_eq_ok_iff] at evaluated
      obtain ⟨values, middle, -, ⟨⟩⟩ := evaluated
      trivial
  | binary op left right ihLeft ihRight =>
      rw [forall_mem_subterms_binary] at literals
      rw [Expr.points, List.forall_mem_cons, List.forall_mem_append, forall_mem_onward] at counts ⊢
      refine ⟨⟨start, fun value after evaluated => ?_⟩,
        ihLeft literals.2.1 start counts.2.1, fun _ after done => ?_⟩
      · simp only [Expr.eval, Step.carry_bind_eq_ok_iff, Step.carry_lift_eq_ok_iff] at evaluated
        obtain ⟨_, _, -, _, _, -, applied, -⟩ := evaluated
        exact BinaryOp.inRange_apply applied
      · exact ihRight literals.2.2 (inRange_after_eval start done) (counts.2.2 _ after done)

theorem Run.InRange.insert {run : Run} (inRange : run.InRange) (name : String) {value : Value}
    (valid : value.InRange) :
    ({ run with bindings := run.bindings.insert name value } : Run).InRange := by
  intro other result found
  rw [Std.ExtTreeMap.get?_eq_getElem?, Std.ExtTreeMap.getElem?_insert] at found
  split at found
  · cases found
    exact valid
  · exact inRange other result found

/-- A run stays in range from statement to statement. -/
theorem staysInRange :
    (∀ statement : Statement, (∀ inner ∈ statement.substatements, inner.LiteralsInRange) →
      StaysInRange context counter (statement.points context counter)
        (statement.perform context)) ∧
    ∀ block, (∀ inner ∈ blockStatements block, inner.LiteralsInRange) →
      StaysInRange context counter (blockPoints context counter block)
        (performAll context block) := by
  apply Statement.branchInduction
  case set =>
    intro name value line literals stage start counts
    have valid := literals (.set name value line) (Statement.self_mem_substatements _)
    rw [Statement.points, List.forall_mem_cons] at counts ⊢
    by_cases reserved : context.isReserved name = true
    · rw [if_pos reserved, carry_set_reserved reserved]
      exact ⟨⟨start, by simp⟩, start⟩
    · rw [if_neg reserved] at counts ⊢
      have inside := Expr.inRange_points valid start counts.2
      rw [Statement.perform, if_neg reserved]
      refine ⟨⟨start, inside⟩, ?_⟩
      rcases evaluated : (value.eval context line).carry counter stage with ⟨result, after⟩
      have further := inRange_after_eval start evaluated
      cases result with
      | ok result =>
          rw [Step.carry_bind_ok evaluated, Step.carry_modify]
          exact further.insert name (inRange_of_points inside evaluated)
      | error failure =>
          rw [Step.carry_bind_error evaluated]
          exact further
  case send =>
    intro value line literals stage start counts
    have valid := literals (.send value line) (Statement.self_mem_substatements _)
    rw [Statement.points, List.forall_mem_cons] at counts ⊢
    refine ⟨⟨start, Expr.inRange_points valid start counts.2⟩, ?_⟩
    rw [Statement.perform]
    rcases evaluated : (value.eval context line).carry counter stage with ⟨result, after⟩
    have further := inRange_after_eval start evaluated
    cases result with
    | ok result =>
        rw [Step.carry_bind_ok evaluated, Step.carry_modify]
        exact further
    | error failure =>
        rw [Step.carry_bind_error evaluated]
        exact further
  case conditional =>
    intro condition thenBranch elseBranch line branch literals stage start counts
    have valid := literals (.conditional condition thenBranch elseBranch line)
      (Statement.self_mem_substatements _)
    rw [Statement.points_conditional, List.forall_mem_cons, List.forall_mem_append,
      forall_mem_onward] at counts ⊢
    have inside := Expr.inRange_points valid start counts.2.1
    rw [perform_conditional]
    have taken value after
        (evaluated : (condition.eval context line).carry counter stage = (.ok value, after)) :=
      branch value
        (fun inner member =>
          literals inner (blockStatements_branchFor_subset _ _ _ _ value member))
        after (inRange_after_eval start evaluated) (counts.2.2 value after evaluated)
    refine ⟨⟨start, inside, fun value after evaluated => (taken value after evaluated).1⟩, ?_⟩
    rcases evaluated : (condition.eval context line).carry counter stage with ⟨result, after⟩
    cases result with
    | ok value =>
        rw [Step.carry_bind_ok evaluated]
        exact (taken value after evaluated).2
    | error failure =>
        rw [Step.carry_bind_error evaluated]
        exact inRange_after_eval start evaluated
  case empty =>
    intro _ stage start _
    rw [performAll, Step.carry_pure]
    exact ⟨by simp [blockPoints], start⟩
  case next =>
    intro statement statements first others literals stage start counts
    rw [blockStatements, List.forall_mem_append] at literals
    rw [blockPoints, List.forall_mem_append, forall_mem_onward] at counts ⊢
    rw [performAll]
    obtain ⟨inside, ended⟩ := first literals.1 stage start counts.1
    have further value after
        (carried : (statement.perform context).carry counter stage = (.ok value, after)) :=
      others literals.2 after (by rwa [carried] at ended) (counts.2 value after carried)
    refine ⟨⟨inside, fun value after carried => (further value after carried).1⟩, ?_⟩
    rcases carried : (statement.perform context).carry counter stage with ⟨result, after⟩
    cases result with
    | ok done =>
        rw [Step.carry_bind_ok carried]
        exact (further done after carried).2
    | error failure =>
        rw [Step.carry_bind_error carried]
        rwa [carried] at ended

end Runs

/-! ## Results -/

/-- What sums, differences and random numbers come to where the operands have the values `a` and
`b`: the exact number, if it is in range, and a failure if it is not or if there is none. Only a sum
has a text to fall back on. -/
structure ExactArithmetic (evaluate : Expr → Except Failure Value) (line : Nat)
    (left right : Expr) (a b : Value) : Prop where
  sum : ∀ {m n}, a.toNumber? = some m → b.toNumber? = some n → Text.InRange (m + n) →
    evaluate (.binary .add left right) = .ok (.number (m + n))
  sum_overflow : ∀ {m n}, a.toNumber? = some m → b.toNumber? = some n → ¬Text.InRange (m + n) →
    evaluate (.binary .add left right) = .error ⟨line, .mismatch "'+' overflowed"⟩
  concatenation : a.toNumber? = none ∨ b.toNumber? = none →
    evaluate (.binary .add left right) = .ok (.text (a.toText ++ b.toText))
  difference : ∀ {m n}, a.toNumber? = some m → b.toNumber? = some n → Text.InRange (m - n) →
    evaluate (.binary .subtract left right) = .ok (.number (m - n))
  difference_overflow : ∀ {m n}, a.toNumber? = some m → b.toNumber? = some n →
    ¬Text.InRange (m - n) →
    evaluate (.binary .subtract left right) = .error ⟨line, .mismatch "'-' overflowed"⟩
  difference_mismatch : a.toNumber? = none ∨ b.toNumber? = none →
    ∃ message, evaluate (.binary .subtract left right) = .error ⟨line, .mismatch message⟩
  random : ∀ {low high}, a.toNumber? = some low → b.toNumber? = some high → low ≤ high →
    ∃ n, low ≤ n ∧ n ≤ high ∧ evaluate (.call "roll" [left, right]) = .ok (.number n)
  random_reversed : ∀ {low high}, a.toNumber? = some low → b.toNumber? = some high → high < low →
    ∃ message, evaluate (.call "roll" [left, right]) = .error ⟨line, .mismatch message⟩

section Results

variable {context : Context} {counter : Counter σ} {line : Nat} {left right : Expr} {a b : Value}
  {stage middle after : Stage σ}

/-- An operation is applied to the values of its operands, from left to right. -/
theorem carry_binary (first : (left.eval context line).carry counter stage = (.ok a, middle))
    (second : (right.eval context line).carry counter middle = (.ok b, after)) (op : BinaryOp) :
    ((Expr.binary op left right).eval context line).carry counter stage =
      (Step.lift line (op.apply a b)).carry counter after := by
  rw [Expr.eval, Step.carry_bind_ok first, Step.carry_bind_ok second]

/-- A roll is applied to the values of its bounds, from left to right. -/
theorem carry_roll (first : (left.eval context line).carry counter stage = (.ok a, middle))
    (second : (right.eval context line).carry counter middle = (.ok b, after)) :
    ((Expr.call "roll" [left, right]).eval context line).carry counter stage =
      (Step.apply context line .roll [a, b]).carry counter after := by
  have known : Function.ofName? "roll" = some .roll := rfl
  simp only [Expr.eval, known, evalAll, bind_assoc, pure_bind]
  rw [Step.carry_bind_ok first, Step.carry_bind_ok second]

/-- Where the operands have values, sums, differences and rolls are exact or fail. -/
theorem exactArithmetic (first : (left.eval context line).carry counter stage = (.ok a, middle))
    (second : (right.eval context line).carry counter middle = (.ok b, after)) :
    ExactArithmetic (fun expr => ((expr.eval context line).carry counter stage).1) line left right
      a b where
  sum isLeft isRight inRange := by
    simp only [carry_binary first second, BinaryOp.apply, isLeft, isRight, checkedNumber_eq,
      if_pos inRange]
    rfl
  sum_overflow isLeft isRight outside := by
    simp only [carry_binary first second, BinaryOp.apply, isLeft, isRight, checkedNumber_eq,
      if_neg outside]
    rfl
  concatenation none := by
    simp only [carry_binary first second, apply_add_of_none none]
    rfl
  difference isLeft isRight inRange := by
    simp only [carry_binary first second, BinaryOp.apply,
      operandNumbers_of_numbers .subtract isLeft isRight, ok_bind, checkedNumber_eq,
      if_pos inRange]
    rfl
  difference_overflow isLeft isRight outside := by
    simp only [carry_binary first second, BinaryOp.apply,
      operandNumbers_of_numbers .subtract isLeft isRight, ok_bind, checkedNumber_eq,
      if_neg outside]
    rfl
  difference_mismatch none := by
    obtain ⟨message, failed⟩ := operandNumbers_of_none .subtract none
    simp only [carry_binary first second, BinaryOp.apply, failed]
    exact ⟨message, rfl⟩
  random isLow isHigh ordered := by
    have between := rollBetween_bounds ordered (context.random after.run.draws)
    simp only [carry_roll first second, Step.apply, rollBounds_of_numbers isLow isHigh,
      if_pos ordered]
    exact ⟨_, between.1, between.2, rfl⟩
  random_reversed isLow isHigh reversed := by
    simp only [carry_roll first second, Step.apply, rollBounds_of_numbers isLow isHigh,
      if_neg (Int.not_le.mpr reversed)]
    exact ⟨_, rfl⟩

end Results

namespace Program

/-- The literals of a program that was parsed are in range. -/
theorem inRange_of_parse {limit : Nat} {source : String} {program : Program}
    (parsed : parse limit source = .ok program) {value : Value}
    (member : .literal value ∈ program.expressions) : value.InRange := by
  obtain ⟨statement, listed, inside⟩ := List.mem_flatMap.mp member
  have normal : statement.value.Normal := by
    have regular := regular_of_parse parsed statement listed
    cases statement with
    | set => exact regular.2
    | conditional | send => exact regular
  cases value with
  | number n => exact ⟨Int.le_of_lt (normal _ inside).1, (normal _ inside).2⟩
  | text | boolean => trivial

/-- **Arithmetic never wraps around.** In a run of a program whose literals are in range, with
counts that are in range, every expression that is evaluated has a value in range, and so has every
variable, at any point of the run and at its end. A sum or a difference of numbers is exact or a
failure, anything else is concatenated by a sum and refused by a difference, and a random number is
between its bounds. -/
theorem arithmetic_inRange (program : Program) (context : Context) (counter : Counter σ)
    (state : σ)
    (literals : ∀ value, .literal value ∈ program.expressions → value.InRange)
    (counts : ∀ point ∈ program.points context counter state,
      point.CountInRange context counter) :
    (∀ point ∈ program.points context counter state, point.InRange context counter) ∧
      ((performAll context program.statements).carry counter (.start state)).2.run.InRange ∧
      ∀ {line left right a b} {stage middle after : Stage σ},
        (left.eval context line).carry counter stage = (.ok a, middle) →
        (right.eval context line).carry counter middle = (.ok b, after) →
        ExactArithmetic (fun expr => ((expr.eval context line).carry counter stage).1) line left
          right a b := by
  have valid : ∀ statement ∈ program.allStatements, statement.LiteralsInRange := by
    intro statement listed sub inside
    have member : sub ∈ program.expressions := List.mem_flatMap.mpr ⟨statement, listed, inside⟩
    cases sub with
    | literal value => exact literals value member
    | _ => trivial
  obtain ⟨points, ended⟩ :=
    staysInRange.2 program.statements valid (.start state) Run.inRange_start counts
  exact ⟨points, ended, exactArithmetic⟩

/-- A script that goes to both ends of the range and, in its last line, beyond. -/
def extremes : String :=
  "set low -9223372036854775807 - 1\nset high low + count()\n" ++
    "send roll(low, high + 9223372036854775807)\nsend low - 1"

/-- Both ends of the range are come to, and one number below them is an overflow. -/
theorem arithmetic_inRange_extremes :
    let context := { Context.ofInvocation "ann" "#c" "hi" [] fun _ => 18446744073709551614 with
      counted := true }
    ∃ program, parse 0 extremes = .ok program ∧
      (program.executeOn context (answering [Text.maxNumber]) 0).1 =
        .failed ["9223372036854775806"] ⟨4, .mismatch "'-' overflowed"⟩ ∧
      ∀ point ∈ program.points context (answering [Text.maxNumber]) 0,
        point.InRange context (answering [Text.maxNumber]) := by
  intro context
  have ended : (parse 0 extremes).toOption.map
      (fun program => (program.executeOn context (answering [Text.maxNumber]) 0).1) =
        some (.failed ["9223372036854775806"] ⟨4, .mismatch "'-' overflowed"⟩) := by
    decide +kernel
  cases parsed : parse 0 extremes with
  | error fault =>
      rw [parsed] at ended
      cases ended
  | ok program =>
      rw [parsed] at ended
      have counts : ∀ point ∈ program.points context (answering [Text.maxNumber]) 0,
          point.CountInRange context (answering [Text.maxNumber]) := by
        intro point _ _ _
        show Text.InRange ([Text.maxNumber].getD point.stage.counter 0)
        cases point.stage.counter with
        | zero => decide
        | succ => exact (by decide : Text.InRange 0)
      have literals (value : Value) (member : .literal value ∈ program.expressions) :=
        inRange_of_parse parsed member
      have inRange := arithmetic_inRange program context _ 0 literals counts
      exact ⟨program, rfl, Option.some.inj ended, inRange.1⟩

end Program

end ChatScript
