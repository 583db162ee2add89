import ChatScript.Program.Equality
import ChatScript.Proofs.Coercion

/-! # What a run looks at in its values

Literals of equal programs agree, so a text may face the number that it holds. A run tells the two
apart only where it looks at more than the number: at the text, at the truth or at the kind of the
value (`Aspect`). How much that is depends on where the value goes. An operation looks at the text
or the kind of an operand only if it cannot rely on what the other operand is
(`BinaryOp.apply_of_looksLike`), and what can be relied on is read off the expression
(`Expr.promises_of_eval`).

`Program.looksLike` goes through two equal programs and compares the literals that face each other
in just those aspects that are looked at where their values go.
-/

namespace ChatScript

variable {σ : Type}

/-! ## What is looked at in a value -/

/-- What can be looked at in a value besides the number that it holds. -/
inductive Aspect where
  /-- The text that is sent, or that a sum appends. -/
  | text
  /-- Whether a condition holds. -/
  | truth
  /-- Whether the value is a text. -/
  | kind
  deriving DecidableEq, Repr

/-- Whether two values are the same in one aspect. -/
def Aspect.same : Aspect → Value → Value → Bool
  | .text, a, b => a.toText == b.toText
  | .truth, a, b => a.isTruthy == b.isTruthy
  | .kind, a, b => a.isText == b.isText

namespace Value

/-- Two values agree, and they are the same in what is looked at. -/
structure LooksLike (looked : List Aspect) (a b : Value) : Prop where
  agree : a.agrees b
  same : ∀ aspect ∈ looked, aspect.same a b

variable {looked : List Aspect} {a b : Value}

theorem LooksLike.refl (looked : List Aspect) (a : Value) : a.LooksLike looked a := by
  refine ⟨agrees_refl a, fun aspect _ => ?_⟩
  cases aspect <;> exact BEq.refl _

theorem LooksLike.mono (alike : a.LooksLike looked b) {fewer : List Aspect}
    (subset : fewer ⊆ looked) : a.LooksLike fewer b :=
  ⟨alike.agree, fun aspect member => alike.same aspect (subset member)⟩

theorem LooksLike.toText_eq (alike : a.LooksLike [.text] b) : a.toText = b.toText :=
  eq_of_beq (alike.same .text (by simp))

theorem LooksLike.isTruthy_eq (alike : a.LooksLike [.truth] b) : a.isTruthy = b.isTruthy :=
  eq_of_beq (alike.same .truth (by simp))

theorem LooksLike.eq_of_kind (alike : a.LooksLike [.kind] b) : a = b :=
  eq_of_agrees_of_kind alike.agree (eq_of_beq (alike.same .kind (by simp)))

end Value

/-! ## What is known about a value beforehand -/

namespace Expr

/-- Whether the expression can only have numbers as values. -/
def isNumber : Expr → Bool
  | .literal (.number _) => true
  | .call function _ => function == Function.roll.name || function == Function.count.name
  | .binary op _ _ => op == .subtract
  | _ => false

/-- Whether every value of the expression holds a number. -/
def isNumeric : Expr → Bool
  | .literal value => value.toNumber?.isSome
  | expr => expr.isNumber

/-- Whether no value of the expression is a text. -/
def isTextless : Expr → Bool
  | .literal value => !value.isText
  | .binary op _ _ => op != .add
  | expr => expr.isNumber

/-- A value is what the expression promises. -/
structure Promises (expr : Expr) (value : Value) : Prop where
  numeric : expr.isNumeric → value.toNumber?.isSome
  textless : expr.isTextless → value.isText = false

end Expr

section Values

variable {context : Context} {counter : Counter σ} {line : Nat} {stage after : Stage σ}
  {value : Value}

theorem exists_number_of_subtract {a b : Value}
    (applied : BinaryOp.subtract.apply a b = .ok value) : ∃ n, value = .number n := by
  simp only [BinaryOp.apply, bind_eq_ok_iff] at applied
  obtain ⟨_, -, checked⟩ := applied
  rw [checkedNumber_eq] at checked
  split at checked
  · cases checked
    exact ⟨_, rfl⟩
  · cases checked

/-- Only a sum can come to a text. -/
theorem isText_of_apply {op : BinaryOp} (noSum : op ≠ .add) {a b : Value}
    (applied : op.apply a b = .ok value) : value.isText = false := by
  cases op with
  | add => exact absurd rfl noSum
  | subtract =>
      obtain ⟨n, rfl⟩ := exists_number_of_subtract applied
      rfl
  | equal | notEqual =>
      cases applied
      rfl
  | less | lessEqual | greater | greaterEqual =>
      simp only [BinaryOp.apply, bind_eq_ok_iff] at applied
      obtain ⟨_, -, ⟨⟩⟩ := applied
      rfl

/-- Only `pick` can come to anything but a number. -/
theorem exists_number_of_apply {function : Function} (noPick : function ≠ .pick)
    {arguments : List Value}
    (applied : (Step.apply context line function arguments).carry counter stage =
      (.ok value, after)) : ∃ n, value = .number n := by
  cases function with
  | pick => exact absurd rfl noPick
  | roll =>
      simp only [Step.apply, Step.carry_bind_eq_ok_iff] at applied
      obtain ⟨_, _, -, _, _, -, ⟨⟩⟩ := applied
      exact ⟨_, rfl⟩
  | count =>
      rw [Step.apply] at applied
      split at applied
      · cases applied
      · split at applied
        · cases applied
          exact ⟨_, rfl⟩
        · cases applied

namespace Expr

variable {expr : Expr}

/-- What can only be a number comes to one. -/
theorem exists_number (isNumber : expr.isNumber)
    (evaluated : (expr.eval context line).carry counter stage = (.ok value, after)) :
    ∃ n, value = .number n := by
  cases expr with
  | literal held =>
      cases evaluated
      cases value with
      | number n => exact ⟨n, rfl⟩
      | text | boolean => cases isNumber
  | named | reference | interpolated => cases isNumber
  | call name arguments =>
      rw [eval] at evaluated
      split at evaluated
      · cases evaluated
      · rename_i function known
        obtain rfl := Function.name_of_ofName? known
        obtain ⟨_, _, -, applied⟩ := Step.carry_bind_eq_ok_iff.mp evaluated
        refine exists_number_of_apply ?_ applied
        rintro rfl
        cases isNumber
  | binary op left right =>
      obtain rfl : op = .subtract := by simpa [Expr.isNumber] using isNumber
      simp only [eval, Step.carry_bind_eq_ok_iff, Step.carry_lift_eq_ok_iff] at evaluated
      obtain ⟨_, _, -, _, _, -, applied, -⟩ := evaluated
      exact exists_number_of_subtract applied

/-- An expression that is evaluated keeps its promises. -/
theorem promises_of_eval
    (evaluated : (expr.eval context line).carry counter stage = (.ok value, after)) :
    expr.Promises value := by
  have number (isNumber : expr.isNumber) : expr.Promises value := by
    obtain ⟨n, rfl⟩ := exists_number isNumber evaluated
    exact ⟨fun _ => rfl, fun _ => rfl⟩
  cases expr with
  | literal held =>
      cases evaluated
      exact ⟨id, by simp [isTextless]⟩
  | binary op left right =>
      refine ⟨fun numeric => (number numeric).numeric numeric, fun noSum => ?_⟩
      simp only [eval, Step.carry_bind_eq_ok_iff, Step.carry_lift_eq_ok_iff] at evaluated
      obtain ⟨_, _, -, _, _, -, applied, -⟩ := evaluated
      exact isText_of_apply (by simpa [isTextless] using noSum) applied
  | named | reference | call | interpolated =>
      exact ⟨fun isNumber => (number isNumber).numeric isNumber,
        fun isNumber => (number isNumber).textless isNumber⟩

end Expr

end Values

/-! ## What an operation looks at -/

/-- What an operation looks at in an operand, besides its number, where the other operand is `other`
or its counterpart `other'`. -/
def BinaryOp.looksAt (op : BinaryOp) (other other' : Expr) : List Aspect :=
  match op with
  | .add => if other.isNumeric then [] else [.text]
  | .equal | .notEqual => if other.isTextless && other'.isTextless then [] else [.kind]
  | _ => []

/-- What a function looks at in its arguments, besides their numbers, where `looked` is looked at in
its value. -/
def argumentsLookAt (function : String) (looked : List Aspect) : List Aspect :=
  if function = Function.pick.name then looked else []

namespace BinaryOp

variable {left left' right right' : Expr} {a a' b b' : Value}

/-- A sum looks at the text of an operand, unless the other one is sure to hold a number. -/
theorem text_or_numeric (alike : a.LooksLike (BinaryOp.add.looksAt right right') a') :
    a.toText = a'.toText ∨ right.isNumeric := by
  by_cases numeric : right.isNumeric
  · exact .inr numeric
  · rw [looksAt, if_neg numeric] at alike
    exact .inl alike.toText_eq

/-- An equality tells operands apart, unless the other one is sure to be no text in both programs.
-/
theorem eq_or_textless (alike : a.LooksLike (BinaryOp.equal.looksAt right right') a') :
    a = a' ∨ right.isTextless ∧ right'.isTextless := by
  by_cases textless : (right.isTextless && right'.isTextless) = true
  · exact .inr (by simpa using textless)
  · simp only [looksAt, if_neg textless] at alike
    exact .inl alike.eq_of_kind

/-- An operation does not tell values apart that are alike in what it looks at. -/
theorem apply_of_looksLike {op : BinaryOp} (first : a.LooksLike (op.looksAt right right') a')
    (second : b.LooksLike (op.looksAt left left') b')
    (promised : left.Promises a ∧ left'.Promises a')
    (promised' : right.Promises b ∧ right'.Promises b') : op.apply a b = op.apply a' b' := by
  have equality (first : a.LooksLike (BinaryOp.equal.looksAt right right') a')
      (second : b.LooksLike (BinaryOp.equal.looksAt left left') b') :
      a.agrees b = a'.agrees b' := by
    refine Value.agrees_congr first.agree second.agree ?_ ?_
    · exact (eq_or_textless first).imp_right fun textless =>
        ⟨promised'.1.textless textless.1, promised'.2.textless textless.2⟩
    · exact (eq_or_textless second).imp_right fun textless =>
        ⟨promised.1.textless textless.1, promised.2.textless textless.2⟩
  cases op with
  | add =>
      refine apply_add_of_agrees first.agree second.agree ?_ ?_
      · exact (text_or_numeric first).imp_right promised'.1.numeric
      · exact (text_or_numeric second).imp_right promised.1.numeric
  | equal | notEqual => rw [apply, apply, equality first second]
  | subtract | less | lessEqual | greater | greaterEqual =>
      exact apply_of_agrees rfl first.agree second.agree

end BinaryOp

/-! ## What a program looks at -/

section Trees

variable (seen : String → List Aspect)

mutual

/-- Whether the literals of two equal expressions are alike in what is looked at, where `looked` is
looked at in the values of the expressions and `seen name` in those of a variable. -/
def Expr.looksLike (looked : List Aspect) : Expr → Expr → Bool
  | .literal a, .literal b => looked.all fun aspect => aspect.same a b
  | .named name, .named _ => decide (looked ⊆ seen name)
  | .reference name, .reference _ => decide (looked ⊆ seen name)
  | .call function arguments, .call _ others =>
    allLookLike (argumentsLookAt function looked) arguments others
  | .interpolated parts, .interpolated others => allLookLike [.text] parts others
  | .binary op left right, .binary _ left' right' =>
    left.looksLike (op.looksAt right right') left' &&
      right.looksLike (op.looksAt left left') right'
  | _, _ => false

/-- Whether each of several expressions looks like its counterpart. -/
def allLookLike (looked : List Aspect) : List Expr → List Expr → Bool
  | [], [] => true
  | expr :: exprs, other :: others =>
    expr.looksLike looked other && allLookLike looked exprs others
  | _, _ => false

end

mutual

/-- Whether the literals of two equal statements are alike in what is looked at. -/
def Statement.looksLike : Statement → Statement → Bool
  | .set name value _, .set _ value' _ => value.looksLike seen (seen name) value'
  | .conditional condition thenBranch none _, .conditional condition' thenBranch' none _ =>
    condition.looksLike seen [.truth] condition' && blockLooksLike thenBranch thenBranch'
  | .conditional condition thenBranch (some elseBranch) _,
      .conditional condition' thenBranch' (some elseBranch') _ =>
    condition.looksLike seen [.truth] condition' && blockLooksLike thenBranch thenBranch' &&
      blockLooksLike elseBranch elseBranch'
  | .send value _, .send value' _ => value.looksLike seen [.text] value'
  | _, _ => false

/-- Whether each statement of a block looks like its counterpart. -/
def blockLooksLike : List Statement → List Statement → Bool
  | [], [] => true
  | statement :: statements, other :: others =>
    statement.looksLike other && blockLooksLike statements others
  | _, _ => false

end

/-- Whether the literals of two equal programs are alike in what is looked at where their values go,
if `seen` is what is looked at in the values of each variable. -/
def Program.looksLike (program other : Program) : Bool :=
  blockLooksLike seen program.statements other.statements

end Trees

end ChatScript
