import ChatScript.Execution.Failure
import ChatScript.Program

/-!
# Operations on values

What the operations of a script compute. Addition adds when both operands hold numbers and
concatenates otherwise; subtraction and the orderings need numbers. Results outside of the range
of numbers are failures.
-/

namespace ChatScript

/-- The number that an operand of `op` holds. -/
def operandNumber (op : BinaryOp) (value : Value) : Except Cause Int :=
  match value.toNumber? with
  | some number => .ok number
  | none =>
    .error (.mismatch
      ("'" ++ op.symbol ++ "' needs numbers, got " ++ value.kindName ++ " '" ++ value.toText ++
        "'"))

/-- `n` as a value, if it is in range. -/
def checkedNumber (op : BinaryOp) (n : Int) : Except Cause Value :=
  match Text.inRange? n with
  | some n => .ok (.number n)
  | none => .error (.mismatch ("'" ++ op.symbol ++ "' overflowed"))

/-- The two numbers that the operands of `op` hold; the left one is looked at first. -/
def operandNumbers (op : BinaryOp) (left right : Value) : Except Cause (Int × Int) := do
  let a ← operandNumber op left
  let b ← operandNumber op right
  .ok (a, b)

/-- Applies an operation to two values. -/
def BinaryOp.apply (op : BinaryOp) (left right : Value) : Except Cause Value :=
  match op with
  | .add =>
    match left.toNumber?, right.toNumber? with
    | some a, some b => checkedNumber .add (a + b)
    | _, _ => .ok (.text (left.toText ++ right.toText))
  | .subtract => do
    let (a, b) ← operandNumbers .subtract left right
    checkedNumber .subtract (a - b)
  | .equal => .ok (.boolean (left.agrees right))
  | .notEqual => .ok (.boolean (!left.agrees right))
  | .less => do
    let (a, b) ← operandNumbers .less left right
    .ok (.boolean (a < b))
  | .lessEqual => do
    let (a, b) ← operandNumbers .lessEqual left right
    .ok (.boolean (a ≤ b))
  | .greater => do
    let (a, b) ← operandNumbers .greater left right
    .ok (.boolean (a > b))
  | .greaterEqual => do
    let (a, b) ← operandNumbers .greaterEqual left right
    .ok (.boolean (a ≥ b))

/-- The functions a script can call. -/
inductive Function where
  | roll
  | pick
  | count
  deriving DecidableEq, Repr

namespace Function

/-- The name a script calls the function by. -/
def name : Function → String
  | .roll => "roll"
  | .pick => "pick"
  | .count => "count"

/-- The function with the given name. -/
def ofName? (word : String) : Option Function :=
  [Function.roll, .pick, .count].find? (·.name == word)

/-- A function is found by its own name. -/
theorem name_of_ofName? {word : String} {function : Function}
    (known : ofName? word = some function) : function.name = word := by
  simpa using List.find?_some known

end Function

/-- The number that an argument of `roll` holds. -/
def rollBound (value : Value) : Except Cause Int :=
  match value.toNumber? with
  | some number => .ok number
  | none =>
    .error (.mismatch
      ("roll() expects numbers, got " ++ value.kindName ++ " '" ++ value.toText ++ "'"))

/-- The bounds that `roll` is called with, the lower one first. -/
def rollBounds (arguments : List Value) : Except Cause (Int × Int) :=
  match arguments with
  | [first, second] => do
    let low ← rollBound first
    let high ← rollBound second
    if low > high then
      .error (.mismatch
        ("roll() lower bound " ++ low.repr ++ " is greater than upper bound " ++ high.repr))
    else .ok (low, high)
  | _ => .error (.arity "roll" ("expects 2 arguments, got " ++ arguments.length.repr))

/-- The number between `low` and `high` that a random number selects. -/
def rollBetween (low high : Int) (random : Nat) : Int :=
  low + (random % ((high - low).toNat + 1) : Nat)

/-- The member of a non-empty list that a random number selects. -/
def pickFrom {α : Type} (first : α) (others : List α) (random : Nat) : α :=
  (first :: others).get ⟨random % (first :: others).length, Nat.mod_lt _ (by simp)⟩

end ChatScript
