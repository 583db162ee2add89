import ChatScript.Context
import ChatScript.Counting
import ChatScript.Execution.Operation

/-!
# Execution

A program is carried out once, from top to bottom, in a context. The first statement that fails
ends the run; the lines sent before stay in the result. The only thing that a run shares with
others are the counts that it asks for, so a run is a `Counting` computation.
-/

namespace ChatScript

/-- The state of a run: variables, calls of builtins, random numbers drawn and lines sent. -/
structure Run where
  bindings : Std.ExtTreeMap String Value
  calls : Calls
  draws : Nat
  lines : Array String

/-- The state at the start of a run. -/
def Run.start : Run :=
  ⟨∅, ∅, 0, #[]⟩

/-- A step of a run: it may fail, it changes the state of the run, and it may ask for counts. -/
abbrev Step := ExceptT Failure (StateT Run Counting)

namespace Step

/-- Fails on the given line. -/
def fail {α : Type} (line : Nat) (cause : Cause) : Step α :=
  throw ⟨line, cause⟩

/-- The result of an operation on the given line. -/
def lift {α : Type} (line : Nat) : Except Cause α → Step α
  | .ok value => pure value
  | .error cause => fail line cause

/-- Draws the next random number. -/
def draw (context : Context) : Step Nat := do
  let run ← get
  set { run with draws := run.draws + 1 }
  pure (context.random run.draws)

/-- The value of `$(name)`: that of a variable, else of a builtin, else of an argument. -/
def resolve (context : Context) (line : Nat) (name : String) : Step Value := do
  let run ← get
  match run.bindings.get? name with
  | some value => pure value
  | none =>
    match context.ask? run.calls name with
    | some (answer, calls) =>
      set { run with calls }
      pure (.text answer)
    | none =>
      match (Text.readPosition? name.toList).bind context.argument? with
      | some argument => pure (.text argument)
      | none => fail line (.undefinedReference name)

/-- Applies a function to the values of its arguments. -/
def apply (context : Context) (line : Nat) (function : Function) (arguments : List Value) :
    Step Value :=
  match function with
  | .roll => do
    let (low, high) ← lift line (rollBounds arguments)
    let random ← draw context
    pure (.number (rollBetween low high random))
  | .pick =>
    match arguments with
    | [] => fail line (.arity "pick" "expects at least 1 argument")
    | first :: others => do
      let random ← draw context
      pure (pickFrom first others random)
  | .count =>
    if arguments.length ≠ 0 then
      fail line (.arity "count" ("expects no arguments, got " ++ arguments.length.repr))
    else if context.counted then do
      let value ← (Counting.ask context.channel context.command : Counting Int)
      pure (.number value)
    else fail line (.undefinedReference "count")

end Step

mutual

/-- The value of an expression in a statement on the given line. -/
def Expr.eval (context : Context) (line : Nat) : Expr → Step Value
  | .literal value => pure value
  | .named name => do
    let run ← get
    match run.bindings.get? name with
    | some value => pure value
    | none => Step.fail line (.undefinedVariable name)
  | .reference name => Step.resolve context line name
  | .call name arguments =>
    match Function.ofName? name with
    | none => Step.fail line (.undefinedReference name)
    | some function => do
      let values ← evalAll context line arguments
      Step.apply context line function values
  | .interpolated parts => do
    let values ← evalAll context line parts
    pure (.text (String.join (values.map Value.toText)))
  | .binary op left right => do
    let a ← left.eval context line
    let b ← right.eval context line
    Step.lift line (op.apply a b)

/-- The values of several expressions, computed from left to right. -/
def evalAll (context : Context) (line : Nat) : List Expr → Step (List Value)
  | [] => pure []
  | expr :: exprs => do
    let value ← expr.eval context line
    let values ← evalAll context line exprs
    pure (value :: values)

end

mutual

/-- Carries out a statement. -/
def Statement.perform (context : Context) : Statement → Step Unit
  | .set name value line =>
    if context.isReserved name then Step.fail line (.reservedName name)
    else do
      let value ← value.eval context line
      modify fun run => { run with bindings := run.bindings.insert name value }
  | .conditional condition thenBranch elseBranch line => do
    let value ← condition.eval context line
    if value.isTruthy then performAll context thenBranch
    else
      match elseBranch with
      | some branch => performAll context branch
      | none => pure ()
  | .send value line => do
    let value ← value.eval context line
    modify fun run => { run with lines := run.lines.push value.toText }

/-- Carries out statements in order. -/
def performAll (context : Context) : List Statement → Step Unit
  | [] => pure ()
  | statement :: statements => do
    statement.perform context
    performAll context statements

end

/-- The result of a run that ended in the given state. -/
def Run.outcome : Except Failure Unit × Run → Outcome
  | (.ok (), run) => .completed run.lines.toList
  | (.error failure, run) => .failed run.lines.toList failure

/-- Carries out a program in a context. -/
def Program.execute (program : Program) (context : Context) : Counting Outcome :=
  Run.outcome <$> (performAll context program.statements).run.run Run.start

end ChatScript
