/-!
# Failures of a run

Why a script stops before its end, and the report that is kept about it.
-/

namespace ChatScript

/-- The cause of a failure. -/
inductive Cause where
  /-- A bare name was never set. -/
  | undefinedVariable (name : String)
  /-- Nothing answers a reference or a call. -/
  | undefinedReference (name : String)
  /-- The operands do not fit the operation. -/
  | mismatch (message : String)
  /-- A function was called with the wrong number of arguments. -/
  | arity (function message : String)
  /-- A `set` names a builtin. -/
  | reservedName (name : String)
  deriving DecidableEq, Repr

/-- A failure of the statement on the given line. -/
structure Failure where
  line : Nat
  cause : Cause
  deriving DecidableEq, Repr

/-- What a result keeps about a failure. -/
structure ErrorDetail where
  line : Option Nat
  /-- The name of the variable, builtin or function involved. -/
  name : Option String
  message : String
  deriving DecidableEq, Repr

namespace Failure

/-- The wording of a failure. -/
def message (failure : Failure) : String :=
  let line := failure.line.repr
  match failure.cause with
  | .undefinedVariable name => "Undefined variable '" ++ name ++ "' at line " ++ line
  | .undefinedReference name => "Undefined reference '" ++ name ++ "' at line " ++ line
  | .mismatch message => "Type error at line " ++ line ++ ": " ++ message
  | .arity function message => function ++ "() at line " ++ line ++ ": " ++ message
  | .reservedName name =>
    "Cannot set '" ++ name ++ "' at line " ++ line ++ ": name is reserved for a builtin"

/-- The name involved in a failure, if there is one. -/
def name? (failure : Failure) : Option String :=
  match failure.cause with
  | .undefinedVariable name | .undefinedReference name | .arity name _ | .reservedName name =>
    some name
  | .mismatch _ => none

/-- The report about a failure. -/
def detail (failure : Failure) : ErrorDetail :=
  ⟨some failure.line, failure.name?, failure.message⟩

end Failure

/-- The result of an invocation. -/
structure Outcome where
  success : Bool
  /-- The lines sent, in order. -/
  lines : List String
  error : Option ErrorDetail
  deriving DecidableEq, Repr

namespace Outcome

/-- The result of a run that reached its end. -/
def completed (lines : List String) : Outcome :=
  ⟨true, lines, none⟩

/-- The result of a run that failed after sending the given lines. -/
def failed (lines : List String) (failure : Failure) : Outcome :=
  ⟨false, lines, some failure.detail⟩

end Outcome

end ChatScript
