import ChatScript.Token

/-!
# What can be wrong with a script

The causes for which a script is refused, each with the place it is found at, and the wording of
each cause.
-/

namespace ChatScript

/-- The most operators, groups, calls and references that the expressions of one statement may
contain together. -/
def maxExpressionSize : Nat := 256

/-- What stands where something else was expected. -/
inductive Found where
  | endOfLine
  | endOfInput
  | lexeme (text : String)
  deriving DecidableEq, Repr

/-- What was being read when something unexpected turned up. -/
inductive Setting where
  | afterStatement
  | expression
  | group
  | reference
  | target
  | call (function : String)
  deriving DecidableEq, Repr

/-- Why a script is refused. -/
inductive Complaint where
  | emptyScript
  | unmatched (word : Keyword)
  | unknownKeyword (name : String)
  | statementExpected (lexeme : String)
  | variableExpected
  | setWithoutValue (name : String)
  | sendWithoutValue
  | whenWithoutCondition
  | thenExpected
  | secondElse
  | endMissing
  | tooDeep (limit : Nat)
  | tooLarge
  | numberExpected
  | parenExpected
  | keywordInExpression (word : Keyword)
  | unexpected (found : Found) (setting : Setting)
  | emptyReference
  | leftover (lexeme body : String)
  deriving DecidableEq, Repr

/-- Where a complaint arises: on a line, or where the input ends. -/
inductive Place where
  | line (number : Nat)
  | endOfInput
  deriving DecidableEq, Repr

/-- A complaint and its place. -/
structure Fault where
  place : Place
  complaint : Complaint
  deriving DecidableEq, Repr

/-- The line of a place in an input that ends on line `endLine`. -/
def Place.lineIn (endLine : Nat) : Place → Nat
  | .line number => number
  | .endOfInput => endLine

/-- The wording of what was found. -/
def Found.wording : Found → String
  | .endOfLine => "end of line"
  | .endOfInput => "end of input"
  | .lexeme text => "'" ++ text ++ "'"

/-- The wording of what was being read. -/
def Setting.wording : Setting → String
  | .afterStatement => "after statement"
  | .expression => "where an expression was expected"
  | .group => "in parenthesized expression, expected ')'"
  | .reference => "in '$(...)' reference, expected ')'"
  | .target => "in '$(...)', expected a name"
  | .call function => "in call to '" ++ function ++ "', expected ',' or ')'"

/-- The wording of a complaint. -/
def Complaint.message : Complaint → String
  | .emptyScript => "Script is empty"
  | .unmatched word => "'" ++ word.spelling ++ "' without a matching 'when'"
  | .unknownKeyword name => "Unknown keyword '" ++ name ++ "'"
  | .statementExpected lexeme => "Expected a statement, found '" ++ lexeme ++ "'"
  | .variableExpected => "Expected a variable name after 'set'"
  | .setWithoutValue name => "'set " ++ name ++ "' is missing a value"
  | .sendWithoutValue => "'send' is missing a value"
  | .whenWithoutCondition => "'when' is missing a condition"
  | .thenExpected => "Expected 'then' after the 'when' condition"
  | .secondElse => "'when' block has more than one 'else'"
  | .endMissing => "'when' has no matching 'end'"
  | .tooDeep limit => "'when' blocks nested deeper than " ++ limit.repr ++ " levels"
  | .tooLarge =>
    "Expression is too large (more than " ++ maxExpressionSize.repr ++
      " operators, groups or references)"
  | .numberExpected => "Expected a number after '-'"
  | .parenExpected => "Expected '(' after '$'"
  | .keywordInExpression word => "Expected an expression, found keyword '" ++ word.spelling ++ "'"
  | .unexpected found setting => "Unexpected " ++ found.wording ++ " " ++ setting.wording
  | .emptyReference => "Empty '$()' reference"
  | .leftover lexeme body => "Unexpected '" ++ lexeme ++ "' in '$(" ++ body ++ ")'"

/-- The fault of meeting the front of `rest` in the given setting. -/
def Fault.unexpected (setting : Setting) : (rest : List Token) → Fault
  | [] => ⟨.endOfInput, .unexpected .endOfInput setting⟩
  | token :: _ =>
    if token.kind = .newline then ⟨.line token.line, .unexpected .endOfLine setting⟩
    else ⟨.line token.line, .unexpected (.lexeme token.lexeme) setting⟩

end ChatScript
