/-!
# Tokens

The words and marks that script source is made of. A token keeps the characters it was read from
and the line it stands on.
-/

namespace ChatScript

/-- The words reserved for statements. -/
inductive Keyword where
  | set
  | when
  | then
  | else
  | end
  | send
  deriving DecidableEq, Repr

namespace Keyword

/-- The spelling of a keyword. -/
def spelling : Keyword → String
  | .set => "set"
  | .when => "when"
  | .then => "then"
  | .else => "else"
  | .end => "end"
  | .send => "send"

/-- The keyword with the given spelling. -/
def ofSpelling? (word : String) : Option Keyword :=
  [Keyword.set, .when, .then, .else, .end, .send].find? (·.spelling == word)

end Keyword

/-- The operator marks. -/
inductive Operator where
  | assign
  | equal
  | notEqual
  | less
  | lessEqual
  | greater
  | greaterEqual
  | plus
  | minus
  deriving DecidableEq, Repr

/-- The spelling of an operator mark. -/
def Operator.spelling : Operator → String
  | .assign => "="
  | .equal => "=="
  | .notEqual => "!="
  | .less => "<"
  | .lessEqual => "<="
  | .greater => ">"
  | .greaterEqual => ">="
  | .plus => "+"
  | .minus => "-"

/-- A stretch of a string literal or of a template: text, or the characters between the `$(` and
the `)` of a reference. -/
inductive Fragment where
  | text (content : String)
  | reference (body : String)
  deriving DecidableEq, Repr

/-- What a token is. -/
inductive TokenKind where
  | keyword (word : Keyword)
  | identifier (name : String)
  | literal (fragments : List Fragment)
  | number (value : Nat)
  | boolean (value : Bool)
  | operator (mark : Operator)
  | openParen
  | closeParen
  | comma
  | dollar
  | newline
  | unknown
  deriving DecidableEq, Repr

/-- A token: its kind, the characters it was read from and its line, counted from 1. -/
structure Token where
  kind : TokenKind
  lexeme : String
  line : Nat
  deriving DecidableEq, Repr

end ChatScript
