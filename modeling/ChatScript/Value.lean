import ChatScript.Text.Split
import ChatScript.Text.Decimal

/-!
# Runtime values

A script computes with texts, numbers and truth values. Texts that hold an integer take part in
arithmetic, and equality lets a text and a number agree when the text holds that number.
-/

namespace ChatScript

/-- A runtime value. -/
inductive Value where
  | text (content : String)
  | number (value : Int)
  | boolean (value : Bool)
  deriving DecidableEq, Repr, Inhabited

namespace Value

/-- The text of a value, as `send` posts it and concatenation uses it. -/
def toText : Value → String
  | text content => content
  | number value => value.repr
  | boolean true => "true"
  | boolean false => "false"

/-- The number that a text holds: blanks around it are dropped, a sign is optional, and the value
has to be in range. -/
def numberIn? (content : String) : Option Int :=
  Text.readNumber? (Text.trim content.toList)

/-- The number that a value stands for in arithmetic. -/
def toNumber? : Value → Option Int
  | text content => numberIn? content
  | number value => some value
  | boolean _ => none

/-- Whether a condition with this value holds. -/
def isTruthy : Value → Bool
  | text content => content != ""
  | number value => value != 0
  | boolean value => value

/-- The name of the kind of a value, as error messages give it. -/
def kindName : Value → String
  | text _ => "string"
  | number _ => "number"
  | boolean _ => "boolean"

/-- The equality of scripts: a text agrees with a number when it holds that number, and otherwise
only values of one kind agree. -/
def agrees : Value → Value → Bool
  | text a, text b => a == b
  | number a, number b => a == b
  | boolean a, boolean b => a == b
  | text a, number b => numberIn? a == some b
  | number a, text b => numberIn? b == some a
  | _, _ => false

end Value

end ChatScript
