/-!
# JSON documents

The values of a JSON document. An escape can name half of a surrogate pair without its other half;
such a text is valid JSON, but it is no string. Numbers matter only as integers of a limited size,
so one that is greater, or that is written with a fraction or an exponent, or as minus zero, is not
told apart from others.
-/

namespace ChatScript

/-- A text of a JSON document, if it is a string. -/
abbrev JsonText := Option String

/-- A JSON value. The members of an object are kept in order, with repeated names. -/
inductive Json where
  | null
  | boolean (value : Bool)
  | integer (value : Int)
  | inexact
  | text (content : JsonText)
  | array (items : List Json)
  | object (members : List (JsonText × Json))
  deriving Repr, Inhabited

/-- A string as a JSON value. -/
def Json.ofString (content : String) : Json :=
  .text (some content)

end ChatScript
