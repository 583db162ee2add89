import ChatScript.Json

/-!
# Writing JSON

JSON with line breaks and two spaces of indentation per level. Empty arrays and objects stay on
one line, and texts escape nothing but quotes, backslashes and control characters.
-/

namespace ChatScript.Json

/-- The hexadecimal digits of a code below 256. -/
def hexPair (code : Nat) : List Char :=
  [Nat.digitChar (code / 16), Nat.digitChar (code % 16)]

/-- The characters that stand for `c` in a JSON text. -/
def escapeTextChar (c : Char) : List Char :=
  if c = '"' then ['\\', '"']
  else if c = '\\' then ['\\', '\\']
  else if c = '\x08' then ['\\', 'b']
  else if c = '\t' then ['\\', 't']
  else if c = '\n' then ['\\', 'n']
  else if c = '\x0c' then ['\\', 'f']
  else if c = '\r' then ['\\', 'r']
  else if c.toNat < 0x20 then ['\\', 'u', '0', '0'] ++ hexPair c.toNat
  else [c]

/-- A text with its quotes. One that is no string is written as a lone surrogate. -/
def renderText : JsonText → String
  | some content => "\"" ++ String.ofList (content.toList.flatMap escapeTextChar) ++ "\""
  | none => "\"\\ud800\""

/-- A line break and the indentation of the given level. -/
def newLine (level : Nat) : String :=
  "\n" ++ String.ofList (List.replicate (2 * level) ' ')

/-- The entries of an array or object between its brackets. -/
def enclose (opening closing : String) (level : Nat) : List String → String
  | [] => opening ++ closing
  | entries =>
    opening ++ newLine (level + 1) ++ String.intercalate ("," ++ newLine (level + 1)) entries ++
      newLine level ++ closing

mutual

/-- The text of a value inside of `level` arrays and objects. -/
def renderAt (level : Nat) : Json → String
  | .null => "null"
  | .boolean true => "true"
  | .boolean false => "false"
  | .integer value => value.repr
  | .inexact => "-0"
  | .text content => renderText content
  | .array items => enclose "[" "]" level (renderItems (level + 1) items)
  | .object members => enclose "\x7b" "\x7d" level (renderMembers (level + 1) members)

/-- The texts of the items of an array. -/
def renderItems (level : Nat) : List Json → List String
  | [] => []
  | item :: items => item.renderAt level :: renderItems level items

/-- The texts of the members of an object. -/
def renderMembers (level : Nat) : List (JsonText × Json) → List String
  | [] => []
  | (name, value) :: members =>
    (renderText name ++ ": " ++ value.renderAt level) :: renderMembers level members

end

/-- The text of a document. -/
def render (document : Json) : String :=
  document.renderAt 0

end ChatScript.Json
