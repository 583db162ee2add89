import ChatScript.Json
import ChatScript.Text.Decimal
import Std.Data.ExtTreeMap

/-!
# Decoding JSON

Readings of JSON values as values of a given type. A record can be read from an object or from an
array that lists its fields in order. Objects may have members that the record does not know, but
none of its fields twice; dictionaries keep the last of several members with one name.
-/

namespace ChatScript.Json

/-- Reads a value of type `α` off a JSON value. -/
abbrev Decoder (α : Type) := Json → Option α

/-- A string. -/
def string? : Decoder String
  | .text content => content
  | _ => none

/-- A truth value. -/
def boolean? : Decoder Bool
  | .boolean value => some value
  | _ => none

/-- An integer from `low` to `high`. -/
def integerIn? (low high : Int) : Decoder Int
  | .integer value => if low ≤ value ∧ value ≤ high then some value else none
  | _ => none

/-- A size. -/
def size? (json : Json) : Option Nat :=
  (integerIn? 0 Text.maxSize json).map Int.toNat

/-- A list. -/
def list? {α : Type} (item : Decoder α) : Decoder (List α)
  | .array items => items.mapM item
  | _ => none

/-- The members of an object with strings for names. -/
def member? {α : Type} (value : Decoder α) (entry : JsonText × Json) : Option (String × α) := do
  let name ← entry.1
  let content ← value entry.2
  pure (name, content)

/-- A dictionary. The last of several members with one name counts. -/
def dictionary? {α : Type} (value : Decoder α) : Decoder (Std.ExtTreeMap String α)
  | .object members =>
    (members.mapM (member? value)).map fun entries => Std.ExtTreeMap.ofList entries
  | _ => none

/-- The fields of a record by name. -/
abbrev Fields := String → Option Json

/-- The fields of a record with the given names. -/
def fields? (names : List String) : Decoder Fields
  | .object members =>
    if (members.all fun member => member.1.isSome) ∧
        names.all fun name => (members.filter fun member => member.1 == some name).length ≤ 1 then
      some fun name => members.lookup (some name)
    else none
  | .array items =>
    if items.length ≤ names.length then some fun name => (names.zip items).lookup name else none
  | _ => none

namespace Fields

/-- A field that has to be there. -/
def required? {α : Type} (fields : Fields) (name : String) (decode : Decoder α) : Option α :=
  (fields name).bind decode

/-- A field with a value for when it is not there. -/
def withDefault? {α : Type} (fields : Fields) (name : String) (decode : Decoder α)
    (default : α) : Option α :=
  match fields name with
  | some json => decode json
  | none => some default

/-- A field that may be missing or null. -/
def optional? {α : Type} (fields : Fields) (name : String) (decode : Decoder α) :
    Option (Option α) :=
  match fields name with
  | none | some .null => some none
  | some json => (decode json).map some

end Fields

/-- A dictionary as a JSON object, in the order of its names. -/
def ofDictionary {α : Type} (encode : α → Json) (entries : Std.ExtTreeMap String α) : Json :=
  .object (entries.toList.map fun entry => (some entry.1, encode entry.2))

/-- A record as a JSON object, without the fields that have no value. -/
def ofFields (fields : List (String × Option Json)) : Json :=
  .object (fields.filterMap fun field => field.2.map fun json => (some field.1, json))

end ChatScript.Json
