import ChatScript.Counts
import ChatScript.Execution.Failure
import ChatScript.Json.Decode
import ChatScript.Json.Printer
import ChatScript.Json.Reader
import ChatScript.Text.Decimal

/-!
# Counts and results as JSON
-/

namespace ChatScript

namespace Counts

/-- The JSON form of counts: an object of channels that hold an object of commands each. -/
def toJson (counts : Counts) : Json :=
  Json.ofDictionary (Json.ofDictionary Json.integer) counts

/-- The text that counts are kept in. -/
def render (counts : Counts) : String :=
  counts.toJson.render

/-- The counts that a text holds. -/
def read? (document : String) : Option Counts :=
  (Json.read? document).bind
    (Json.dictionary? (Json.dictionary? (Json.integerIn? Text.minNumber Text.maxNumber)))

end Counts

namespace ErrorDetail

/-- The JSON form of an error report. -/
def toJson (detail : ErrorDetail) : Json :=
  Json.ofFields
    [("line", detail.line.map fun line => .integer line),
      ("variable_name", detail.name.map .ofString),
      ("message", some (.ofString detail.message))]

/-- The error report that a JSON value holds. -/
def ofJson? (json : Json) : Option ErrorDetail := do
  let fields ← json.fields? ["line", "variable_name", "message"]
  let line ← fields.optional? "line" Json.size?
  let name ← fields.optional? "variable_name" Json.string?
  let message ← fields.required? "message" Json.string?
  pure { line, name, message }

end ErrorDetail

namespace Outcome

/-- The JSON form of a result. -/
def toJson (outcome : Outcome) : Json :=
  Json.ofFields
    [("success", some (.boolean outcome.success)),
      ("output_lines", some (.array (outcome.lines.map .ofString))),
      ("error", outcome.error.map ErrorDetail.toJson)]

/-- The text of a result. -/
def render (outcome : Outcome) : String :=
  outcome.toJson.render

/-- The result that a JSON value holds. -/
def ofJson? (json : Json) : Option Outcome := do
  let fields ← json.fields? ["success", "output_lines", "error"]
  let success ← fields.required? "success" Json.boolean?
  let lines ← fields.required? "output_lines" (Json.list? Json.string?)
  let error ← fields.optional? "error" ErrorDetail.ofJson?
  pure { success, lines, error }

/-- The result that a text holds. -/
def read? (document : String) : Option Outcome :=
  (Json.read? document).bind ofJson?

end Outcome

end ChatScript
