import SqlInventory.Catalog.Tables
import SqlInventory.Json.Basic

/-!
# Readings of SQL as JSON

A reader of SQL that runs elsewhere hands over what it read as a list of pairs: a text, and either
`null` for no statement, an object with the member `raises` for a breakdown, or an object with the
type of the first statement and its tokens. A token is a list of its type or `null`, its text, its
text as it is normally written, whether it is a keyword, and whether it is blank.
-/

namespace SqlInventory

namespace SqlToken

/-- The token that a value describes. -/
def ofJson? : Json → Option SqlToken
  | .array [.string type, .string value, .string normalized, .bool isKeyword, .bool isBlank] =>
    some ⟨some type, value, normalized, isKeyword, isBlank⟩
  | .array [.null, .string value, .string normalized, .bool isKeyword, .bool isBlank] =>
    some ⟨none, value, normalized, isKeyword, isBlank⟩
  | _ => none

end SqlToken

namespace SqlReading

/-- The reading that a value describes. -/
def ofJson (value : Json) : SqlReading :=
  if (value.member? "raises").isSome then .failed
  else match value.member? "tokens" with
    | some (.array tokens) =>
      let type : Option Text := match value.member? "type" with
        | some (.string t) => some t
        | _ => none
      .statement type (tokens.filterMap SqlToken.ofJson?)
    | _ => .nothing

/-- The pair of a text and its reading that a value describes. -/
def pairOfJson? : Json → Option (Text × SqlReading)
  | .array [.string sql, reading] => some (sql, ofJson reading)
  | _ => none

end SqlReading

namespace SqlReader

/-- The reader that knows the texts that a value lists, and reads nothing in any other. -/
def ofJson (value : Json) : SqlReader := fun sql =>
  match value with
  | .array pairs =>
    (((pairs.filterMap SqlReading.pairOfJson?).find? fun p => p.1 == sql).map (·.2)).getD .nothing
  | _ => .nothing

end SqlReader

end SqlInventory
