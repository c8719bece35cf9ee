import SqlInventory.Report.Record
import SqlInventory.Yaml.Printer

/-!
# Writing a report

A report is written as JSON, indented, or as YAML that folds lines wider than 120 columns.
-/

namespace SqlInventory

/-- The formats of a report. -/
inductive ReportFormat where
  /-- Indented JSON. -/
  | json
  /-- YAML. -/
  | yaml
  deriving DecidableEq, Repr

namespace ReportFormat

/-- The word for a format. -/
def word : ReportFormat → Text
  | .json => "json"
  | .yaml => "yaml"

/-- The formats in the order in which they are listed. -/
def all : List ReportFormat := [.json, .yaml]

/-- The format with this word. -/
def ofWord? (t : Text) : Option ReportFormat :=
  all.find? fun f => f.word == t

end ReportFormat

/-- Reports in YAML fold lines wider than 120 columns and have no literal blocks. -/
def reportStyle : Yaml.Style := ⟨120, false⟩

/-- A report in a format. -/
def writeReport (format : ReportFormat) (value : Json) : Text :=
  match format with
  | .json => Json.indented 0 value ++ ['\n']
  | .yaml => Yaml.document reportStyle value

/-- The report on some files in the format with this word. An entry that is no finding is found
before an unknown format is. -/
def renderReport (results : Results) (format : Text) : Except ReportError Text := do
  let value ← report results
  match ReportFormat.ofWord? format with
  | some f => .ok (writeReport f value)
  | none => .error (.unknownFormat format)

end SqlInventory
