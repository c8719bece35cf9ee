import SqlInventory.Audit.Finding
import SqlInventory.Json.Basic

/-!
# Records of findings

A finding is written as an object whose members depend on its type:

* literals: `type`, `line`, `variable`, `snippet`, and `name` if it has one;
* calls: `type`, `method`, `line`, `context`;
* undeclared variables: `type`, `variable`, `used_in_line`, `context`, `note`.

The whole statement of a literal is not part of its record. Files without findings are left out of a
report.
-/

namespace SqlInventory

/-- Why a report cannot be made. -/
inductive ReportError where
  /-- An entry is no finding but something of this kind. -/
  | unknownFinding (kind : Text)
  /-- There is no such format. -/
  | unknownFormat (format : Text)
  deriving DecidableEq, Repr

/-- The error in words. -/
def ReportError.message : ReportError → Text
  | .unknownFinding kind => "Unknown finding type: " ++ kind
  | .unknownFormat format => "Unsupported report format: " ++ format

namespace Json

/-- A text, or `null`. -/
def ofText? : Option Text → Json
  | some t => .string t
  | none => .null

/-- The number of a line. -/
def ofLine : LineNumber → Json
  | .number n => .integer n
  | .truth b => .bool b

/-- The number of a line, or `null`. -/
def ofLine? : Option LineNumber → Json
  | some n => .ofLine n
  | none => .null

end Json

/-- The members of a literal's record. -/
def LiteralFinding.members (f : LiteralFinding) : List (Text × Json) :=
  let name : List (Text × Json) := match f.name with
    | some name => [("name", .string name)]
    | none => []
  ("type", .string (Finding.literal f).tag) :: ("line", .ofLine? f.line) ::
    ("variable", .ofText? f.target) :: ("snippet", .string f.snippet) :: name

/-- The members of a call's record. -/
def CallFinding.members (f : CallFinding) : List (Text × Json) :=
  [("type", .string (Finding.call f).tag), ("method", .string f.verb), ("line", .ofLine f.line),
    ("context", .string f.context)]

/-- The members of an undeclared variable's record. -/
def UndeclaredFinding.members (f : UndeclaredFinding) : List (Text × Json) :=
  [("type", .string (Finding.undeclared f).tag), ("variable", .string f.target),
    ("used_in_line", .ofLine f.usedInLine), ("context", .string f.context),
    ("note", .string f.note)]

/-- The record of a finding. -/
def Finding.record : Finding → Except ReportError Json
  | .literal f => .ok (.object f.members)
  | .call f => .ok (.object f.members)
  | .undeclared f => .ok (.object f.members)
  | .foreign kind => .error (.unknownFinding kind)

/-- The records of some findings. -/
def records (findings : List Finding) : Except ReportError (List Json) :=
  findings.mapM Finding.record

/-- The report on some files: for each file with findings, its records. -/
def report (results : Results) : Except ReportError Json :=
  let reported := results.filter fun (_, findings) => !findings.isEmpty
  let members := reported.mapM fun ((path, findings) : Text × List Finding) =>
    (records findings).map fun rs => (path, Json.array rs)
  members.map Json.object

end SqlInventory
