import SqlInventory.Catalog.Entry
import SqlInventory.Yaml.Printer

/-!
# Writing a catalog

A catalog is written as a YAML list, with statements as literal blocks, or as one JSON object per
line. What is written of an entry is its id, its statement and members that may be anything.
-/

namespace SqlInventory

/-- The formats of a catalog. -/
inductive CatalogFormat where
  /-- A YAML list. -/
  | yaml
  /-- One JSON object per line. -/
  | jsonl
  deriving DecidableEq, Repr

namespace CatalogFormat

/-- The word for a format. -/
def word : CatalogFormat → Text
  | .yaml => "yaml"
  | .jsonl => "jsonl"

/-- The formats in the order in which they are listed. -/
def all : List CatalogFormat := [.yaml, .jsonl]

/-- The format with this word. -/
def ofWord? (t : Text) : Option CatalogFormat :=
  all.find? fun f => f.word == t

end CatalogFormat

/-- The error for a word that is no format. -/
def unknownCatalogFormat (format : Text) : Text :=
  "Unsupported catalog format: " ++ format

/-- A statement as it is stored. -/
structure StoredStatement where
  /-- The id under which it is found. -/
  id : Text
  /-- The statement. -/
  sql : Text
  /-- What else is known of it. -/
  details : List (Text × Json)
  deriving Repr

/-- A stored statement as a value. -/
def StoredStatement.toJson (s : StoredStatement) : Json :=
  .object [("id", .string s.id), ("sql", .string s.sql), ("meta", .object s.details)]

namespace CatalogEntry

/-- What is known of an entry beside its id and its statement. -/
def details (e : CatalogEntry) : List (Text × Json) :=
  let place : List (Text × Json) :=
    [("db", .string e.db), ("file", .string e.file), ("line", .ofLine? e.line)]
  let summary : List (Text × Json) := match e.summary with
    | some s => [("command", .string s.command), ("tables", .array (s.tables.map .string))]
    | none => []
  let slots : List (Text × Json) :=
    [("placeholders", .object (e.placeholders.map fun (k, v) => (k, .string v))),
      ("bind_values", .array (e.binds.map .string))]
  place ++ summary ++ slots

/-- An entry as it is stored. -/
def stored (e : CatalogEntry) : StoredStatement :=
  ⟨e.id, e.sql, e.details⟩

/-- An entry as a value. -/
def toJson (e : CatalogEntry) : Json :=
  e.stored.toJson

end CatalogEntry

/-- Catalogs in YAML fold lines wider than 80 columns and have literal blocks. -/
def catalogStyle : Yaml.Style := ⟨80, true⟩

/-- One JSON object per line. -/
def jsonLines (statements : List StoredStatement) : Text :=
  statements.flatMap fun s => Json.compact s.toJson ++ ['\n']

/-- Stored statements in a format. -/
def writeStored (format : CatalogFormat) (statements : List StoredStatement) : Text :=
  match format with
  | .yaml => Yaml.document catalogStyle (.array (statements.map StoredStatement.toJson))
  | .jsonl => jsonLines statements

/-- Stored statements in the format with this word; without such a format, the message for it. -/
def renderStored (statements : List StoredStatement) (format : Text) : Except Text Text :=
  match CatalogFormat.ofWord? format with
  | some f => .ok (writeStored f statements)
  | none => .error (unknownCatalogFormat format)

/-- A catalog in a format. -/
def writeCatalog (format : CatalogFormat) (entries : List CatalogEntry) : Text :=
  writeStored format (entries.map CatalogEntry.stored)

/-- A catalog in the format with this word; without such a format, the message for it. -/
def renderCatalog (entries : List CatalogEntry) (format : Text) : Except Text Text :=
  renderStored (entries.map CatalogEntry.stored) format

end SqlInventory
