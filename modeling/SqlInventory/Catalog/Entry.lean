import SqlInventory.Audit.Finding
import SqlInventory.Catalog.Layout
import SqlInventory.Catalog.Marker
import SqlInventory.Catalog.Tables
import SqlInventory.Report.Record

/-!
# Catalog entries

Every named literal becomes an entry, in the order of the results. Its id is its name, behind the
namespace if there is one; a name that has occurred before gets the number of its occurrence as a
suffix. Only the names themselves are counted, so a suffixed id may still meet a name that looks
like it.
-/

namespace SqlInventory

/-- One statement of a catalog. -/
structure CatalogEntry where
  /-- The id under which the statement is found. -/
  id : Text
  /-- The statement, laid out. -/
  sql : Text
  /-- The database. -/
  db : Text
  /-- The file of the literal. -/
  file : Text
  /-- The line of the literal. -/
  line : Option LineNumber
  /-- What the statement does, if it could be read. -/
  summary : Option SqlSummary
  /-- Values of the slots that stay. -/
  placeholders : List (Text × Text)
  /-- Markers that became question marks. -/
  binds : List Text
  deriving DecidableEq, Repr

/-- The choices for a catalog. -/
structure CatalogOptions where
  /-- What ids start with, if it is not empty. -/
  qualifier : Text := []
  /-- The database. -/
  db : Text := "rep"
  /-- The value for the entity's slot. -/
  entityValue : Text := "BR"
  deriving DecidableEq, Repr

/-- A literal with a name, and the file that it is in. -/
structure NamedLiteral where
  /-- The file. -/
  path : Text
  /-- The name. -/
  name : Text
  /-- The literal. -/
  literal : LiteralFinding
  deriving DecidableEq, Repr

/-- The named literals of some results, in order. -/
def namedLiterals (results : Results) : List NamedLiteral :=
  results.flatMap fun (path, findings) => findings.filterMap fun f => match f with
    | .literal l => l.name.map fun name => ⟨path, name, l⟩
    | _ => none

/-- The id of a literal before suffixes. -/
def baseId (qualifier name : Text) : Text :=
  if qualifier.isEmpty then name else qualifier ++ '.' :: name

/-- The id of a literal whose base id occurs `earlier` times before it. -/
def suffixedId (base : Text) (earlier : Nat) : Text :=
  if earlier = 0 then base else base ++ '_' :: Text.ofNat (earlier + 1)

/-- The ids of literals with these base ids, of which those in `seen` come before. -/
def assignIds : List Text → List Text → List Text
  | _, [] => []
  | seen, base :: rest => suffixedId base (seen.count base) :: assignIds (base :: seen) rest

/-- The entry of a literal under an id. -/
def catalogEntry (options : CatalogOptions) (read : SqlReader) (id : Text) (l : NamedLiteral) :
    CatalogEntry :=
  let slotted := extractMarkers l.literal.statement options.entityValue
  { id
    sql := Layout.layOut slotted.sql
    db := options.db
    file := l.path
    line := l.literal.line
    summary := (read slotted.sql).summary?
    placeholders := slotted.placeholders
    binds := slotted.binds }

/-- The base ids of the named literals of some results. -/
def baseIds (options : CatalogOptions) (results : Results) : List Text :=
  (namedLiterals results).map fun l => baseId options.qualifier l.name

/-- The catalog of some results. -/
def catalog (options : CatalogOptions) (read : SqlReader) (results : Results) :
    List CatalogEntry :=
  List.zipWith (catalogEntry options read) (assignIds [] (baseIds options results))
    (namedLiterals results)

/-- The literals whose base id has occurred before, as pairs of base id and file. -/
def repeatedIds : List Text → List (Text × Text) → List (Text × Text)
  | _, [] => []
  | seen, (base, path) :: rest =>
    if seen.contains base then (base, path) :: repeatedIds (base :: seen) rest
    else repeatedIds (base :: seen) rest

/-- The remarks on ids that needed a suffix, in order. -/
def suffixRemarks (options : CatalogOptions) (results : Results) : List Text :=
  (repeatedIds [] ((namedLiterals results).map fun l =>
    (baseId options.qualifier l.name, l.path))).map fun (base, path) =>
      "Duplicate statement id " ++ base ++ " in " ++ path ++ ", suffixing"

end SqlInventory
