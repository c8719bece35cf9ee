import SqlInventory.Command.Scan

/-!
# The command that makes a catalog
-/

namespace SqlInventory

/-- The choices for a catalog. -/
def catalogOptions (r : CatalogRequest) (settings : Settings) : CatalogOptions where
  qualifier := r.qualifier
  db := if r.db.isEmpty then (settings .db).plainText else r.db
  entityValue := (settings .entityValue).plainText

/-- The remarks on ids that needed a suffix. -/
def suffixEntries (options : CatalogOptions) (run : Run) : List LogEntry :=
  (suffixRemarks options run.results).map fun remark => ⟨.warning, remark⟩

/-- The command that makes a catalog. -/
def catalogCommand (host : Host) (r : CatalogRequest) : Action Printed := do
  let place ← Action.inspect fun root => .quiet (placeOf host root r.path)
  let settings ← Action.inspect fun root => settingsAt host root place
  let run ← Action.inspect fun root => runScan host root place settings r.exclude r.workers
  let options := catalogOptions r settings
  Action.inspect fun _ => Logged.tellAll (suffixEntries options run)
  let entries := catalog options host.readSql run.results
  let newSuffix : Option Text := if r.format = .jsonl then some ".jsonl" else none
  let out ← Action.ofExcept (outputPath r.out (settings .catalog) newSuffix)
  Action.save out (writeCatalog r.format entries)
  let count := Text.ofNat entries.length
  Action.tell .info ("Catalog with " ++ count ++ " statements written to " ++ Path.tidy out)
  let summary :=
    count ++ " statements from " ++ Text.ofNat run.results.length ++ " files saved to " ++ out
  return Printed.add {} false (Console.shown "success" summary)

end SqlInventory
