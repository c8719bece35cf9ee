import SqlInventory.Audit.Scan
import SqlInventory.Catalog.Tables
import SqlInventory.Failure
import SqlInventory.Run.Outcome
import SqlInventory.Workspace.Discover

/-!
# Scanning a workspace

A run loads settings, takes a vocabulary from them, discovers source files and scans each. A file
that cannot be read or parsed is skipped with a remark; it never stops the run.
-/

namespace SqlInventory

/-- What a run takes from the machine it is on. -/
structure Host where
  /-- The full path of the workspace's directory. -/
  origin : Text
  /-- How many files are best scanned at a time. -/
  workers : Nat
  /-- The environment variables. -/
  environment : Environment
  /-- On how many levels a configuration file may have arrays and objects within each other. -/
  jsonLevels : Nat
  /-- What the grammar answers for a source. -/
  grammar : Bytes → Perl.GrammarAnswer
  /-- How SQL is read. -/
  readSql : SqlReader
  /-- The time, for the error log. -/
  time : Text := []
  /-- The order in which files finish that are scanned at the same time. -/
  schedule : Schedule := .inOrder

/-- Where the configuration file is, below the directory that it is for. -/
def configNames : List Text := [".sqlaudit", "config.json"]

namespace FileTree

/-- The configuration file that names lead to. -/
def configFile (root : FileTree) (names : List Text) : ConfigFile :=
  match root.follow? names with
  | .error .nameTooLong => .unreadable
  | .error _ => .absent
  | .ok (.file content) => .content content
  | .ok _ => .unreadable

/-- The directory of a place: itself if it is one, else the one above. -/
def directoryOf (root : FileTree) (place : Place) : Place :=
  match root.at? place with
  | some (.directory _) => place
  | _ => place.dropLast

/-- The size that the file system gives to a directory. -/
def directorySize : Nat := 4096

/-- The size of what names lead to. -/
def size (root : FileTree) (names : List Text) : Except FileError Nat := do
  match ← root.follow? names with
  | .file content => .ok content.length
  | _ => .ok directorySize

/-- Whether a size is beyond a limit. No limit is `null`, and any other must be a number. -/
def isBeyond (size : Nat) (limit : Json) : Except Failure Bool :=
  match limit with
  | .null => .ok false
  | .decimal .undefined => .ok false
  | _ =>
    if limit.isNumber then .ok (!Json.atMost (.integer size) limit)
    else
      let message :=
        "'>' not supported between instances of 'int' and '" ++ limit.typeName ++ "'"
      .error (.words (.badValue message))

/-- The findings of the file that names lead to, or why there are none. A file beyond the limit on
sizes is not read. -/
def scanFile (root : FileTree) (host : Host) (v : Vocabulary) (limit : Json) (names : List Text) :
    Except Failure Outcome := do
  match root.size names with
  | .error .unnameable => .error (.file .unnameable (Path.ofParts names))
  | .error e => return .skipped e.reason
  | .ok size =>
    if ← isBeyond size limit then
      return .skipped ("larger than " ++ limit.display ++ " bytes")
    match root.read names with
    | .error e => return .skipped e.reason
    | .ok content =>
      match scanSource v content (host.grammar content) with
      | .ok findings => return .scanned findings
      | .error refusal => return .skipped refusal.message

end FileTree

/-- The place that a path would lead to if what is missing were there. -/
def placeOf (host : Host) (root : FileTree) (path : Text) : Except Failure Place :=
  (root.resolve path).mapError fun (e, place) =>
    let shown := place.absolute host.origin
    match e with
    | .tooManyLinks => .linkLoop shown
    | _ => .file e shown

/-- The settings for the directory that a path leads to. -/
def loadSettings (host : Host) (root : FileTree) (path : Text) : Logged Failure Settings :=
  (Settings.load host.jsonLevels host.workers (Path.extend path configNames)
    (root.configFile (Path.parts path ++ configNames)) host.environment).mapError .config

/-- The settings for a place of the workspace. -/
def settingsAt (host : Host) (root : FileTree) (place : Place) : Logged Failure Settings :=
  let directory := root.directoryOf place
  (Settings.load host.jsonLevels host.workers ((directory ++ configNames).absolute host.origin)
    (root.configFile (directory ++ configNames)) host.environment).mapError .config

/-- The suffixes that a setting lists. -/
def extensionsOf (value : Json) : Except Failure (List Text) := do
  let items ← (Words.itemsOf value).mapError .words
  items.mapM fun item => match item with
    | .string t => .ok t
    | other => .error (.badExtension other)

/-- The source files at a place. The suffixes matter only if the place is not a file. -/
def discover (root : FileTree) (place : Place) (extensions : Json) (exclude : List Text) :
    Except Failure (List Place) :=
  match root.at? place with
  | some (.file _) => .ok [place]
  | _ => (extensionsOf extensions).map fun suffixes => root.sourcesAt place suffixes exclude

/-- How many workers are to be used: as asked for, else as set, else what is best. -/
def workerCount (host : Host) (asked setting : Json) : Json :=
  if asked.isTruthy then asked
  else if setting.isTruthy then setting
  else .integer host.workers

/-- Refuses a number of workers that is not above zero. -/
def checkWorkers (count : Json) : Except Failure Unit :=
  if count.isNumber then
    if count.atMost (.integer 0) then .error .noWorkers else .ok ()
  else
    let message := "'<=' not supported between instances of '" ++ count.typeName ++ "' and 'int'"
    .error (.words (.badValue message))

/-- The path of a place relative to the directory at `base`. -/
def relativeTo (base place : Place) : Text := Place.relative (place.drop base.length)

/-- The remarks on skipped files. -/
def skippedRemarks (outcomes : List (Text × Outcome)) : List LogEntry :=
  outcomes.filterMap fun (path, outcome) => match outcome with
    | .skipped reason => some ⟨.warning, "Skipping " ++ path ++ ": " ++ reason⟩
    | .scanned _ => none

/-- The outcome of each of some files of the workspace. -/
def outcomesOf (host : Host) (root : FileTree) (v : Vocabulary) (limit : Json) (base : Place)
    (files : List Place) : Except Failure (List (Text × Outcome)) :=
  files.mapM fun place =>
    (root.scanFile host v limit place).map fun outcome => (relativeTo base place, outcome)

/-- The run over the source files at a place, with these settings. -/
def runScan (host : Host) (root : FileTree) (place : Place) (settings : Settings)
    (exclude : List Text) (workers : Json) : Logged Failure Run := do
  let words ← (Words.ofSettings settings).mapError .words
  let files ← .quiet (discover root place (settings .extensions) exclude)
  if files.isEmpty then
    Logged.tell .info ("No source files found under " ++ place.absolute host.origin)
    return {}
  let count := workerCount host workers (settings .maxWorkers)
  Logged.tell .info
    ("Scanning " ++ Text.ofNat files.length ++ " files with " ++ count.plainText ++ " workers...")
  .quiet (checkWorkers count)
  let v ← .quiet (words.vocabulary.mapError .words)
  let outcomes ←
    .quiet (outcomesOf host root v (settings .maxFileSize) (root.directoryOf place) files)
  let completed := host.schedule.completed outcomes
  let run := Run.ofOutcomes completed
  Logged.tellAll (skippedRemarks completed)
  Logged.tell .info
    ("Scanned " ++ Text.ofNat run.filesScanned ++ " files: " ++ Text.ofNat run.results.length ++
      " with findings, " ++ Text.ofNat run.skipped.length ++ " skipped")
  return run

end SqlInventory
