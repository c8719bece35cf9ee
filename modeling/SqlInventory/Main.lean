import SqlInventory.Catalog.ReadingJson
import SqlInventory.Command.Line
import SqlInventory.Perl.TreeJson

/-!
# The program

Reads the current directory into a workspace, carries out the command line, and writes back the
files that changed. The grammar and the reader of SQL run elsewhere: their answers are taken from
the files `.sqlaudit/trees.json`, an object from paths to trees, and `.sqlaudit/readings.json`, a
list of pairs.
-/

namespace SqlInventory

/-- The bytes of a file on disk. -/
def bytesOnDisk (path : String) : IO Bytes := do
  return (← IO.FS.readBinFile path).toList

/-- The directory on disk as a tree. A link to a file counts as the file, and links to directories
are left out. -/
partial def treeOnDisk (path : String) : IO FileTree := do
  let mut found : List (Text × FileTree) := []
  for entry in ← (← IO.FS.realPath path).readDir do
    let below := path ++ "/" ++ entry.fileName
    let name := entry.fileName.toList
    match (← entry.path.symlinkMetadata).type with
    | .dir => found := (name, ← treeOnDisk below) :: found
    | .file => found := (name, .file (← bytesOnDisk below)) :: found
    | _ =>
      match ← (bytesOnDisk below).toBaseIO with
      | .ok content => found := (name, .file content) :: found
      | .error _ => pure ()
  return .directory found.reverse

/-- A JSON file of the workspace. -/
def jsonFile (root : FileTree) (name : Text) : Json :=
  match root.read [".sqlaudit", name] with
  | .ok content => (Json.decode (Utf8.decode content)).toOption.getD .null
  | .error _ => .null

/-- The trees of the sources that the grammar has answered for. -/
def knownTrees (root : FileTree) : List (Bytes × Perl.Tree) :=
  match jsonFile root "trees.json" with
  | .object members => members.filterMap fun (path, value) =>
    match root.read (Path.parts path), Perl.Tree.ofJson? value with
    | .ok content, some tree => some (content, tree)
    | _, _ => none
  | _ => []

/-- The answer of the grammar for a source. -/
def grammarAnswer (known : List (Bytes × Perl.Tree)) (source : Bytes) : Perl.GrammarAnswer :=
  .answered ((known.find? fun k => k.1 == source).map (·.2))

/-- The environment variables that settings have. -/
def readEnvironment : IO Environment := do
  let mut found : Environment := []
  for key in SettingKey.all do
    if let some value ← IO.getEnv (String.ofList key.variableName) then
      found := (key.variableName, value.toList) :: found
  return found.reverse

/-- Writes the files that are new or changed. -/
def writeChanges (earlier later : FileTree) : IO Unit := do
  for (path, content) in FileTree.changedFiles earlier later do
    let names := Path.parts path
    unless names.dropLast.isEmpty do
      IO.FS.createDirAll (String.ofList (Path.ofParts names.dropLast))
    IO.FS.writeBinFile (String.ofList path) content.toByteArray

end SqlInventory

open SqlInventory in
/-- The program. -/
def main (arguments : List String) : IO UInt32 := do
  let root ← treeOnDisk "."
  let known := knownTrees root
  let host : Host := {
    origin := (← IO.currentDir).toString.toList
    workers := 8
    environment := ← readEnvironment
    jsonLevels := 900
    grammar := grammarAnswer known
    readSql := SqlReader.ofJson (jsonFile root "readings.json")
    time := (toString (← IO.monoMsNow)).toList }
  let t := commandLine host root (arguments.map String.toList)
  writeChanges root t.workspace
  for entry in t.entries do
    IO.eprint (String.ofList (Action.logLine entry))
  IO.print (String.ofList t.printed.stdout)
  IO.eprint (String.ofList t.printed.stderr)
  return UInt32.ofNat t.printed.exitCode.toNat
