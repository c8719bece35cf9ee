import SqlInventory.Text.Case
import SqlInventory.Text.Glob
import SqlInventory.Workspace.Locate

/-!
# Discovery of source files

Below a directory, the source files are those with one of the wanted suffixes whose path matches
none of the patterns to be left out. Directories of version control, of installed modules and the
like are not entered, and neither are links to directories. The files come in the order of their
paths.
-/

namespace SqlInventory

/-- Names of directories that are not entered. -/
def skippedDirectories : List Text :=
  [".git", ".hg", ".svn", ".sqlaudit", ".venv", "venv", "node_modules", "blib", "__pycache__"]

/-- The name of a directory that is not entered if modules are installed in it. -/
def localDirectory : Text := "local"

/-- Where modules are installed in such a directory. -/
def installedModules : List Text := ["lib", "perl5"]

mutual

/-- The places of the files in a tree that is at `here`. A directory counts if `enters` holds of its
place, and a link if `isFile` does. -/
def filePlaces (enters isFile : Place → Bool) (here : Place) : FileTree → List Place
  | .file _ => [here]
  | .link _ => if isFile here then [here] else []
  | .directory es => if enters here then filePlacesAmong enters isFile here es else []

/-- The places of the files in some entries of the directory at `here`. -/
def filePlacesAmong (enters isFile : Place → Bool) (here : Place) :
    List (Text × FileTree) → List Place
  | [] => []
  | (name, node) :: rest =>
    filePlaces enters isFile (here ++ [name]) node ++ filePlacesAmong enters isFile here rest

end

namespace FileTree

/-- Whether the directory at a place of the workspace is entered. What is kept of the world outside
is not. -/
def isEntered (root : FileTree) (place : Place) : Bool :=
  match place.getLast? with
  | none => true
  | some name =>
    Place.isInside [name] && !skippedDirectories.contains name &&
      !(name == localDirectory && root.leadsToDirectory (place ++ installedModules))

/-- Whether the last name of a place has one of the suffixes `wanted`, in small letters. -/
def hasSuffix (wanted : List Text) (place : Place) : Bool :=
  wanted.contains (Text.lower (Path.suffix (place.getLast?.getD [])))

/-- Whether one of the patterns matches a path. -/
def isExcluded (patterns : List Text) (path : Text) : Bool :=
  patterns.any fun pattern => (Glob.ofText pattern).accepts path

/-- The source files below the directory at `top`, relative to it and in the order of their
paths. -/
def sourcesBelow (root : FileTree) (top : Place) (wanted exclude : List Text) : List Place :=
  match root.at? top with
  | some (.directory es) =>
    let found := filePlacesAmong (fun place => root.isEntered (top ++ place))
      (fun place => !root.leadsToDirectory (top ++ place)) [] es
    let wantedPlace (place : Place) : Bool :=
      hasSuffix wanted place && !isExcluded exclude place.relative
    (found.filter wantedPlace).mergeSort fun a b => Text.atMost a.relative b.relative
  | _ => []

/-- The source files at a place of the workspace: a file is its own only source file, whatever its
name. -/
def sourcesAt (root : FileTree) (top : Place) (extensions exclude : List Text) : List Place :=
  match root.at? top with
  | some (.file _) => [top]
  | _ => (root.sourcesBelow top (extensions.map Text.lower) exclude).map (top ++ ·)

end FileTree

end SqlInventory
