import SqlInventory.Workspace.Tree

/-!
# Following paths

A path is followed name by name from the workspace's directory. A link on the way is replaced by
what it points to, but only forty times, so every path comes to an end. Reading, writing and making
directories are stated on top of that, with the cause when the file system refuses.

A path is *resolved* by other rules: what is missing does not matter, and a link is followed unless
it is being followed already.
-/

namespace SqlInventory

/-- Why the file system refuses. -/
inductive FileError where
  /-- There is nothing of this name. -/
  | notFound
  /-- There is something already. -/
  | exists
  /-- A directory is needed. -/
  | notDirectory
  /-- A directory cannot be read or written. -/
  | isDirectory
  /-- Links lead on without end. -/
  | tooManyLinks
  /-- A name, or the whole path, has too many bytes. -/
  | nameTooLong
  /-- A name holds a NUL. -/
  | unnameable
  deriving DecidableEq, Repr

namespace FileError

/-- The cause in words. -/
def reason : FileError → Text
  | .notFound => "No such file or directory"
  | .exists => "File exists"
  | .notDirectory => "Not a directory"
  | .isDirectory => "Is a directory"
  | .tooManyLinks => "Too many levels of symbolic links"
  | .nameTooLong => "File name too long"
  | .unnameable => "embedded null byte"

/-- The number of the cause. -/
def number : FileError → Nat
  | .notFound => 2
  | .exists => 17
  | .notDirectory => 20
  | .isDirectory => 21
  | .tooManyLinks => 40
  | .nameTooLong => 36
  | .unnameable => 22

end FileError

/-- How many links are followed. -/
def linkLimit : Nat := 40

/-- How many bytes a name may have. -/
def nameLimit : Nat := 255

/-- How many bytes a path may have. -/
def pathLimit : Nat := 4095

/-- Refuses a name that no file can have. -/
def checkName (name : Text) : Except FileError Unit :=
  if nameLimit < (Utf8.encode name).length then .error .nameTooLong else .ok ()

/-- Refuses names that no path can have, before any of them is looked up. -/
def checkNames (names : List Text) : Except FileError Unit :=
  if names.any fun name => name.contains (Char.ofNat 0) then .error .unnameable
  else if pathLimit < (Utf8.encode (Path.ofParts names)).length then .error .nameTooLong
  else .ok ()

namespace FileTree

/-- What is at a place; outside the workspace, directories that are there in any case count as
empty. -/
def node? (root : FileTree) (place : Place) : Option FileTree :=
  match root.at? place with
  | some node => some node
  | none => if place.isGiven then some (.directory []) else none

/-- The place that names lead to from the directory at `here`. At a link, `follow` goes on from the
directory that holds it, with the names of its target and those left over. -/
def walk (root : FileTree) (follow : Place → List Text → Except FileError Place) :
    Place → List Text → Except FileError Place
  | here, [] => .ok here
  | here, name :: rest =>
    match root.node? here with
    | some (.directory es) =>
      match here.jump? name with
      | some there => walk root follow there rest
      | none =>
        match FileTree.child? (.directory es) name with
        | none => (checkName name).bind fun _ => .error .notFound
        | some (.link target) => follow here (Path.parts target ++ rest)
        | some _ => walk root follow (here ++ [name]) rest
    | some _ => .error .notDirectory
    | none => .error .notFound

/-- The place that names lead to from the directory at `here`, following at most `links` links. -/
def locateFrom (root : FileTree) : (links : Nat) → Place → List Text → Except FileError Place
  | 0 => walk root fun _ _ => .error .tooManyLinks
  | links + 1 => walk root (locateFrom root links)

/-- The place that a path leads to. -/
def locate (root : FileTree) (path : Text) : Except FileError Place :=
  locateFrom root linkLimit [] (Path.parts path)

/-- What is at the end of the names, links followed. -/
def follow? (root : FileTree) (names : List Text) : Except FileError FileTree := do
  checkNames names
  let place ← locateFrom root linkLimit [] names
  match root.node? place with
  | some node => .ok node
  | none => .error .notFound

/-! ### Resolving -/

/-- Where names would lead if what is missing were there, and whether that came to an end. At a
link, `follow` is given its place and the names of its target. -/
def walkOn (root : FileTree) (follow : Place → List Text → Place × Bool) :
    Place → List Text → Place × Bool
  | here, [] => (here, true)
  | here, name :: rest =>
    match here.jump? name with
    | some there => walkOn root follow there rest
    | none =>
      match root.at? (here ++ [name]) with
      | some (.link target) =>
        match follow (here ++ [name]) (Path.parts target) with
        | (place, true) => walkOn root follow place rest
        | (place, false) => (place ++ rest, false)
      | _ => walkOn root follow (here ++ [name]) rest

/-- Where names would lead if what is missing were there, and whether that came to an end: a link
among those that are being followed already is left as it stands. -/
def resolveFrom (root : FileTree) :
    (fuel : Nat) → (following : List Place) → Place → List Text → Place × Bool
  | 0, _ => fun here names => (here ++ names, false)
  | fuel + 1, following => walkOn root fun link target =>
    if following.contains link then (link, false)
    else resolveFrom root fuel (link :: following) link.dropLast target

/-- Names with each name before a step upwards struck out. -/
def withoutSteps (names : List Text) : Place :=
  names.foldl (fun done name => (Place.jump? done name).getD (done ++ [name])) []

/-- The place that a path would lead to if what is missing were there. A path through links without
end is refused, and so is a name that no file can have. -/
def resolve (root : FileTree) (path : Text) : Except (FileError × Place) Place :=
  let names := Path.parts path
  match checkNames names with
  | .error .unnameable => .error (.unnameable, names)
  | _ =>
    -- Links that are being followed at the same time are different ones.
    let (found, _) := resolveFrom root (root.linkCount + 1) [] [] names
    let place := withoutSteps found
    match root.follow? place with
    | .error .tooManyLinks => .error (.tooManyLinks, place)
    | .error .nameTooLong => .error (.nameTooLong, place)
    | _ => .ok place

/-! ### Reading and writing -/

/-- Whether the names lead to a directory, links followed. -/
def leadsToDirectory (root : FileTree) (names : List Text) : Bool :=
  match root.follow? names with
  | .ok node => node.isDirectory
  | .error _ => false

/-- Whether a path leads anywhere; one that ends in a slash, or in a slash and a dot, must lead to a
directory. -/
def pathExists (root : FileTree) (path : Text) : Bool :=
  let last := (Text.splitAtChar '/' path).getLast?
  !path.isEmpty &&
    if last == some [] || last == some ['.'] then root.leadsToDirectory (Path.parts path)
    else (root.follow? (Path.parts path)).toOption.isSome

/-- The content of the file that names lead to. -/
def read (root : FileTree) (names : List Text) : Except FileError Bytes := do
  match ← root.follow? names with
  | .file content => .ok content
  | _ => .error .isDirectory

/-- The place at which a file with these names is written: the directory must be there, the file
need not. If the last name is a link, `follow` goes on with its target. -/
def writePlaceWith (root : FileTree) (links : Nat)
    (follow : Place → List Text → Except FileError Place) (here : Place) (names : List Text) :
    Except FileError Place := do
  match names.getLast? with
  | none => .error .isDirectory
  | some name =>
    let directory ← locateFrom root links here names.dropLast
    match root.node? directory with
    | some (.directory es) =>
      if (directory.jump? name).isSome then .error .isDirectory
      else match FileTree.child? (.directory es) name with
        | none => (checkName name).map fun _ => directory ++ [name]
        | some (.file _) => .ok (directory ++ [name])
        | some (.directory _) => .error .isDirectory
        | some (.link target) => follow directory (Path.parts target)
    | some _ => .error .notDirectory
    | none => .error .notFound

/-- The place at which a file with these names is written, following at most `links` links at the
last name. -/
def writePlace (root : FileTree) : (links : Nat) → Place → List Text → Except FileError Place
  | 0 => writePlaceWith root 0 fun _ _ => .error .tooManyLinks
  | links + 1 => writePlaceWith root (links + 1) (writePlace root links)

/-- A tree in which the file that names lead to has this content. -/
def write (root : FileTree) (names : List Text) (content : Bytes) : Except FileError FileTree := do
  checkNames names
  let place ← writePlace root linkLimit [] names
  .ok (insert place (.file content) root)

/-- One directory made in the directory that the names `above`, from the last to the first, lead
to. -/
def makeDirectory (root : FileTree) (name : Text) (above : List Text) :
    Except FileError FileTree := do
  checkNames (name :: above)
  let parent ← locateFrom root linkLimit [] above.reverse
  match root.node? parent with
  | some (.directory es) =>
    match FileTree.child? (.directory es) name with
    | none =>
      if (parent.jump? name).isSome then .error .exists
      else (checkName name).map fun _ => insert (parent ++ [name]) (.directory []) root
    | some _ => .error .exists
  | some _ => .error .notDirectory
  | none => .error .notFound

/-- As `makeDirectory`, but a directory that is there already will do. What is refused is told with
the names. -/
def ensureDirectory (root : FileTree) (name : Text) (above : List Text) :
    Except (FileError × List Text) FileTree :=
  match makeDirectory root name above with
  | .ok made => .ok made
  | .error e =>
    let names := (name :: above).reverse
    if root.leadsToDirectory names then .ok root else .error (e, names)

/-- The directories with these names, from the last to the first, made where they are missing. -/
def makeDirectoriesUp (root : FileTree) : List Text → Except (FileError × List Text) FileTree
  | [] => .ok root
  | name :: above =>
    match ensureDirectory root name above with
    -- Only a missing directory above is worth a second try.
    | .error (.notFound, _) => do
      let made ← makeDirectoriesUp root above
      ensureDirectory made name above
    | other => other

/-- The directories with these names made where they are missing. -/
def makeDirectories (root : FileTree) (names : List Text) :
    Except (FileError × List Text) FileTree :=
  makeDirectoriesUp root names.reverse

end FileTree

end SqlInventory
