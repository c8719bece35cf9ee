import SqlInventory.Text.Utf8
import SqlInventory.Workspace.Path

/-!
# File trees

The content of a workspace is a tree of directories with files and symbolic links. The operations of
this module go by places and follow no links.
-/

namespace SqlInventory

/-- A file, a symbolic link, or a directory with its entries. -/
inductive FileTree where
  /-- A file and its content. -/
  | file (content : Bytes)
  /-- A symbolic link and the path that it points to. -/
  | link (target : Text)
  /-- A directory. -/
  | directory (entries : List (Text × FileTree))
  deriving Repr

namespace FileTree

/-- The entries of a directory; there are none elsewhere. -/
def entries : FileTree → List (Text × FileTree)
  | .directory es => es
  | _ => []

/-- Whether this is a directory. -/
def isDirectory : FileTree → Bool
  | .directory _ => true
  | _ => false

/-- The entry of a directory with this name. -/
def child? (tree : FileTree) (name : Text) : Option FileTree :=
  (tree.entries.find? fun e => e.1 == name).map (·.2)

mutual

/-- How many links there are in a tree. -/
def linkCount : FileTree → Nat
  | .file _ => 0
  | .link _ => 1
  | .directory es => linkCountAmong es

/-- How many links there are in some entries of a directory. -/
def linkCountAmong : List (Text × FileTree) → Nat
  | [] => 0
  | (_, node) :: rest => linkCount node + linkCountAmong rest

end

/-- What is at a place. -/
def at? : FileTree → Place → Option FileTree
  | tree, [] => some tree
  | tree, name :: rest => (tree.child? name).bind fun child => child.at? rest

@[simp] theorem at?_nil (tree : FileTree) : tree.at? [] = some tree := by
  cases tree <;> rfl

/-- A place is looked up step by step: first what is at its front, then the rest from there. -/
theorem at?_append (tree : FileTree) (p q : Place) :
    tree.at? (p ++ q) = (tree.at? p).bind fun below => below.at? q := by
  induction p generalizing tree with
  | nil => simp
  | cons name rest ih =>
    cases h : tree.child? name with
    | none => simp [at?, h]
    | some child => simp [at?, h, ih child]

/-- Entries in which `name` is `node`: in its place if it is there, else at the end. -/
def putEntry (name : Text) (node : FileTree) : List (Text × FileTree) → List (Text × FileTree)
  | [] => [(name, node)]
  | e :: rest => if e.1 == name then (name, node) :: rest else e :: putEntry name node rest

/-- The name that was put is found with what was put there. -/
theorem find?_putEntry (name : Text) (node : FileTree) (es : List (Text × FileTree)) :
    (putEntry name node es).find? (fun e => e.1 == name) = some (name, node) := by
  induction es with
  | nil => simp [putEntry]
  | cons e rest ih =>
    by_cases h : e.1 == name
    · simp [putEntry, h]
    · simp [putEntry, h, ih]

/-- A tree with something put at a place; directories that are missing on the way are made. -/
def insert : Place → FileTree → FileTree → FileTree
  | [], node, _ => node
  | name :: rest, node, tree =>
    let child := (tree.child? name).getD (.directory [])
    .directory (putEntry name (insert rest node child) tree.entries)

/-- What was put at a place is there. -/
theorem at?_insert (place : Place) (node tree : FileTree) :
    (insert place node tree).at? place = some node := by
  induction place generalizing tree with
  | nil => simp [insert]
  | cons name rest ih =>
    simp [insert, at?, child?, entries, find?_putEntry, ih]

/-- A tree without what is at a place. -/
def erase : Place → FileTree → FileTree
  | [], _ => .directory []
  | [name], tree => .directory (tree.entries.filter fun e => e.1 != name)
  | name :: rest, tree =>
    match tree.child? name with
    | some child => .directory (putEntry name (erase rest child) tree.entries)
    | none => tree

mutual

/-- The files of a tree that is at `here`, with their content. -/
def filesAt (here : Place) : FileTree → List (Place × Bytes)
  | .file content => [(here, content)]
  | .link _ => []
  | .directory es => filesAmong here es

/-- The files of some entries of the directory at `here`. -/
def filesAmong (here : Place) : List (Text × FileTree) → List (Place × Bytes)
  | [] => []
  | (name, node) :: rest => filesAt (here ++ [name]) node ++ filesAmong here rest

end

/-- The files of a tree, with their content. -/
def files (tree : FileTree) : List (Place × Bytes) := filesAt [] tree

/-- The files of `later` that are not in `earlier` with the same content, in the order of their
paths. -/
def changedFiles (earlier later : FileTree) : List (Text × Bytes) :=
  let known := earlier.files
  ((later.files.filter fun f => !known.contains f).map fun f => (f.1.relative, f.2)).mergeSort
    fun a b => Text.atMost a.1 b.1

end FileTree

end SqlInventory
