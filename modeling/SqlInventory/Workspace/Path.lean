import SqlInventory.Text.Basic

/-!
# Paths

A path is written as names parted by slashes; empty names and single dots mean nothing. A path that
starts at the root of all files has the root as its first name. Where a file really is, is a
`Place`: the names on the way to it from the workspace's own directory. A place outside the
workspace starts with the root, or with steps upwards.
-/

namespace SqlInventory

/-- The names on the way from the workspace's directory to a file. -/
abbrev Place : Type := List Text

namespace Path

/-- The name that means the directory above. -/
def above : Text := ['.', '.']

/-- Whether a path starts at the root of all files. -/
def isAbsolute (path : Text) : Bool := path.head? == some '/'

/-- The name of the root at which a path starts. Two slashes, and no more, are a root of their
own. -/
def rootOf? (path : Text) : Option Text :=
  if !isAbsolute path then none
  else if (path.takeWhile (· == '/')).length = 2 then some ['/', '/']
  else some ['/']

/-- The names in a path. -/
def parts (path : Text) : List Text :=
  (rootOf? path).toList ++
    (Text.splitAtChar '/' path).filter fun name => !(name.isEmpty || name == ['.'])

/-- Names as a path; no names are a single dot. -/
def ofParts : List Text → Text
  | [] => ['.']
  | first :: rest =>
    if isAbsolute first then first ++ Text.joinWith ['/'] rest
    else Text.joinWith ['/'] (first :: rest)

/-- A path with further names at its end, and without what means nothing in it. -/
def extend (path : Text) (names : List Text) : Text :=
  ofParts (parts path ++ names)

/-- A path without what means nothing in it. -/
def tidy (path : Text) : Text := extend path []

/-- The suffix of a name: from its last dot on, unless the dot comes first or last. -/
def suffix (name : Text) : Text :=
  let tail := (name.reverse.takeWhile (· != '.')).reverse
  if name.contains '.' && !tail.isEmpty && tail.length + 1 < name.length then '.' :: tail else []

/-- A name with another suffix in place of its own. -/
def renamed (name newSuffix : Text) : Text :=
  name.take (name.length - (suffix name).length) ++ newSuffix

/-- A path whose last name has another suffix; a path without names has none to change. -/
def withSuffix? (path newSuffix : Text) : Option Text :=
  match (parts path).getLast? with
  | none => none
  | some name =>
    if isAbsolute name then none
    else some (ofParts ((parts path).dropLast ++ [renamed name newSuffix]))

end Path

namespace Place

/-- The directory above. Above the root there is only the root. -/
def up (place : Place) : Place :=
  if place.all (· == Path.above) then place ++ [Path.above]
  else if place.length = 1 && place.all Path.isAbsolute then place
  else place.dropLast

/-- Where a name leads from the directory at `here` if it is not looked up there: a step upwards, or
the root. -/
def jump? (here : Place) (name : Text) : Option Place :=
  if name == Path.above then some here.up
  else if Path.isAbsolute name then some [name]
  else none

/-- Whether a place is a directory that is there in any case: a root, or above the workspace. -/
def isGiven (place : Place) : Bool :=
  place.all (· == Path.above) || (place.length = 1 && place.all Path.isAbsolute)

/-- Whether a place is in the workspace. -/
def isInside (place : Place) : Bool :=
  place.head?.all fun name => !(name == Path.above || Path.isAbsolute name)

/-- A place relative to the workspace. -/
def relative (place : Place) : Text := Path.ofParts place

/-- A place in full, for a workspace whose directory is `origin`. -/
def absolute (origin : Text) (place : Place) : Text :=
  if place.head?.any Path.isAbsolute then Path.ofParts place
  else Text.joinWith ['/'] (origin :: place)

end Place

end SqlInventory
