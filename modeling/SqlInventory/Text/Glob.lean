import SqlInventory.Text.Basic

/-!
# Glob patterns

In a pattern `*` stands for any stretch, `?` for any one character, and `[…]` for one character of
a set, or, as `[!…]`, for one outside it; a slash is a character like any other. A set lists
characters and ranges; a closing bracket that comes first in it is a member, and an opening bracket
that is never closed stands for itself.

A range whose ends are in the wrong order is empty, and it is dropped before the set is read. So a
`!` that only such ranges stand in front of turns the set around as if it came first.
-/

namespace SqlInventory

/-- What a set lists: a character, or all characters from one to another. -/
inductive Glob.Item where
  /-- The character itself. -/
  | char (c : Char)
  /-- Every character from `low` to `high`. -/
  | range (low high : Char)
  deriving DecidableEq, Repr

/-- One part of a glob pattern. -/
inductive Glob.Part where
  /-- Any stretch, the empty one included. -/
  | anything
  /-- Any one character. -/
  | anyChar
  /-- One character among the items, or, if `negated`, outside all of them. -/
  | oneOf (negated : Bool) (items : List Glob.Item)
  /-- The character itself. -/
  | exactly (c : Char)
  deriving DecidableEq, Repr

/-- A glob pattern is a sequence of parts. -/
abbrev Glob : Type := List Glob.Part

namespace Glob

/-- The items that a set writes down; a hyphen between two characters makes a range of them. -/
def itemsOf : Text → List Item
  | [] => []
  | a :: '-' :: b :: rest => .range a b :: itemsOf rest
  | a :: rest => .char a :: itemsOf rest

/-- Whether an item is a range whose ends are in the wrong order. -/
def Item.isEmpty : Item → Bool
  | .char _ => false
  | .range low high => decide (high < low)

/-- Items without the empty ranges. -/
def proper (items : List Item) : List Item :=
  items.filter fun item => !item.isEmpty

/-- What is left of the items of a set that a `!` at their front turns around. If a range starts
with the `!`, its hyphen and its end are left as characters. -/
def turned? : List Item → Option (List Item)
  | .char '!' :: others => some others
  | .range '!' high :: others => some (.char '-' :: .char high :: others)
  | _ => none

/-- The set with this inside. -/
def setOf (inside : Text) : Part :=
  if inside.head? = some '!' then .oneOf true (proper (itemsOf inside.tail))
  else
    let items := proper (itemsOf inside)
    match turned? items with
    | some others => .oneOf true others
    | none => .oneOf false items

/-- The inside of a set and what follows its closing bracket, in the text behind the opening one.
The first character, or the first behind a `!`, may itself be a closing bracket. -/
def setInside? (t : Text) : Option (Text × Text) :=
  let first := if t.head? = some '!' then 2 else 1
  match (t.drop first).dropWhile (· != ']') with
  | [] => none
  | _ :: rest => some (t.take first ++ (t.drop first).takeWhile (· != ']'), rest)

/-- The parts of a pattern of which `skip` characters belong to the last set. -/
def parseFrom : Nat → Text → Glob
  | _, [] => []
  | skip + 1, _ :: rest => parseFrom skip rest
  | 0, c :: rest =>
    if c = '*' then .anything :: parseFrom 0 rest
    else if c = '?' then .anyChar :: parseFrom 0 rest
    else if c = '[' then
      match setInside? rest with
      | some (inside, _) => setOf inside :: parseFrom (inside.length + 1) rest
      | none => .exactly '[' :: parseFrom 0 rest
    else .exactly c :: parseFrom 0 rest

/-- The pattern that a text denotes. -/
def ofText (t : Text) : Glob :=
  parseFrom 0 t

/-- Whether an item stands for `c`. -/
def Item.holds (item : Item) (c : Char) : Bool :=
  match item with
  | .char d => c == d
  | .range low high => decide (low ≤ c) && decide (c ≤ high)

/-- Whether a part that stands for one character takes `c`. -/
def Part.takes (part : Part) (c : Char) : Bool :=
  match part with
  | .anything => false
  | .anyChar => true
  | .oneOf negated items => items.any (·.holds c) != negated
  | .exactly d => c == d

/-- For each member, whether it or a later one is true. -/
def anyBehind : List Bool → List Bool
  | [] => []
  | b :: rest =>
    let later := anyBehind rest
    (b || later.head?.getD false) :: later

/-- Which suffixes of a text, from the text itself to the empty one, a pattern matches. Each part is
compared with each suffix once, however many stretches the pattern has. -/
def matchedSuffixes : Glob → Text → List Bool
  | [], t => t.map (fun _ => false) ++ [true]
  | .anything :: parts, t => anyBehind (matchedSuffixes parts t)
  | part :: parts, t =>
    ((t.zip (matchedSuffixes parts t).tail).map fun (c, rest) => part.takes c && rest) ++ [false]

/-- Whether a pattern matches the whole of a text. -/
def accepts (pattern : Glob) (t : Text) : Bool :=
  (matchedSuffixes pattern t).head?.getD false

end Glob

end SqlInventory
