import SqlInventory.Json.Basic

/-!
# Writing JSON

Text is written in printable ASCII: any other character is escaped, by a letter or by its UTF-16
units, of which there are two above U+FFFF. There are two layouts: everything on one line, and
members and items on lines of their own with an indent of two spaces per level.
-/

namespace SqlInventory.Json

/-- The escape of a UTF-16 unit. -/
def unitEscape (unit : Nat) : Text :=
  "\\u".toList ++ Text.hex 4 unit

/-- How a character is written in a string. -/
def escapeChar (c : Char) : Text :=
  if c = '"' then ['\\', '"']
  else if c = '\\' then ['\\', '\\']
  else if c = '\n' then ['\\', 'n']
  else if c = '\r' then ['\\', 'r']
  else if c = '\t' then ['\\', 't']
  else if c.toNat = 8 then ['\\', 'b']
  else if c.toNat = 12 then ['\\', 'f']
  else if 32 ≤ c.toNat ∧ c.toNat < 127 then [c]
  else if c.toNat < 0x10000 then unitEscape c.toNat
  else
    let n := c.toNat - 0x10000
    unitEscape (0xD800 + n / 0x400) ++ unitEscape (0xDC00 + n % 0x400)

/-- A text as a JSON string. -/
def stringText (t : Text) : Text :=
  ['"'] ++ t.flatMap escapeChar ++ ['"']

/-- A number of double precision as JSON. -/
def numberText : Double → Text
  | .undefined => "NaN"
  | .infinite negative => if negative then "-Infinity" else "Infinity"
  | d => d.text

/-- Values without parts. -/
def scalarText : Json → Text
  | .null => "null"
  | .bool b => if b then "true" else "false"
  | .integer n => Text.ofInt n
  | .decimal d => numberText d
  | .string t => stringText t
  | .array _ => "[]"
  | .object _ => "\x7b\x7d"

/-! ### On one line -/

mutual

/-- A value on one line. -/
def compact : Json → Text
  | .array items => ['['] ++ Text.joinWith ", " (compactAll items) ++ [']']
  | .object members => ['{'] ++ Text.joinWith ", " (compactMembers members) ++ ['}']
  | value => scalarText value

/-- The items of an array. -/
def compactAll : List Json → List Text
  | [] => []
  | item :: rest => compact item :: compactAll rest

/-- The members of an object. -/
def compactMembers : List (Text × Json) → List Text
  | [] => []
  | (key, value) :: rest => (stringText key ++ ": " ++ compact value) :: compactMembers rest

end

/-! ### On several lines -/

/-- A new line at a level. -/
def newline (level : Nat) : Text :=
  '\n' :: Text.fill (2 * level) ' '

/-- The parts of an array or object at a level, each on a line of its own. -/
def block (level : Nat) (opening closing : Char) (parts : List Text) : Text :=
  match parts with
  | [] => [opening, closing]
  | _ =>
    [opening] ++ newline (level + 1) ++ Text.joinWith (',' :: newline (level + 1)) parts ++
      newline level ++ [closing]

mutual

/-- A value at a level, its parts on lines of their own. -/
def indented (level : Nat) : Json → Text
  | .array items => block level '[' ']' (indentedAll (level + 1) items)
  | .object members => block level '{' '}' (indentedMembers (level + 1) members)
  | value => scalarText value

/-- The items of an array. -/
def indentedAll (level : Nat) : List Json → List Text
  | [] => []
  | item :: rest => indented level item :: indentedAll level rest

/-- The members of an object. -/
def indentedMembers (level : Nat) : List (Text × Json) → List Text
  | [] => []
  | (key, value) :: rest =>
    (stringText key ++ ": " ++ indented level value) :: indentedMembers level rest

end

end SqlInventory.Json
