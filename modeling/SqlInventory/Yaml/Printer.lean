import SqlInventory.Json.Printer
import SqlInventory.Yaml.Scalar

/-!
# Writing YAML in block style

Members and items stand on lines of their own. A list under a key is not indented further than the
key. A long text is folded: where a line is already wider than the width of the format, a single
space becomes a line break and an indent.

Every writer gives text that ends its line, so lines are simply put after each other; only a literal
block may end with the break that the text itself ends with.
-/

namespace SqlInventory.Yaml

/-- The choices of a format. -/
structure Style where
  /-- A line is folded where it is wider than this. -/
  width : Nat
  /-- Whether a text of several lines is written as a literal block. -/
  literalBlocks : Bool
  deriving DecidableEq, Repr

/-- A new line with an indent. -/
def foldTo (indent : Nat) : Text :=
  '\n' :: Text.fill indent ' '

/-! ### Plain and single quoted -/

/-- The text between single quotes, or the plain text if `quote` is false, from column `column` on;
`before` is the character before it, and `fold` tells whether lines may be folded. -/
def flowFrom (style : Style) (indent : Nat) (fold quote : Bool) :
    Option Char → Nat → Text → Text
  | _, _, [] => []
  | before, column, c :: rest =>
    let after := rest.head?
    if c = ' ' then
      let single := before.any (· != ' ') && after.any (· != ' ')
      if fold && single && decide (style.width < column) then
        foldTo indent ++ flowFrom style indent fold quote (some c) indent rest
      else ' ' :: flowFrom style indent fold quote (some c) (column + 1) rest
    else if isBreak c then
      let first : Text := if c = '\n' && !before.any isBreak then ['\n'] else []
      if after.any isBreak then
        first ++ c :: flowFrom style indent fold quote (some c) 0 rest
      else first ++ c :: Text.fill indent ' ' ++
        flowFrom style indent fold quote (some c) indent rest
    else if quote && c = '\'' then
      '\'' :: '\'' :: flowFrom style indent fold quote (some c) (column + 2) rest
    else c :: flowFrom style indent fold quote (some c) (column + 1) rest

/-! ### Double quoted -/

/-- The characters with a short escape. -/
def shortEscapes : List (Nat × Char) :=
  [(0, '0'), (7, 'a'), (8, 'b'), (9, 't'), (10, 'n'), (11, 'v'), (12, 'f'), (13, 'r'), (27, 'e'),
    (34, '"'), (92, '\\'), (0x85, 'N'), (0xA0, '_'), (0x2028, 'L'), (0x2029, 'P')]

/-- Whether a character stands for itself in double quotes. -/
def standsForItself (c : Char) : Bool :=
  let n := c.toNat
  c != '"' && c != '\\' && n != 0x2028 && n != 0x2029 && n != 0xFEFF &&
    ((0x20 ≤ n && n ≤ 0x7E) || (0xA0 ≤ n && n ≤ 0xD7FF) || (0xE000 ≤ n && n ≤ 0xFFFD))

/-- A hexadecimal numeral in capitals. -/
def capitalHex (width n : Nat) : Text :=
  (Text.hex width n).map Char.toUpper

/-- The escape of a character. -/
def escape (c : Char) : Text :=
  let n := c.toNat
  match shortEscapes.find? fun e => e.1 == n with
  | some (_, short) => ['\\', short]
  | none =>
    if n ≤ 0xFF then "\\x".toList ++ capitalHex 2 n
    else if n ≤ 0xFFFF then "\\u".toList ++ capitalHex 4 n
    else "\\U".toList ++ capitalHex 8 n

/-- The text between double quotes. `column` is the column behind what is written; `pending` holds,
last first, the characters behind it that are not written yet. A line is broken before a space, or
behind an escape, once what is pending would pass the width. -/
def doubleFrom (style : Style) (indent : Nat) (fold : Bool) :
    (atStart : Bool) → (column : Nat) → (pending : Text) → Text → Text
  | _, _, pending, [] => pending.reverse
  | atStart, column, pending, c :: rest =>
    let inside := fold && !atStart && !rest.isEmpty
    if standsForItself c then
      if inside && (c == ' ' || pending.isEmpty) &&
          decide (style.width < column + pending.length) then
        -- A space at the start of a line would be lost, so a backslash comes before it.
        let guarded : Text := if c = ' ' then ['\\'] else []
        pending.reverse ++ '\\' :: foldTo indent ++ guarded ++
          doubleFrom style indent fold false (indent + guarded.length) [c] rest
      else doubleFrom style indent fold false column (c :: pending) rest
    else
      let written := pending.reverse ++ escape c
      let reached := column + written.length
      if inside && decide (style.width + 1 < reached) then
        let guarded : Text := if rest.head? = some ' ' then ['\\'] else []
        written ++ '\\' :: foldTo indent ++ guarded ++
          doubleFrom style indent fold false (indent + guarded.length) [] rest
      else written ++ doubleFrom style indent fold false reached [] rest

/-! ### Literal blocks -/

/-- The marks behind the bar: an indent if the text starts with a space or break, and what happens
to the breaks at its end. -/
def blockHints (t : Text) : Text :=
  let start : Text := if t.head?.any fun c => c == ' ' || isBreak c then ['2'] else []
  let chomp : Text := match t.reverse with
    | last :: before =>
      if !isBreak last then ['-']
      else match before with
        | [] => ['+']
        | c :: _ => if isBreak c then ['+'] else []
    | [] => []
  start ++ chomp

/-- The lines of a literal block, each non-empty one behind the indent; `fresh` tells whether a new
line has just been started. -/
def literalLines (indent : Nat) : (fresh : Bool) → Text → Text
  | fresh, [] => if fresh then [] else ['\n']
  | fresh, c :: rest =>
    if isBreak c then c :: literalLines indent true rest
    else if fresh then Text.fill indent ' ' ++ c :: literalLines indent false rest
    else c :: literalLines indent false rest

/-! ### Scalars -/

/-- A text as a scalar that starts at `column`, without the end of its line. -/
def quotedOrPlain (style : Style) (indent column : Nat) (isKey : Bool) (t : Text) : Text :=
  let fold := !isKey
  let multiline := t.any isBreak
  let block := style.literalBlocks && t.contains '\n'
  if !block && plainAllowed t && !readsAsOther t then
    flowFrom style indent fold false none column t
  else if !block && singleAllowed t && !(isKey && multiline) then
    ['\''] ++ flowFrom style indent fold true none (column + 1) t ++ ['\'']
  else ['"'] ++ doubleFrom style indent fold true (column + 1) [] t ++ ['"']

/-- A text as a scalar at the end of a line, which starts at `column`. -/
def textLine (style : Style) (indent column : Nat) (t : Text) : Text :=
  if style.literalBlocks && t.contains '\n' && blockAllowed t then
    '|' :: blockHints t ++ '\n' :: literalLines indent true t
  else quotedOrPlain style indent column false t ++ ['\n']

/-- A value without parts at the end of a line. -/
def scalarLine (style : Style) (indent column : Nat) (value : Json) : Text :=
  match value with
  | .string t => textLine style indent column t
  | other => Json.scalarText other ++ ['\n']

/-! ### Collections -/

/-- Whether a key can stand before its colon: it is short, not empty, and on one line. -/
def isSimpleKey (key : Text) : Bool :=
  !key.isEmpty && !key.any isBreak && decide (key.length < 123)

/-- Whether a value has parts. -/
def hasParts : Json → Bool
  | .array items => !items.isEmpty
  | .object members => !members.isEmpty
  | _ => false

mutual

/-- A value behind an indicator on the same line; its parts are indented by `indent`, and the line
has reached the column before that indent. -/
def inlineValue (style : Style) (indent : Nat) : Json → Text
  | .array items =>
    if items.isEmpty then " []\n" else ' ' :: itemLines style indent true items
  | .object members =>
    if members.isEmpty then " \x7b\x7d\n" else ' ' :: memberLines style indent true members
  | scalar => ' ' :: scalarLine style indent indent scalar

/-- The value of a key that takes `column` columns with its colon, in a mapping with this indent. -/
def keyValue (style : Style) (indent column : Nat) : Json → Text
  | .array items =>
    if items.isEmpty then " []\n" else '\n' :: itemLines style indent false items
  | .object members =>
    if members.isEmpty then " \x7b\x7d\n" else '\n' :: memberLines style (indent + 2) false members
  | scalar => ' ' :: scalarLine style (indent + 2) (column + 1) scalar

/-- The items of a list with this indent; `inline` tells whether the first needs none. -/
def itemLines (style : Style) (indent : Nat) : (inline : Bool) → List Json → Text
  | _, [] => []
  | inline, item :: rest =>
    (if inline then [] else Text.fill indent ' ') ++ '-' ::
      inlineValue style (indent + 2) item ++ itemLines style indent false rest

/-- The members of a mapping with this indent; `inline` tells whether the first needs none. -/
def memberLines (style : Style) (indent : Nat) : (inline : Bool) → List (Text × Json) → Text
  | _, [] => []
  | inline, (key, value) :: rest =>
    let pad : Text := if inline then [] else Text.fill indent ' '
    let written : Text :=
      if isSimpleKey key then
        let shown := quotedOrPlain style (indent + 2) indent true key
        shown ++ ':' :: keyValue style indent (indent + shown.length + 1) value
      else
        "? " ++ textLine style (indent + 2) (indent + 2) key ++ Text.fill indent ' ' ++ ':' ::
          inlineValue style (indent + 2) value
    pad ++ written ++ memberLines style indent false rest

end

/-- A document that consists of this value. -/
def document (style : Style) (value : Json) : Text :=
  match value with
  | .array items => if items.isEmpty then "[]\n" else itemLines style 0 false items
  | .object members => if members.isEmpty then "\x7b\x7d\n" else memberLines style 0 false members
  | scalar => scalarLine style 0 0 scalar

end SqlInventory.Yaml
