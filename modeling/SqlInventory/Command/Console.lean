import SqlInventory.Command.Markup
import SqlInventory.Run.Outcome
import SqlInventory.Text.Columns

/-!
# What the terminal shows

The terminal is eighty columns wide, with a tab stop every eight. A longer line is broken before a
word, and a word that is wider than the terminal is broken inside. The counts of a run are shown as
a table.
-/

namespace SqlInventory.Console

/-- The width of the terminal. -/
def width : Nat := 80

/-! ### Lines -/

/-- The distance of tab stops. -/
def tabStop : Nat := 8

/-- A text that starts at a tab stop and ends in a tab, with spaces up to the next tab stop in the
place of the tab. The spaces belong to the spans that reach the tab. -/
def toTabStop (s : Styled) : Styled :=
  let spaced := s.text.dropLast ++ [' ']
  let filled := spaced ++ Text.fill ((tabStop - Text.columns spaced % tabStop) % tabStop) ' '
  { text := filled
    spans := s.spans.map fun (start, stop) =>
      (start, if stop = s.text.length then filled.length else stop) }

/-- A line with spaces in the place of tabs. -/
def expandTabs (line : Styled) : Styled :=
  let lengths := (Text.splitAtChar '\t' line.text).map List.length
  let parts := line.divide 0 (lengths.dropLast.map (· + 1) ++ lengths.getLast?.toList)
  (parts.dropLast.map toTabStop ++ parts.getLast?.toList).foldl Styled.append ⟨[], []⟩

/-- Takes one more character into the words to its right. -/
def addToWords (c : Char) : List Text → List Text
  | [] => [[c]]
  | word :: words =>
    if Text.isBlank c && word.head?.any fun d => !Text.isBlank d then [c] :: word :: words
    else (c :: word) :: words

/-- The words of a line, each with the blanks behind it. -/
def words (line : Text) : List Text :=
  match line.foldr addToWords [] with
  | blanks :: word :: rest =>
    if blanks.all Text.isBlank then (blanks ++ word) :: rest else blanks :: word :: rest
  | few => few

/-- Clusters in pieces of the terminal's width, behind an unfinished piece of `used` columns. -/
def piecesFrom (current : Text) (used : Nat) : List Text.Cluster → List Text
  | [] => [current]
  | c :: rest =>
    if width < used + c.columns then current :: piecesFrom c.text c.columns rest
    else piecesFrom (current ++ c.text) (used + c.columns) rest

/-- A word in pieces of the terminal's width. -/
def pieces (word : Text) : List Text :=
  piecesFrom [] 0 (Text.clusters word)

/-- A paragraph that is being broken into lines. -/
structure Filling where
  /-- The lines that are full. -/
  full : List Text := []
  /-- The line that is being filled. -/
  current : Text := []
  /-- The columns that its words take. -/
  used : Nat := 0
  deriving DecidableEq, Repr

/-- Puts a word behind what is there. The blanks behind a word may go beyond the width. -/
def Filling.place (f : Filling) (word : Text) : Filling :=
  let needed := Text.columns (Text.dropTrailing Text.isBlank word)
  if f.used + needed ≤ width then
    { f with current := f.current ++ word, used := f.used + Text.columns word }
  else
    let ended := if f.current.isEmpty then f.full else f.full ++ [f.current]
    if width < needed then
      let last := (pieces word).getLast?.getD []
      ⟨ended ++ (pieces word).dropLast, last, Text.columns last⟩
    else ⟨ended, word, Text.columns word⟩

/-- The lines of a paragraph, broken to the width of the terminal. -/
def foldLines (line : Text) : List Text :=
  let filling := (words line).foldl Filling.place {}
  filling.full ++ [filling.current]

/-- As much of some clusters as fits into `room` columns, filled up with spaces. -/
def fit (room : Nat) : List Text.Cluster → Text
  | [] => Text.fill room ' '
  | c :: rest =>
    if c.columns ≤ room then c.text ++ fit (room - c.columns) rest else Text.fill room ' '

/-- A text that takes at most `room` columns. -/
def crop (room : Nat) (t : Text) : Text :=
  if Text.columns t ≤ room then t else fit room (Text.clusters t)

/-- A line without the blanks at its end that go beyond as many characters as there are columns, and
then without what goes beyond the columns. -/
def cropLine (line : Styled) : Styled :=
  let trimmed := line.take (max width (Text.dropTrailing Text.isBlank line.text).length)
  let text := crop width trimmed.text
  { trimmed.take text.length with text }

/-- As many stretches as fit into `room` columns, the last of them cropped. -/
def fitStretches (room : Nat) : List Text → Text
  | [] => []
  | stretch :: rest =>
    if Text.columns stretch < room then
      stretch ++ fitStretches (room - Text.columns stretch) rest
    else crop room stretch

/-- What is sent of a line. Its stretches are measured one by one, which can come to more than the
line as a whole, because a joiner does not reach into the next stretch. -/
def sent (line : Styled) : Text :=
  let stretches := line.stretches
  let columns := stretches.foldl (fun total stretch => total + Text.columns stretch) 0
  if columns ≤ width then line.text else fitStretches width stretches

/-- A paragraph broken to the width of the terminal. -/
def fold (line : Styled) : List Text :=
  (line.divide 0 ((foldLines line.text).map List.length)).map fun part => sent (cropLine part)

/-- The lines of a text, broken to the width of the terminal. -/
def lines (s : Styled) : Text :=
  let paragraphs := s.divide 1 ((Text.splitAtChar '\n' s.text).map List.length)
  (paragraphs.flatMap fun line => fold (expandTabs line)).flatMap fun line => line ++ ['\n']

/-- A message in a style, as the terminal shows it. -/
def shown (style message : Text) : Except MarkupError Text :=
  (Markup.shown ("[" ++ style ++ "]" ++ message ++ "[/" ++ style ++ "]")).map lines

/-! ### The table of counts -/

/-- The rows for findings: labels and types. -/
def typeRows : List (Text × Text) :=
  [("SQL strings", "string"), ("SQL heredocs", "heredoc"), ("DBI calls", "dbi_call"),
    ("Undeclared variables", "missing_variable")]

/-- The rows of a table: those for findings, and those for files. -/
def tableRows (s : Summary) : List (Text × Text) × List (Text × Text) :=
  (typeRows.map fun (label, type) => (label, Text.ofNat (s.count type)),
    [("Files scanned", Text.ofNat s.filesScanned),
      ("Files with findings", Text.ofNat s.filesWithFindings),
      ("Files skipped", Text.ofNat s.filesSkipped)])

/-- The width of the column of labels. -/
def labelWidth : Nat := 20

/-- The width of the column of counts. -/
def countWidth (rows : List (Text × Text)) : Nat :=
  rows.foldl (fun most row => max most row.2.length) 5

/-- A row of a table, between vertical lines. -/
def row (line : Char) (counts : Nat) (entry : Text × Text) : Text :=
  line :: ' ' :: Text.padRight labelWidth entry.1 ++ ' ' :: line :: ' ' ::
    Text.padLeft counts entry.2 ++ [' ', line, '\n']

/-- A horizontal line of a table. -/
def rule (left line middle right : Char) (counts : Nat) : Text :=
  left :: Text.fill (labelWidth + 2) line ++ middle :: Text.fill (counts + 2) line ++ [right, '\n']

/-- The title of a table. -/
def title : Text := "SQL inventory"

/-- A line with the title in the middle. -/
def titleLine (total : Nat) : Text :=
  let room := total - title.length
  Text.fill (room / 2) ' ' ++ title ++ Text.fill (room - room / 2) ' ' ++ ['\n']

/-- The counts of a run as a table. -/
def table (s : Summary) : Text :=
  let (types, files) := tableRows s
  let counts := countWidth (types ++ files)
  titleLine (labelWidth + counts + 7) ++
    rule '┏' '━' '┳' '┓' counts ++
    row '┃' counts ("Finding type", "Count") ++
    rule '┡' '━' '╇' '┩' counts ++
    types.flatMap (row '│' counts) ++
    rule '├' '─' '┼' '┤' counts ++
    files.flatMap (row '│' counts) ++
    rule '└' '─' '┴' '┘' counts

end SqlInventory.Console
