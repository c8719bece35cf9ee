import SqlInventory.Catalog.Columns
import SqlInventory.Text.Matching
import SqlInventory.Text.WholeWord

/-!
# Laying out a statement

A statement is written with one clause per line and its keywords in capitals. The layout is a
sequence of passes, each over the whole text: blanks are collapsed, keywords are
capitalised from the longest to the shortest, clauses start new lines, the first list of columns is
split, `AND` and `OR` start new lines, and spaces around commas and parentheses are made regular.

No pass looks for string constants, so a constant that looks like a clause is laid out like one.
-/

namespace SqlInventory.Layout

/-! ### Keywords -/

/-- The keywords, each a sequence of words, in the order in which they are capitalised. -/
def keywords : List (List Text) :=
  [["right", "join"], ["inner", "join"], ["left", "join"], ["group", "by"], ["order", "by"],
    ["select"], ["having"], ["where"], ["limit"], ["from"], ["join"], ["and"], ["on"], ["or"],
    ["as"]]

/-- The length of a phrase at the front of a text: its words, case ignored, with one or more blanks
between them. -/
def phraseLength? : List Text → Text → Option Nat
  | [], _ => some 0
  | [word], t => if Text.isFrontOf word t then some word.length else none
  | word :: next :: others, t =>
    if Text.isFrontOf word t then
      let rest := t.drop word.length
      let blanks := (rest.takeWhile Text.isBlank).length
      if blanks = 0 then none
      else (phraseLength? (next :: others) (rest.drop blanks)).map (word.length + blanks + ·)
    else none

/-- Recognises a phrase that stands between boundaries and gives it in capitals. -/
def capitalRule (phrase : List Text) : Recogniser Char Text := fun before t =>
  if Text.isBoundary before t.head? then
    match phraseLength? phrase t with
    | some n =>
      if Text.isBoundary (t.take n).getLast? (t.drop n).head? then
        some (n, Text.upper (t.take n))
      else none
    | none => none
  else none

/-- Every keyword in capitals. -/
def capitalise (t : Text) : Text :=
  keywords.foldl (fun u phrase => (capitalRule phrase).replaceAll u) t

/-! ### Clauses -/

/-- The words that start a clause, in the order in which they are tried. -/
def clauseWords : List Text :=
  ["LEFT JOIN", "RIGHT JOIN", "INNER JOIN", "GROUP BY", "ORDER BY", "FROM", "WHERE", "HAVING",
    "LIMIT", "JOIN", "ON"]

/-- How many blanks a text starts with. -/
def blankCount (t : Text) : Nat :=
  (t.takeWhile Text.isBlank).length

/-- Recognises blanks and the word that starts a clause, and puts the word on a new line. -/
def clauseRule : Recogniser Char Text := fun _ t =>
  let blanks := blankCount t
  if blanks = 0 then none
  else match Text.wholeWord? clauseWords (t.take blanks).getLast? (t.drop blanks) with
    | some word => some (blanks + word.length, '\n' :: Text.upper word)
    | none => none

/-- Every clause on a new line. -/
def breakClauses (t : Text) : Text :=
  clauseRule.replaceAll t

/-! ### The first list of columns -/

/-- Blanks, `FROM` and blanks at the front of a text: how many characters they take. -/
def fromLength? (t : Text) : Option Nat :=
  let blanks := blankCount t
  let rest := t.drop blanks
  let after := blankCount (rest.drop 4)
  if blanks ≠ 0 ∧ rest.take 4 = "FROM".toList ∧ after ≠ 0 then some (blanks + 4 + after) else none

/-- The shortest stretch of a text that `FROM` between blanks follows, and how many characters that
takes. -/
def columnsBeforeFrom? : Text → Option (Text × Nat)
  | [] => none
  | c :: rest =>
    match fromLength? (c :: rest) with
    | some n => some ([], n)
    | none => (columnsBeforeFrom? rest).map fun (columns, n) => (c :: columns, n)

/-- The columns behind `blanks` blanks of a text, or behind fewer: the blanks taken, the columns,
and the length of the `FROM` behind them. -/
def columnsAfterBlanks? (t : Text) : Nat → Option (Nat × Text × Nat)
  | 0 => none
  | blanks + 1 =>
    match columnsBeforeFrom? (t.drop (blanks + 1)) with
    | some (columns, n) => some (blanks + 1, columns, n)
    | none => columnsAfterBlanks? t blanks

/-- Recognises `SELECT`, blanks, columns, and `FROM` between blanks, and gives the columns. -/
def columnsRule : Recogniser Char Text := fun _ t =>
  if t.take 6 = "SELECT".toList then
    let rest := t.drop 6
    -- As many blanks as possible go before the columns; they may be given back.
    (columnsAfterBlanks? rest (blankCount rest)).map fun (blanks, columns, n) =>
      (6 + blanks + columns.length + n, columns)
  else none

/-- The first list of columns with each column on a line of its own, if there are several. -/
def splitFirstColumns (t : Text) : Text :=
  match columnsRule.find? t with
  | some m =>
    let columns := splitColumns m.value
    if 1 < columns.length then
      t.take m.start ++ "SELECT\n  " ++ Text.joinWith ",\n  " columns ++ "\nFROM " ++ t.drop m.stop
    else t
  | none => t

/-! ### Conditions -/

/-- Recognises a word between blanks and puts it on a new line. -/
def conditionRule (word : Text) : Recogniser Char Text := fun _ t =>
  let blanks := blankCount t
  let rest := t.drop blanks
  let after := blankCount (rest.drop word.length)
  if blanks ≠ 0 ∧ after ≠ 0 ∧ Text.isFrontOf word rest then
    some (blanks + word.length + after, "\n  " ++ word ++ " ")
  else none

/-- Every `AND` and every `OR` between blanks on a new line. -/
def breakConditions (t : Text) : Text :=
  (conditionRule "OR").replaceAll ((conditionRule "AND").replaceAll t)

/-! ### Spacing -/

/-- How many spaces and tabs a text starts with. -/
def gapCount (t : Text) : Nat :=
  (t.takeWhile fun c => c == ' ' || c == '\t').length

/-- Recognises spaces and tabs before `c`, and writes `out` for them and `c`. -/
def gapBefore (c : Char) (out : Text) : Recogniser Char Text := fun _ t =>
  let gap := gapCount t
  if gap ≠ 0 ∧ (t.drop gap).head? = some c then some (gap + 1, out) else none

/-- Recognises spaces and tabs behind `c`, and writes `out` for `c` and them. -/
def gapAfter (c : Char) (out : Text) : Recogniser Char Text := fun _ t =>
  let gap := gapCount (t.drop 1)
  if t.head? = some c ∧ gap ≠ 0 then some (gap + 1, out) else none

/-- Regular spaces around commas and parentheses. -/
def regularSpaces (t : Text) : Text :=
  let t := (gapBefore ',' [',']).replaceAll t
  let t := (gapAfter ',' [',', ' ']).replaceAll t
  let t := (gapBefore '(' [' ', '(']).replaceAll t
  let t := (gapAfter '(' ['(']).replaceAll t
  (gapBefore ')' [')']).replaceAll t

/-- Every line without the blanks around it. -/
def stripLines (t : Text) : Text :=
  Text.joinWith ['\n'] ((Text.splitAtChar '\n' t).map Text.strip)

/-- A statement laid out. -/
def layOut (sql : Text) : Text :=
  stripLines (regularSpaces (breakConditions (splitFirstColumns (breakClauses (capitalise
    (Text.strip (Text.collapse sql)))))))

end SqlInventory.Layout
