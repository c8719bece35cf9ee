import SqlInventory.Text.Basic
import SqlInventory.Text.Matching

/-!
# Markers in a statement

A marker `__name__` is a slot of a statement. The marker of the entity stays in its place and is
listed as a placeholder; every other marker becomes a question mark and is listed, once, as a bind.
The name of a marker is the shortest stretch of at least one character, none of them a newline, that
two underscores follow.
-/

namespace SqlInventory

/-- The two underscores around a marker's name. -/
def markerFence : Text := ['_', '_']

/-- The name at the front of a text that is closed by two underscores, of which at least one
character is still to come if `needed`. -/
def markerName? : (needed : Bool) → Text → Option Text
  | _, [] => none
  | needed, c :: rest =>
    if !needed && markerFence.isPrefixOf (c :: rest) then some []
    else if c = '\n' then none
    else (markerName? false rest).map (c :: ·)

/-- Recognises a marker and gives its name. -/
def markerRule : Recogniser Char Text := fun _ t =>
  if markerFence.isPrefixOf t then
    (markerName? true (t.drop 2)).map fun name => (name.length + 4, name)
  else none

/-- The name of the marker that stays. -/
def entityName : Text := "ENTITY"

/-- A marker as it is written. -/
def markerText (name : Text) : Text :=
  markerFence ++ name ++ markerFence

/-- The names of the markers of a statement, each once, in order. -/
def markerNames (sql : Text) : List Text :=
  ((markerRule.findAll sql).map (·.value)).eraseDups

/-- A statement with its slots taken out. -/
structure Slotted where
  /-- The statement with question marks. -/
  sql : Text
  /-- The value for the entity, if the statement has a slot for it. -/
  placeholders : List (Text × Text)
  /-- The markers that became question marks, each once. -/
  binds : List Text
  deriving DecidableEq, Repr

/-- A statement with question marks in the place of its markers, the entity's apart. -/
def substituteMarkers (sql : Text) : Text :=
  Recogniser.replaceAll (fun before t => (markerRule before t).map fun (n, name) =>
    (n, if name = entityName then markerText name else ['?'])) sql

/-- A statement with its slots taken out; the entity's slot is to be filled with `entityValue`. -/
def extractMarkers (sql entityValue : Text) : Slotted where
  sql := substituteMarkers sql
  placeholders := if (markerNames sql).contains entityName then [(entityName, entityValue)] else []
  binds := ((markerNames sql).filter (· != entityName)).map markerText

end SqlInventory
