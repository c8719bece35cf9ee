import SqlInventory.Text.Basic

/-!
# Splitting a column list

A column list is split at the commas outside of parentheses. Closing parentheses without an opening
one are taken as they come, so the depth never falls below zero. An empty cell behind the very last
comma is left out, unless it is the only one.
-/

namespace SqlInventory

/-- The cells of a column list at a depth of parentheses, as they stand between the commas. -/
def cellsFrom : Nat → Text → List Text
  | _, [] => [[]]
  | depth, c :: rest =>
    if c = ',' ∧ depth = 0 then [] :: cellsFrom 0 rest
    else
      let next := if c = '(' then depth + 1 else if c = ')' then depth - 1 else depth
      match cellsFrom next rest with
      | [] => [[c]]
      | cell :: cells => (c :: cell) :: cells

/-- Cells without an empty one behind the last comma. -/
def dropEmptyLast (cells : List Text) : List Text :=
  if 1 < cells.length && cells.getLast? == some [] then cells.dropLast else cells

/-- The columns of a column list. -/
def splitColumns (t : Text) : List Text :=
  (dropEmptyLast (cellsFrom 0 t)).map Text.strip

end SqlInventory
