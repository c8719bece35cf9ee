import SqlInventory.Text.Basic

/-!
# Snippets

Text is shown on one line, cut to a limit, and without double quotes. A cut is marked by three dots,
which come on top of the limit.
-/

namespace SqlInventory

/-- The mark of a cut. -/
def cutMark : Text := ['.', '.', '.']

/-- A text cut to `limit` characters, with a mark if it is longer. -/
def truncate (t : Text) (limit : Int) : Text :=
  Text.upTo t limit ++ if limit < t.length then cutMark else []

/-- A text on one line, cut to `limit` characters, double quotes written as single ones. -/
def snippet (t : Text) (limit : Int) : Text :=
  Text.replaceChar '"' '\'' (truncate (Text.collapse t) limit)

end SqlInventory
