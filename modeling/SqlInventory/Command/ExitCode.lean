import SqlInventory.Text.Basic

/-!
# Exit codes

A scan says by its exit code how it ended. From three on, the code means that the scan itself could
not be done.
-/

namespace SqlInventory

/-- How a scan may end. -/
inductive Ending where
  /-- All went well. -/
  | success
  /-- Variables without an SQL literal were found, and that was to be an error. -/
  | undeclared
  /-- No file could be read. -/
  | incomplete
  deriving DecidableEq, Repr

namespace Ending

/-- The exit code of an ending. -/
def code : Ending → Int
  | .success => 0
  | .undeclared => 1
  | .incomplete => 3

/-- An ending in words. -/
def description : Ending → Text
  | .success => "Success - scan completed"
  | .undeclared => "SQL variables used in DBI calls without an in-file declaration"
  | .incomplete => "Scan could not be completed (no readable source files)"

/-- All endings. -/
def all : List Ending := [.success, .undeclared, .incomplete]

end Ending

/-- An exit code in words. -/
def describeCode (code : Int) : Text :=
  match Ending.all.find? fun e => e.code == code with
  | some ending => ending.description
  | none => "Unknown exit code: " ++ Text.ofInt code

/-- Whether an exit code stands for a scan that could not be done. -/
def failsPipeline (code : Int) : Bool :=
  decide (Ending.incomplete.code ≤ code)

end SqlInventory
