import SqlInventory.Text.WholeWord

/-!
# The vocabulary of an audit

An audit is told by word lists what reads like SQL, which words name a statement, which methods run
one, and which variables are never worth reporting, and by two numbers how much text to show.
-/

namespace SqlInventory

/-- The word lists and limits of an audit. -/
structure Vocabulary where
  /-- Words that make a literal read like SQL. -/
  sqlKeywords : List Text :=
    ["SELECT", "INSERT", "UPDATE", "DELETE", "CREATE", "ALTER", "DROP", "FROM", "WHERE", "JOIN",
      "INTO"]
  /-- Words that say what a statement does. -/
  nameVerbs : List Text :=
    ["SELECT", "INSERT", "UPDATE", "DELETE", "CREATE", "ALTER", "DROP"]
  /-- Methods that run a statement. -/
  callVerbs : List Text :=
    ["prepare", "prepare_cached", "do", "execute", "selectall_arrayref", "selectall_hashref",
      "selectrow_array", "selectrow_arrayref", "selectrow_hashref", "selectcol_arrayref"]
  /-- Variables that are never reported: the usual handles and the obvious non-SQL ones. -/
  ignoredVariables : List Text := ["$dbh", "$sth", "$_", "$self", "$0"]
  /-- How many characters of a text are shown; counted from the end of the text if negative. -/
  snippetLimit : Int := 200
  /-- How many characters around a call are shown on either side. -/
  contextRadius : Int := 40
  deriving DecidableEq, Repr

namespace Vocabulary

/-- Whether a text reads like SQL. -/
def isSql (v : Vocabulary) (t : Text) : Bool :=
  (Text.firstWord? v.sqlKeywords t).isSome

/-- What the statement in a text does: its first verb in capitals, or `UNKNOWN`. -/
def verbOf (v : Vocabulary) (t : Text) : Text :=
  match Text.firstWord? v.nameVerbs t with
  | some verb => Text.upper verb
  | none => "UNKNOWN"

end Vocabulary

end SqlInventory
