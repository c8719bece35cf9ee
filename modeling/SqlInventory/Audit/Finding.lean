import SqlInventory.LineNumber

/-!
# Findings

What an audit reports of a file: literals that read like SQL, calls that run a statement, and
variables that are used at a call although no SQL literal is assigned to them in the file.
-/

namespace SqlInventory

/-- The two forms of literal. -/
inductive LiteralForm where
  /-- A quoted literal. -/
  | string
  /-- A here-document. -/
  | heredoc
  deriving DecidableEq, Repr

/-- A literal that reads like SQL. -/
structure LiteralFinding where
  /-- Its form. -/
  form : LiteralForm
  /-- The line on which it starts. -/
  line : Option LineNumber
  /-- Its text, shortened for display. -/
  snippet : Text
  /-- The variable that it is assigned to. -/
  target : Option Text := none
  /-- Its name, once it has one. -/
  name : Option Text := none
  /-- Its whole text. -/
  statement : Text := []
  deriving DecidableEq, Repr

/-- A call of a method that runs a statement. -/
structure CallFinding where
  /-- The line of the call. -/
  line : LineNumber
  /-- The method, in small letters. -/
  verb : Text
  /-- The text around the call, shortened for display. -/
  context : Text
  deriving DecidableEq, Repr

/-- The remark on a variable without an SQL literal. -/
def undeclaredNote : Text :=
  "variable used in dbi_call but no string/heredoc declaration found in this file"

/-- A variable used at a call without an SQL literal in the file. -/
structure UndeclaredFinding where
  /-- The variable. -/
  target : Text
  /-- The line of the first call that uses it. -/
  usedInLine : LineNumber
  /-- The context of that call. -/
  context : Text
  /-- A remark. -/
  note : Text := undeclaredNote
  deriving DecidableEq, Repr

/-- One entry of a file's findings. -/
inductive Finding where
  /-- A literal that reads like SQL. -/
  | literal (finding : LiteralFinding)
  /-- A call that runs a statement. -/
  | call (finding : CallFinding)
  /-- A variable without an SQL literal. -/
  | undeclared (finding : UndeclaredFinding)
  /-- Something that is no finding, of the kind named; every analysis passes it by, and a report
  refuses it. -/
  | foreign (kind : Text)
  deriving DecidableEq, Repr

namespace Finding

/-- The literal that an entry is. -/
def literal? : Finding → Option LiteralFinding
  | .literal f => some f
  | _ => none

/-- The call that an entry is. -/
def call? : Finding → Option CallFinding
  | .call f => some f
  | _ => none

/-- The undeclared variable that an entry is. -/
def undeclared? : Finding → Option UndeclaredFinding
  | .undeclared f => some f
  | _ => none

/-- The word for the type of an entry. -/
def tag : Finding → Text
  | .literal f => match f.form with
    | .string => "string"
    | .heredoc => "heredoc"
  | .call _ => "dbi_call"
  | .undeclared _ => "missing_variable"
  | .foreign kind => kind

end Finding

/-- The findings of several files, in order. -/
abbrev Results : Type := List (Text × List Finding)

end SqlInventory
