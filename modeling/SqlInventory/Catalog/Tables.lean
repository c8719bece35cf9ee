import SqlInventory.Text.Case

/-!
# What a statement does, and to which tables

The reading of SQL is a parameter of this library: it gives a type for the first statement of a
text, and its tokens. What is a keyword, what is blank and how a keyword is normally written is the
reader's to say, and comes with each token. A table is named right behind certain keywords. Of a
name qualified by dots the last part counts, without quotation marks.
-/

namespace SqlInventory

/-- A token of a statement, as the reader of SQL gives it. -/
structure SqlToken where
  /-- Its type, a name with dots, if it has one. -/
  type : Option Text
  /-- Its text. -/
  value : Text
  /-- How its text is normally written. -/
  normalized : Text
  /-- Whether it is a keyword. -/
  isKeyword : Bool
  /-- Whether it is blank. -/
  isBlank : Bool
  deriving DecidableEq, Repr

/-- What reading a text as SQL gives. -/
inductive SqlReading where
  /-- The reader broke down. -/
  | failed
  /-- There is no statement. -/
  | nothing
  /-- The type of the first statement, if any, and its tokens. -/
  | statement (type : Option Text) (tokens : List SqlToken)
  deriving DecidableEq, Repr

/-- How SQL is read. -/
abbrev SqlReader : Type := Text → SqlReading

namespace SqlToken

/-- Whether a token can be part of a name. -/
def isName (t : SqlToken) : Bool :=
  t.type.isNone || t.type == some "Name".toList

/-- Whether a token is a keyword that a table follows. -/
def introducesTable (t : SqlToken) : Bool :=
  t.isKeyword &&
    (["FROM".toList, "INTO".toList, "UPDATE".toList, "TABLE".toList].contains t.normalized ||
      "JOIN".toList.isSuffixOf t.normalized)

end SqlToken

/-- The last part of a dotted name, of which `name` is read and the tokens are to come. -/
def lastPart : Text → List SqlToken → Text
  | name, dot :: next :: rest =>
    if dot.value == ['.'] && next.isName then lastPart next.value rest else name
  | name, _ => name

/-- A name without quotation marks around it. -/
def unquoteName (t : Text) : Text :=
  Text.stripBy (fun c => c == '"' || c == '\'' || c == '`') t

/-- Words that are no table even where a table is expected. -/
def notTables : List Text := ["SELECT", "WHERE", "SET", "VALUES"]

/-- The table named at the front of some tokens, blanks passed over. -/
def tableAt? (tokens : List SqlToken) : Option Text :=
  match tokens.dropWhile SqlToken.isBlank with
  | [] => none
  | first :: rest =>
    if first.isName then
      let name := unquoteName (lastPart first.value rest)
      if name.isEmpty || notTables.contains (Text.upper name) then none else some name
    else none

/-- The tables named behind the keywords of some tokens, in order. -/
def tablesOf : List SqlToken → List Text
  | [] => []
  | t :: rest =>
    match if t.introducesTable then tableAt? rest else none with
    | some name => name :: tablesOf rest
    | none => tablesOf rest

/-- What a statement does and the tables it names, each once. -/
structure SqlSummary where
  /-- The type of the statement. -/
  command : Text
  /-- The tables. -/
  tables : List Text
  deriving DecidableEq, Repr

/-- The summary of a statement, if it can be read and its type is known. -/
def SqlReading.summary? : SqlReading → Option SqlSummary
  | .statement (some command) tokens =>
    if command.isEmpty || command == "UNKNOWN".toList then none
    else some ⟨command, (tablesOf tokens).eraseDups⟩
  | _ => none

end SqlInventory
