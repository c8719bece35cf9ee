import SqlInventory.Catalog.Render
import SqlInventory.Report.Render
import SqlInventory.Text.Numeral
import SqlInventory.Workspace.Locate

/-!
# Reading the command line

Arguments are first taken apart by the forms of the command's options, and the first that does not
fit is an error. Then the values are checked in the order in which their options first occur, then
the path, and last it is an error if arguments are left over.
-/

namespace SqlInventory

/-- What is wrong with a command line. -/
inductive UsageError where
  /-- There is no command. -/
  | noCommand
  /-- There is no such command. -/
  | noSuchCommand (name : Text)
  /-- There is no such option. -/
  | noSuchOption (name : Text)
  /-- An option lacks its value. -/
  | missingValue (option : Text)
  /-- An option has a value but takes none. -/
  | needlessValue (option : Text)
  /-- A value is not a whole number. -/
  | notWhole (option value : Text)
  /-- A value is not among those to choose from. -/
  | notAmong (option value : Text) (choices : List Text)
  /-- A path leads nowhere. -/
  | noSuchPath (path : Text)
  /-- Arguments are left over. -/
  | leftOver (arguments : List Text)
  deriving DecidableEq, Repr

/-- An error in words. -/
def UsageError.message : UsageError → Text
  | .noCommand => "Missing command."
  | .noSuchCommand name => "No such command " ++ Text.quoted name ++ "."
  | .noSuchOption name => "No such option " ++ Text.quoted name ++ "."
  | .missingValue option => "Option " ++ Text.quoted option ++ " requires an argument."
  | .needlessValue option => "Option " ++ Text.quoted option ++ " does not take a value."
  | .notWhole option value =>
    "Invalid value for '" ++ option ++ "': " ++ Text.quoted value ++ " is not a valid integer."
  | .notAmong option value choices =>
    "Invalid value for '" ++ option ++ "': " ++ Text.quoted value ++ " is not one of " ++
      Text.joinWith ", " (choices.map Text.quoted) ++ "."
  | .noSuchPath path =>
    "Invalid value for '[ROOT]': Path " ++ Text.quoted path ++ " does not exist."
  | .leftOver arguments =>
    let word : Text := if arguments.length = 1 then "argument" else "arguments"
    "Got unexpected extra " ++ word ++ " (" ++ Text.joinWith [' '] arguments ++ ")"

/-- The form of an option. -/
structure OptionForm where
  /-- Its name, with the dashes. -/
  name : Text
  /-- Whether it takes a value. -/
  takesValue : Bool
  deriving DecidableEq, Repr

/-- Arguments taken apart: options in order, with their values, and the rest. -/
structure Arguments where
  /-- The options; one without a value has the empty one. -/
  options : List (Text × Text) := []
  /-- The other arguments. -/
  operands : List Text := []
  deriving DecidableEq, Repr

namespace Arguments

/-- Whether an argument is an option. -/
def isOption : Text → Bool
  | '-' :: _ :: _ => true
  | _ => false

/-- The name in an option, and the value behind an equals sign. -/
def splitValue (argument : Text) : Text × Option Text :=
  let name := argument.takeWhile (· != '=')
  (name, (argument.drop name.length).tail?)

/-- The option with this name. Behind a single dash there may be several letters, each an option of
its own; the error names the first letter that is none. -/
def form (forms : List OptionForm) (argument : Text) : Except UsageError OptionForm :=
  let name := (splitValue argument).1
  let find? (name : Text) : Option OptionForm := forms.find? fun f => f.name == name
  match find? name with
  | some f => .ok f
  | none =>
    if "--".toList.isPrefixOf argument then .error (.noSuchOption name)
    else match (argument.drop 1).find? fun c => (find? ['-', c]).isNone with
      | some c => .error (.noSuchOption ['-', c])
      | none =>
        match find? (argument.take 2) with
        | some f => .ok f
        | none => .error (.noSuchOption (argument.take 2))

/-- Arguments with one more option in front. -/
def addOption (name value : Text) (arguments : Arguments) : Arguments :=
  { arguments with options := (name, value) :: arguments.options }

/-- Arguments with one more operand in front. -/
def addOperand (operand : Text) (arguments : Arguments) : Arguments :=
  { arguments with operands := operand :: arguments.operands }

/-- Takes arguments apart. Two dashes alone end the options. -/
def ofList (forms : List OptionForm) (arguments : List Text) : Except UsageError Arguments :=
  match arguments with
  | [] => .ok {}
  | argument :: rest =>
    if argument == ['-', '-'] then .ok { operands := rest }
    else if isOption argument then do
      let f ← form forms argument
      match (splitValue argument).2 with
      | some value =>
        if f.takesValue then return addOption f.name value (← ofList forms rest)
        else .error (.needlessValue f.name)
      | none =>
        if !f.takesValue then return addOption f.name [] (← ofList forms rest)
        else match rest with
          | [] => .error (.missingValue f.name)
          -- The next argument is the value, whatever it looks like.
          | value :: later => return addOption f.name value (← ofList forms later)
    else return addOperand argument (← ofList forms rest)

/-- The values of an option, in order. -/
def values (arguments : Arguments) (name : Text) : List Text :=
  (arguments.options.filter fun o => o.1 == name).map (·.2)

/-- The last value of an option. -/
def value? (arguments : Arguments) (name : Text) : Option Text :=
  (arguments.values name).getLast?

/-- Whether an option is given. -/
def has (arguments : Arguments) (name : Text) : Bool :=
  arguments.options.any fun o => o.1 == name

end Arguments

/-- The option for the format of the output. -/
def formatOption : Text := "--format"

/-- The option for the number of workers. -/
def workersOption : Text := "--workers"

/-- Checks the last value of an option. -/
def checkOption (formats : List Text) (arguments : Arguments) (name : Text) :
    Except UsageError Unit :=
  match arguments.value? name with
  | none => .ok ()
  | some value =>
    if name == formatOption && !formats.contains value then .error (.notAmong name value formats)
    else if name == workersOption && (Text.wholeNumber? value).isNone then
      .error (.notWhole name value)
    else .ok ()

/-- The path that a command is for, once everything has been checked. -/
def checkArguments (formats : List Text) (root : FileTree) (arguments : Arguments) :
    Except UsageError Text := do
  (arguments.options.map (·.1)).eraseDups.forM (checkOption formats arguments)
  let path := arguments.operands.head?.getD ['.']
  if !root.pathExists path then .error (.noSuchPath path)
  let extra := arguments.operands.drop 1
  if !extra.isEmpty then .error (.leftOver extra)
  return path

/-! ### The commands -/

/-- What a scan is asked to do. -/
structure ScanRequest where
  /-- The path to be scanned. -/
  path : Text
  /-- Where the report goes. -/
  out : Option Text := none
  /-- The format of the report. -/
  format : ReportFormat := .json
  /-- Patterns of paths to be left out. -/
  exclude : List Text := []
  /-- How many workers are to be used. -/
  workers : Json := .null
  /-- Whether the report is printed. -/
  toStdout : Bool := false
  /-- Whether the counts are printed with it. -/
  printStats : Bool := false
  /-- Whether variables without an SQL literal are an error. -/
  failOnMissing : Bool := false
  /-- The directory for a log file. -/
  logDir : Option Text := none
  deriving Repr

/-- What a catalog is asked to be. -/
structure CatalogRequest where
  /-- The path to be scanned. -/
  path : Text
  /-- Where the catalog goes. -/
  out : Option Text := none
  /-- The format of the catalog. -/
  format : CatalogFormat := .yaml
  /-- What ids start with. -/
  qualifier : Text := []
  /-- The database, if it is not empty. -/
  db : Text := []
  /-- Patterns of paths to be left out. -/
  exclude : List Text := []
  /-- How many workers are to be used. -/
  workers : Json := .null
  deriving Repr

/-- What a command line asks for. -/
inductive Request where
  /-- The version. -/
  | version
  /-- Help. -/
  | help
  /-- A scan. -/
  | scan (request : ScanRequest)
  /-- A catalog. -/
  | catalog (request : CatalogRequest)
  deriving Repr

/-- The options of a scan. -/
def scanForms : List OptionForm :=
  [⟨"--out", true⟩, ⟨formatOption, true⟩, ⟨"--exclude", true⟩, ⟨workersOption, true⟩,
    ⟨"--stdout", false⟩, ⟨"--print-stats", false⟩, ⟨"--fail-on-missing", false⟩,
    ⟨"--log-dir", true⟩, ⟨"--help", false⟩]

/-- The options of a catalog. -/
def catalogForms : List OptionForm :=
  [⟨"--out", true⟩, ⟨formatOption, true⟩, ⟨"--namespace", true⟩, ⟨"--db", true⟩,
    ⟨"--exclude", true⟩, ⟨workersOption, true⟩, ⟨"--help", false⟩]

/-- The options before a command. -/
def mainForms : List OptionForm :=
  [⟨"--version", false⟩, ⟨"-h", false⟩, ⟨"--help", false⟩]

/-- The number of workers asked for. -/
def workersOf (a : Arguments) : Json :=
  match (a.value? workersOption).bind Text.wholeNumber? with
  | some n => .integer n
  | none => .null

/-- Reads the arguments of a scan. -/
def readScan (root : FileTree) (arguments : List Text) : Except UsageError Request := do
  let a ← Arguments.ofList scanForms arguments
  if a.has "--help" then return .help
  let path ← checkArguments (ReportFormat.all.map ReportFormat.word) root a
  return .scan {
    path
    out := a.value? "--out"
    format := ((a.value? formatOption).bind ReportFormat.ofWord?).getD .json
    exclude := a.values "--exclude"
    workers := workersOf a
    toStdout := a.has "--stdout"
    printStats := a.has "--print-stats"
    failOnMissing := a.has "--fail-on-missing"
    logDir := a.value? "--log-dir" }

/-- Reads the arguments of a catalog. -/
def readCatalog (root : FileTree) (arguments : List Text) : Except UsageError Request := do
  let a ← Arguments.ofList catalogForms arguments
  if a.has "--help" then return .help
  let path ← checkArguments (CatalogFormat.all.map CatalogFormat.word) root a
  return .catalog {
    path
    out := a.value? "--out"
    format := ((a.value? formatOption).bind CatalogFormat.ofWord?).getD .yaml
    qualifier := (a.value? "--namespace").getD []
    db := (a.value? "--db").getD []
    exclude := a.values "--exclude"
    workers := workersOf a }

/-- What the options before a command ask for, if they ask for anything. -/
def readMainOptions (arguments : List Text) : Except UsageError (Option Request) := do
  let a ← Arguments.ofList mainForms arguments
  match a.options.head? with
  | some (name, _) => return some (if name == "--version".toList then .version else .help)
  | none => return none

/-- Reads a command line. The options before the command are read first. What stands in the place of
the command and is none may still turn out to be an option. -/
def readCommandLine (root : FileTree) (arguments : List Text) : Except UsageError Request := do
  let isFront (a : Text) : Bool := Arguments.isOption a && a != ['-', '-']
  let front := arguments.takeWhile isFront
  let behind := arguments.drop front.length
  let commands := if behind.head? == some ['-', '-'] then behind.drop 1 else behind
  if let some request ← readMainOptions front then return request
  match commands with
  | [] => .error .noCommand
  | command :: rest =>
    if command == "scan".toList then readScan root rest
    else if command == "catalog".toList then readCatalog root rest
    else
      if let some request ← readMainOptions (commands.takeWhile isFront) then return request
      .error (.noSuchCommand command)

end SqlInventory
