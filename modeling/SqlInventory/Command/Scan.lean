import SqlInventory.Command.Action
import SqlInventory.Command.Console
import SqlInventory.Command.ExitCode
import SqlInventory.Command.Usage

/-!
# The command that scans

The report goes to a file, or is printed. What else there is to say goes to the terminal, and when
the report is printed it goes to the error output, so that the report can be piped.
-/

namespace SqlInventory

/-- What a command prints, and its exit code. -/
structure Printed where
  /-- The exit code. -/
  exitCode : Int := 0
  /-- The output. -/
  stdout : Text := []
  /-- The error output. -/
  stderr : Text := []
  /-- What went wrong once something was printed. -/
  failure : Option Failure := none
  deriving Repr

namespace Printed

/-- Prints a text, to the error output or to the output, unless something went wrong before. -/
def add (printed : Printed) (toError : Bool) (text : Except MarkupError Text) : Printed :=
  if printed.failure.isSome then printed
  else match text with
    | .error e => { printed with failure := some e.failure }
    | .ok t =>
      if toError then { printed with stderr := printed.stderr ++ t }
      else { printed with stdout := printed.stdout ++ t }

end Printed

/-- Where an output goes: as asked for, else as set, with the suffix of the format if that is not
the usual one. -/
def outputPath (asked : Option Text) (setting : Json) (newSuffix : Option Text) :
    Except Failure Text :=
  match asked, newSuffix with
  | some path, _ => .ok path
  | none, none => .ok setting.plainText
  | none, some s =>
    match Path.withSuffix? setting.plainText s with
    | some path => .ok path
    | none => .error (.nameless (Path.tidy setting.plainText))

/-- How a scan ends. -/
def scanEnding (failOnMissing : Bool) (run : Run) : Ending :=
  if run.filesScanned = 0 ∧ ¬ run.skipped.isEmpty then .incomplete
  else if failOnMissing && run.hasUndeclared then .undeclared
  else .success

/-- Prints the lines about skipped files. -/
def addSkipped (toError : Bool) (run : Run) (printed : Printed) : Printed :=
  run.skipped.foldl (fun printed (path, reason) =>
    printed.add toError (Console.shown "warning" ("Skipped " ++ path ++ ": " ++ reason))) printed

/-- The name of the log file in the directory for it. -/
def logFileName : Text := "sqlaudit.log"

/-- The log file in a directory, made if it is missing. -/
def openLog (host : Host) (directory : Text) : Action (List Text) := do
  let names := Path.parts directory
  Action.makeDirectories names
  let file := names ++ [logFileName]
  Action.append file (Place.absolute host.origin file) []
  return file

/-- The report of a run, as text. -/
def reportText (format : ReportFormat) (run : Run) : Except Failure Text :=
  (renderReport run.results format.word).mapError fun e => .runtime e.message

/-- Prints the report. -/
def printReport (r : ScanRequest) (run : Run) : Action Printed := do
  let text ← Action.ofExcept (reportText r.format run)
  let counts := if r.printStats then Console.table run.summary else []
  return addSkipped true run { stdout := text, stderr := counts }

/-- Writes the report to a file. -/
def saveReport (r : ScanRequest) (settings : Settings) (run : Run) : Action Printed := do
  let newSuffix : Option Text := if r.format = .yaml then some ".yml" else none
  let out ← Action.ofExcept (outputPath r.out (settings .report) newSuffix)
  Action.save out (← Action.ofExcept (reportText r.format run))
  Action.tell .info ("Report written to " ++ Path.tidy out)
  let printed := Printed.add {} false (Console.shown "success" ("SQL report saved to " ++ out))
  return addSkipped false run (printed.add false (.ok (Console.table run.summary)))

/-- Scans, and reports. -/
def scanAndReport (host : Host) (r : ScanRequest) (place : Place) (settings : Settings) :
    Action Printed := do
  let run ← Action.inspect fun root => runScan host root place settings r.exclude r.workers
  let printed ← if r.toStdout then printReport r run else saveReport r settings run
  let ending := scanEnding r.failOnMissing run
  if ending = .success || printed.failure.isSome then return printed
  let described := printed.add true (Console.shown "error" ending.description)
  return { described with exitCode := ending.code }

/-- The command that scans. -/
def scanCommand (host : Host) (r : ScanRequest) : Action Printed := do
  let place ← Action.inspect fun root => .quiet (placeOf host root r.path)
  let settings ← Action.inspect fun root => settingsAt host root place
  match nonEmpty? r.logDir with
  | none => scanAndReport host r place settings
  | some directory =>
    let file ← openLog host directory
    Action.recording file (scanAndReport host r place settings)

end SqlInventory
