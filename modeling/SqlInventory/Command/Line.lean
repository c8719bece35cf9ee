import SqlInventory.Command.Catalog
import SqlInventory.Command.ErrorLog

/-!
# The command line

`commandLine` carries out what a command line asks for: from the machine, the workspace and the
arguments it gives what is printed and logged, and the workspace afterwards.
-/

namespace SqlInventory

/-- What comes of a command line. -/
structure Transcript where
  /-- What is printed, and the exit code. -/
  printed : Printed := {}
  /-- What is logged. -/
  entries : List LogEntry := []
  /-- The workspace afterwards. -/
  workspace : FileTree
  deriving Repr

/-- The name and version of the program. -/
def versionLine : Text := "sqlaudit, version 0.3.0\n"

/-- How the program is called. -/
def usageLine : Text := "Usage: sqlaudit [OPTIONS] COMMAND [ARGS]...\n"

/-- Writes the failure of a command to the error log. -/
def logFailure (host : Host) (name : Text) (f : Failure) : Action Unit := do
  Action.makeDirectories errorLogNames.dropLast
  Action.tell .error ("Command '" ++ name ++ "' failed: " ++ f.message)
  Action.append errorLogNames (Path.ofParts errorLogNames)
    (errorLogEntry name host.time (f.headline ++ ['\n']) f)

/-- A command that has failed, after it printed and logged something: the failure is logged and
shown. If it cannot even be logged, it is not shown. -/
def fail (host : Host) (root : FileTree) (name : Text) (printed : Printed)
    (entries : List LogEntry) (f : Failure) : Transcript :=
  match logFailure host name f root with
  | (logged, later) =>
    let notice : Text := match logged.outcome with
      | .ok _ => "Error: " ++ f.notice ++ ['\n']
      | .error _ => []
    ⟨{ printed with exitCode := 1, stderr := printed.stderr ++ notice }, entries ++ logged.entries,
      later⟩

/-- Carries out a command. What it changed before it failed stays changed. -/
def perform (host : Host) (root : FileTree) (name : Text) (body : Action Printed) : Transcript :=
  match body root with
  | (done, changed) =>
    match done.outcome with
    | .error f => fail host changed name {} done.entries f
    | .ok printed =>
      match printed.failure with
      | some f => fail host changed name printed done.entries f
      | none => ⟨printed, done.entries, changed⟩

/-- Carries out a command line. Of a usage error the first line is shown. -/
def commandLine (host : Host) (root : FileTree) (arguments : List Text) : Transcript :=
  match readCommandLine root arguments with
  | .error e =>
    let line := "Error: " ++ e.message.takeWhile (· != '\n') ++ ['\n']
    { printed := { exitCode := 2, stderr := line }, workspace := root }
  | .ok .version => { printed := { stdout := versionLine }, workspace := root }
  | .ok .help => { printed := { stdout := usageLine }, workspace := root }
  | .ok (.scan r) => perform host root "scan" (scanCommand host r)
  | .ok (.catalog r) => perform host root "catalog" (catalogCommand host r)

end SqlInventory
