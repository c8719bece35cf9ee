import SqlInventory.Failure

/-!
# The error log

A command that fails in a way that nobody foresaw writes an entry to the error log, and the user is
told the failure and where the log is. Usage errors, refusals and an abort by the user are passed on
as they are.
-/

namespace SqlInventory

/-- How a command may end without a result. -/
inductive Interruption where
  /-- The command was not called properly. -/
  | usage (message : Text)
  /-- The command refuses to go on. -/
  | refused (message : Text)
  /-- The user stopped it. -/
  | aborted
  /-- Something went wrong. -/
  | failed (failure : Failure)
  deriving Repr

/-- Where the error log is. -/
def errorLogNames : List Text := [".sqlaudit", "error.log"]

/-- A failure as the log and the user see it. -/
def Failure.headline (f : Failure) : Text :=
  f.kind ++ ": " ++ f.message

/-- What the user is told about a failure. -/
def Failure.notice (f : Failure) : Text :=
  f.headline ++ "\n\nFull traceback logged to: " ++ Path.ofParts errorLogNames

/-- A line across the error log. -/
def logRule : Text := Text.fill 80 '='

/-- The entry of the error log for a failure of the command `name` at a time; `trace` tells where it
happened. -/
def errorLogEntry (name time trace : Text) (f : Failure) : Text :=
  "\n" ++ logRule ++ "\n[" ++ time ++ "] Error in command: " ++ name ++ "\n" ++ logRule ++ "\n" ++
    f.headline ++ "\n\n" ++ trace ++ logRule ++ "\n\n"

/-- A command's outcome as its caller sees it, and what is added to the error log. -/
def shield {α : Type} (name time trace : Text) (outcome : Except Interruption α) :
    Except Interruption α × Text :=
  match outcome with
  | .error (.failed f) => (.error (.refused f.notice), errorLogEntry name time trace f)
  | other => (other, [])

end SqlInventory
