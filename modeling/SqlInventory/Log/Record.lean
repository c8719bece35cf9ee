import SqlInventory.Json.Basic
import SqlInventory.Log.Entry
import SqlInventory.Text.Case

/-!
# Structured log records

What is logged goes to the terminal, either as lines for people or as one JSON object per event, and
to a log file, which always gets objects and everything from `DEBUG` on. Environment variables
choose the least level shown, the form, the file, and the id by which the records of one run are
found together.
-/

namespace SqlInventory

/-- Environment variables with their values. -/
abbrev Environment : Type := List (Text × Text)

/-- The value of an environment variable. -/
def Environment.value? (env : Environment) (name : Text) : Option Text :=
  (env.find? fun entry => entry.1 == name).map (·.2)

/-- How events are shown. -/
structure LogSettings where
  /-- The least level shown on the terminal. -/
  least : Level := .info
  /-- Whether the terminal gets objects. -/
  structured : Bool := false
  /-- The log file. -/
  file : Option Text := none
  /-- The id of the run. -/
  requestId : Text
  deriving DecidableEq, Repr

/-- The message for a word that is no level. -/
def unknownLevel (word : Text) : Text :=
  "Level '" ++ word ++ "' does not exist"

/-- A value, unless it is missing or empty. -/
def nonEmpty? : Option Text → Option Text
  | some [] => none
  | other => other

/-- The settings that the environment asks for; `freshId` is the id of a run that has none. A level
that does not exist is refused with a message. -/
def LogSettings.ofEnvironment (env : Environment) (freshId : Text) : Except Text LogSettings :=
  let word := Text.upper ((env.value? "SQLAUDIT_LOG_LEVEL").getD "INFO")
  match Level.ofWord? word with
  | none => .error (unknownLevel word)
  | some least =>
    .ok {
      least
      structured := env.value? "SQLAUDIT_LOG_JSON" == some ['1']
      file := nonEmpty? (env.value? "SQLAUDIT_LOG_FILE")
      requestId := (nonEmpty? (env.value? "SQLAUDIT_REQUEST_ID")).getD freshId }

/-- Something that is logged. -/
structure LogEvent where
  /-- Its level. -/
  level : Level
  /-- What it says. -/
  message : Text
  /-- Further members of its record. -/
  extra : List (Text × Json) := []
  /-- The kind and the text of a failure that goes with it. -/
  failure : Option (Text × Text) := none
  deriving Repr

/-- When and where an event happens. -/
structure Occasion where
  /-- Milliseconds since the epoch. -/
  time : Int
  /-- The process. -/
  process : Int
  deriving DecidableEq, Repr

/-- The members of an event's record. A further member may take the place of a usual one, and the id
of the run is that of the event if it has one. -/
def LogEvent.record (settings : LogSettings) (occasion : Occasion) (event : LogEvent) :
    List (Text × Json) :=
  let id := (event.extra.find? fun m => m.1 == "request_id".toList).map (·.2)
  let usual : List (Text × Json) :=
    [("level", .integer event.level.code), ("time", .integer occasion.time),
      ("msg", .string event.message), ("pid", .integer occasion.process),
      ("request_id", id.getD (.string settings.requestId))]
  let others := event.extra.filter fun m => m.1 != "request_id".toList
  let members := others.foldl (fun ms m => Json.put m.1 m.2 ms) usual
  match event.failure with
  | some (kind, text) =>
    Json.put "err" (.object [("type", .string kind), ("message", .string text)]) members
  | none => members

/-- What the terminal gets. -/
inductive TerminalLog where
  /-- Lines for people: the level, filled up to eight columns, and the first line of the message. -/
  | lines (lines : List (Text × Text))
  /-- Objects. -/
  | objects (records : List Json)
  deriving Repr

/-- What the terminal gets for some events. -/
def terminalLog (settings : LogSettings) (occasion : Occasion) (events : List LogEvent) :
    TerminalLog :=
  let shown := events.filter fun e => settings.least.atLeast e.level
  if settings.structured then
    .objects (shown.map fun e => .object (e.record settings occasion))
  else .lines (shown.map fun e => (Text.padRight 8 e.level.word, e.message.takeWhile (· != '\n')))

/-- The log file and what it gets for some events. It is made when there is something to write. -/
def fileLog (settings : LogSettings) (occasion : Occasion) (events : List LogEvent) :
    Option (Text × List Json) :=
  match settings.file, events.filter fun e => Level.debug.atLeast e.level with
  | some file, e :: rest =>
    some (file, (e :: rest).map fun e => .object (e.record settings occasion))
  | _, _ => none

end SqlInventory
