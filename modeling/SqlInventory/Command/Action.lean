import SqlInventory.Run.Scan

/-!
# Actions on a workspace

An action may change the workspace, tell things and fail. What it told and changed before a failure
stays told and changed.
-/

namespace SqlInventory

/-- A computation on a workspace: its log and outcome, and the workspace afterwards. -/
def Action (α : Type) : Type := FileTree → Logged Failure α × FileTree

namespace Action

variable {α β : Type}

/-- The second action uses the result of the first; after a failure it does not run. -/
def andThen (first : Action α) (second : α → Action β) : Action β := fun root =>
  match first root with
  | (done, changed) =>
    match done.outcome with
    | .error e => (⟨done.entries, .error e⟩, changed)
    | .ok a =>
      match second a changed with
      | (rest, later) => (⟨done.entries ++ rest.entries, rest.outcome⟩, later)

instance : Monad Action where
  pure a := fun root => (.quiet (.ok a), root)
  bind := andThen

/-- A computation that leaves the workspace as it is. -/
def inspect (f : FileTree → Logged Failure α) : Action α := fun root => (f root, root)

/-- Tells something. -/
def tell (level : Level) (message : Text) : Action Unit :=
  inspect fun _ => Logged.tell level message

/-- Goes on with a value, or fails. -/
def ofExcept (outcome : Except Failure α) : Action α :=
  inspect fun _ => .quiet outcome

/-- Changes the workspace, or fails. -/
def change (f : FileTree → Except Failure FileTree) : Action Unit := fun root =>
  match f root with
  | .ok changed => (.quiet (.ok ()), changed)
  | .error e => (.quiet (.error e), root)

/-- Makes the directories with these names where they are missing. -/
def makeDirectories (names : List Text) : Action Unit :=
  change fun root => (root.makeDirectories names).mapError fun (e, refused) =>
    .file e (Path.ofParts refused)

/-- Writes a text to the file with these names, which is called `shown` if that is refused. -/
def write (names : List Text) (shown content : Text) : Action Unit :=
  change fun root => (root.write names (Utf8.encode content)).mapError (.file · shown)

/-- Writes a text to a file, with the directories that are missing above it. -/
def save (path content : Text) : Action Unit := do
  makeDirectories (Path.parts path).dropLast
  write (Path.parts path) (Path.tidy path) content

/-- The text at the end of the file with these names, if it is there. -/
def existing (root : FileTree) (names : List Text) : Text :=
  match root.read names with
  | .ok content => Utf8.decode content
  | .error _ => []

/-- Adds a text to the end of the file with these names. -/
def append (names : List Text) (shown content : Text) : Action Unit :=
  change fun root =>
    (root.write names (Utf8.encode (existing root names ++ content))).mapError (.file · shown)

/-- A log entry as a line of a log file. -/
def logLine (entry : LogEntry) : Text :=
  Text.padRight 8 entry.level.word ++ " | " ++ entry.message ++ ['\n']

/-- Writes the log of an action to the end of the file with these names, however the action ends. -/
def recording (names : List Text) (body : Action α) : Action α := fun root =>
  match body root with
  | (done, changed) =>
    (done, (append names [] (done.entries.flatMap logLine) changed).2)

end Action

end SqlInventory
