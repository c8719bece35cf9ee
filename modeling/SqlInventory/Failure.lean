import SqlInventory.Settings.Load
import SqlInventory.Settings.Words
import SqlInventory.Workspace.Locate

/-!
# Failures

What can go wrong in a run, as causes. Each has a word for its kind and a message; both are shown to
people and written to the error log.
-/

namespace SqlInventory

/-- The message about bytes that are not UTF-8. -/
def Utf8.Malformed.message (m : Utf8.Malformed) : Text :=
  let why : Text := match m.cause with
    | .badStart => "invalid start byte"
    | .badContinuation => "invalid continuation byte"
    | .endOfData => "unexpected end of data"
  let place : Text :=
    if m.stop ≤ m.start + 1 then
      "byte 0x" ++ Text.hex 2 m.byte.toNat ++ " in position " ++ Text.ofNat m.start
    else "bytes in position " ++ Text.ofNat m.start ++ "-" ++ Text.ofNat (m.stop - 1)
  "'utf-8' codec can't decode " ++ place ++ ": " ++ why

/-- The message about a text that cannot be read as JSON. -/
def JsonError.message : JsonError → Text
  | .malformed => "malformed JSON"
  | .tooLong digits => Text.tooLongMessage digits
  | .deepArray =>
    "maximum recursion depth exceeded while decoding a JSON array from a unicode string"
  | .deepObject =>
    "maximum recursion depth exceeded while decoding a JSON object from a unicode string"

/-- The message about a source that has no findings because it cannot be read. -/
def unreadableSource (path reason : Text) : Text :=
  let shown : Text := if path.isEmpty then "<memory>" else path
  "Cannot parse " ++ shown ++ ": " ++ reason

/-- What can go wrong. -/
inductive Failure where
  /-- A configuration file cannot be read. -/
  | config (error : ConfigFault)
  /-- The settings give no vocabulary. -/
  | words (error : WordsError)
  /-- A suffix of source files is not a text. -/
  | badExtension (value : Json)
  /-- A number of workers below one. -/
  | noWorkers
  /-- A path has no last name. -/
  | nameless (path : Text)
  /-- Links lead on without end. -/
  | linkLoop (path : Text)
  /-- A message has a tag that closes nothing. -/
  | markup (message : Text)
  /-- The file system refuses. -/
  | file (error : FileError) (path : Text)
  /-- A source cannot be read. -/
  | source (path reason : Text)
  /-- A value does not fit a setting. -/
  | setting (error : SettingError)
  /-- There is nothing under a key. -/
  | missingKey (key : Text)
  /-- A value is out of range. -/
  | outOfRange (message : Text)
  /-- Anything else. -/
  | runtime (message : Text)
  deriving Repr

namespace Failure

/-- The word for the kind of a failure. -/
def kind : Failure → Text
  | .config (.encoding _) => "UnicodeDecodeError"
  | .config (.json .malformed) => "ValueError"
  | .config (.json (.tooLong _)) => "ValueError"
  | .config (.json .deepArray) => "RecursionError"
  | .config (.json .deepObject) => "RecursionError"
  | .words (.missing _) => "KeyError"
  | .words (.badValue _) => "TypeError"
  | .badExtension _ => "AttributeError"
  | .noWorkers => "ValueError"
  | .nameless _ => "ValueError"
  | .linkLoop _ => "RuntimeError"
  | .markup _ => "MarkupError"
  | .file .notFound _ => "FileNotFoundError"
  | .file .exists _ => "FileExistsError"
  | .file .notDirectory _ => "NotADirectoryError"
  | .file .isDirectory _ => "IsADirectoryError"
  | .file .tooManyLinks _ => "OSError"
  | .file .nameTooLong _ => "OSError"
  | .file .unnameable _ => "ValueError"
  | .source _ _ => "ParseFailure"
  | .setting _ => "ConfigError"
  | .missingKey _ => "KeyError"
  | .outOfRange _ => "ValueError"
  | .runtime _ => "RuntimeError"

/-- A failure in words. -/
def message : Failure → Text
  | .config (.encoding error) => error.message
  | .config (.json error) => error.message
  | .words (.missing name) => Text.quoted name
  | .words (.badValue message) => message
  | .badExtension value => "'" ++ value.typeName ++ "' object has no attribute 'lower'"
  | .noWorkers => "max_workers must be greater than 0"
  | .nameless path => "PosixPath(" ++ Text.quoted path ++ ") has an empty name"
  | .linkLoop path => "Symlink loop from " ++ Text.quoted path
  | .markup message => message
  | .file .unnameable _ => FileError.unnameable.reason
  | .file error path =>
    "[Errno " ++ Text.ofNat error.number ++ "] " ++ error.reason ++ ": " ++ Text.quoted path
  | .source path reason => unreadableSource path reason
  | .setting error => error.message
  | .missingKey key => Text.quoted key
  | .outOfRange message => message
  | .runtime message => message

end Failure

end SqlInventory
