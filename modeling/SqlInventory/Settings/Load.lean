import SqlInventory.Json.Parser
import SqlInventory.Log.Record
import SqlInventory.Settings.Coerce
import SqlInventory.Settings.Key
import SqlInventory.Text.Utf8

/-!
# Loading settings

Settings start out as the defaults. Their sources are then gone through one after the other: the
members of the configuration file, group by group and in the order of the file, and after them the
environment variables, in the order of the settings. A step gives at most one setting its value. A
value that does not fit the one at hand is remarked upon and changes nothing.

How deep the values of a file may be nested depends on the machine that runs the program, so it is a
parameter of loading.
-/

namespace SqlInventory

/-- Whether `value` is of the kind of `model`. A truth value counts as a whole number. -/
def sameKind (model value : Json) : Bool :=
  match model, value with
  | .null, .null => true
  | .bool _, .bool _ => true
  | .integer _, .integer _ => true
  | .integer _, .bool _ => true
  | .decimal _, .decimal _ => true
  | .string _, .string _ => true
  | .array _, .array _ => true
  | .object _, .object _ => true
  | _, _ => false

/-- What there is of a configuration file. -/
inductive ConfigFile where
  /-- There is none. -/
  | absent
  /-- It cannot be opened. -/
  | unreadable
  /-- Its content. -/
  | content (bytes : Bytes)
  deriving DecidableEq, Repr

/-- Why a configuration file stops the program. -/
inductive ConfigFault where
  /-- It is not UTF-8. -/
  | encoding (error : Utf8.Malformed)
  /-- It holds a value that cannot be read. -/
  | json (error : JsonError)
  deriving DecidableEq, Repr

/-- What a configuration file comes to. -/
inductive Configuration where
  /-- There is none. -/
  | absent
  /-- It is there and is passed over. -/
  | skipped
  /-- It holds a value. -/
  | holds (value : Json)

/-- Reads the text of a configuration file, whose arrays and objects may be within each other on
`levels` levels. One that is not written like JSON is passed over; anything else that keeps it from
being read is a failure. -/
def Configuration.parse (levels : Nat) (text : Text) : Except ConfigFault Configuration :=
  match Json.parse levels Text.digitLimit text with
  | .ok value => .ok (.holds value)
  | .error .malformed => .ok .skipped
  | .error e => .error (.json e)

/-- Reads a configuration file. One that cannot be opened is passed over. -/
def ConfigFile.configuration (file : ConfigFile) (levels : Nat) :
    Except ConfigFault Configuration :=
  match file with
  | .absent => .ok .absent
  | .unreadable => .ok .skipped
  | .content bytes =>
    match Utf8.decode? bytes with
    | .error e => .error (.encoding e)
    | .ok text => Configuration.parse levels text

/-- Settings while their sources are gone through, and what there was to remark so far. -/
structure Draft where
  /-- The settings as they stand. -/
  settings : Settings
  /-- The remarks. -/
  remarks : List LogEntry := []

namespace Draft

/-- The defaults. -/
def standard (workers : Nat) : Draft where
  settings := SettingKey.default workers

/-- Gives one setting a value. -/
def set (d : Draft) (key : SettingKey) (value : Json) : Draft :=
  { d with settings := d.settings.set key value }

/-- Adds a remark. -/
def remark (d : Draft) (level : Level) (message : Text) : Draft :=
  { d with remarks := d.remarks ++ [⟨level, message⟩] }

@[simp] theorem settings_set (d : Draft) (key : SettingKey) (value : Json) :
    (d.set key value).settings = d.settings.set key value := rfl

@[simp] theorem settings_remark (d : Draft) (level : Level) (message : Text) :
    (d.remark level message).settings = d.settings := rfl

/-- Remarks that a member of the file gives no setting its value. -/
def ignore (path group name : Text) (d : Draft) : Draft :=
  d.remark .warning ("Ignoring config key " ++ group ++ "." ++ name ++ " in " ++ path)

/-- Takes one member of a group of the file: the value of a setting, if there is such a setting and
the value is of the kind of the one at hand. -/
def takeMember (path group : Text) (d : Draft) (entry : Text × Json) : Draft :=
  match SettingKey.find? group entry.1 with
  | some key =>
    if sameKind (d.settings key) entry.2 then d.set key entry.2 else d.ignore path group entry.1
  | none => d.ignore path group entry.1

/-- Takes the members of one group of the file. -/
def takeGroup (path : Text) (config : Json) (d : Draft) (group : Text) : Draft :=
  match config.member? group with
  | some (.object members) => members.foldl (takeMember path group) d
  | _ => d

/-- Takes a configuration. -/
def takeConfiguration (path : Text) (d : Draft) : Configuration → Draft
  | .absent => d
  | .skipped =>
    (d.remark .warning ("Could not load config file from " ++ path)).remark .info
      "Continuing with default configuration"
  | .holds value => SettingKey.groups.foldl (takeGroup path value) d

/-- Takes the environment variable of one setting, if it is there and can be read as a value of the
kind at hand. -/
def takeVariable (env : Environment) (d : Draft) (key : SettingKey) : Draft :=
  match env.value? key.variableName with
  | none => d
  | some raw =>
    match coerce key.variableName raw (d.settings key) with
    | .ok value => d.set key value
    | .error e =>
      d.remark .warning (e.message ++ " - using default value: " ++ (d.settings key).display)

/-- Takes the environment variables of all settings. -/
def takeEnvironment (env : Environment) (d : Draft) : Draft :=
  SettingKey.all.foldl (takeVariable env) d

end Draft

/-- The settings that a configuration file and the environment give. -/
def Settings.load (levels workers : Nat) (path : Text) (file : ConfigFile) (env : Environment) :
    Logged ConfigFault Settings :=
  match file.configuration levels with
  | .error e => .fail e
  | .ok configuration =>
    let d := ((Draft.standard workers).takeConfiguration path configuration).takeEnvironment env
    ⟨d.remarks, .ok d.settings⟩

end SqlInventory
