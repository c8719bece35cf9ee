import SqlInventory.Audit.Vocabulary
import SqlInventory.Json.Basic

/-!
# Settings

A setting belongs to a group and has a name; together they are its key in the configuration file and
make up its environment variable. The keys are fixed, and each has a default, whose kind is the kind
that a value for it must have.
-/

namespace SqlInventory

/-- The settings. -/
inductive SettingKey where
  /-- Where reports go. -/
  | report
  /-- Where catalogs go. -/
  | catalog
  /-- The size above which a file is skipped. -/
  | maxFileSize
  /-- How much of a text is shown. -/
  | snippetMaxChars
  /-- How much text around a call is shown. -/
  | contextRadius
  /-- How many files are scanned at a time. -/
  | maxWorkers
  /-- The suffixes of source files. -/
  | extensions
  /-- Words that make a literal read like SQL. -/
  | sqlKeywords
  /-- Words that say what a statement does. -/
  | nameVerbs
  /-- Methods that run a statement. -/
  | callVerbs
  /-- Variables that are never reported. -/
  | ignoreVariables
  /-- The database of a catalog. -/
  | db
  /-- The value for the entity's slot. -/
  | entityValue
  deriving DecidableEq, Repr

namespace SettingKey

/-- The keys in their order. -/
def all : List SettingKey :=
  [.report, .catalog, .maxFileSize, .snippetMaxChars, .contextRadius, .maxWorkers, .extensions,
    .sqlKeywords, .nameVerbs, .callVerbs, .ignoreVariables, .db, .entityValue]

theorem mem_all (key : SettingKey) : key ∈ all := by
  cases key <;> decide

/-- The groups in their order. -/
def groups : List Text := ["paths", "limits", "scan", "catalog"]

/-- The group of a setting. -/
def group : SettingKey → Text
  | .report | .catalog => "paths"
  | .maxFileSize | .snippetMaxChars | .contextRadius | .maxWorkers => "limits"
  | .extensions | .sqlKeywords | .nameVerbs | .callVerbs | .ignoreVariables => "scan"
  | .db | .entityValue => "catalog"

/-- The name of a setting within its group. -/
def name : SettingKey → Text
  | .report => "report"
  | .catalog => "catalog"
  | .maxFileSize => "max_file_size"
  | .snippetMaxChars => "snippet_max_chars"
  | .contextRadius => "context_radius"
  | .maxWorkers => "max_workers"
  | .extensions => "extensions"
  | .sqlKeywords => "sql_keywords"
  | .nameVerbs => "name_verbs"
  | .callVerbs => "call_verbs"
  | .ignoreVariables => "ignore_variables"
  | .db => "db"
  | .entityValue => "entity_value"

/-- The setting with this group and name. -/
def find? (group name : Text) : Option SettingKey :=
  all.find? fun key => key.group == group && key.name == name

/-- A setting is found under its own group and name. -/
theorem find?_group_name (key : SettingKey) : find? key.group key.name = some key := by
  cases key <;> decide

/-- The environment variable of a setting, in capitals. -/
def variableName (key : SettingKey) : Text :=
  "SQLAUDIT_" ++ (key.group.map Char.toUpper ++ '_' :: key.name.map Char.toUpper)

/-- The default of a setting on a machine on which `workers` files are best scanned at a time. -/
def default (workers : Nat) : SettingKey → Json
  | .report => .string ".sqlaudit/sql_report.json"
  | .catalog => .string ".sqlaudit/sql_catalog.yml"
  | .maxFileSize => .integer 2097152
  | .snippetMaxChars => .integer 200
  | .contextRadius => .integer 40
  | .maxWorkers => .integer workers
  | .extensions => .array [.string ".pl"]
  | .sqlKeywords => .array (({} : Vocabulary).sqlKeywords.map .string)
  | .nameVerbs => .array (({} : Vocabulary).nameVerbs.map .string)
  | .callVerbs => .array (({} : Vocabulary).callVerbs.map .string)
  | .ignoreVariables => .array (({} : Vocabulary).ignoredVariables.map .string)
  | .db => .string "rep"
  | .entityValue => .string "BR"

end SettingKey

/-- A value for every setting. -/
abbrev Settings : Type := SettingKey → Json

/-- Settings with one value changed. -/
def Settings.set (settings : Settings) (key : SettingKey) (value : Json) : Settings :=
  fun k => if k = key then value else settings k

@[simp] theorem Settings.set_same (settings : Settings) (key : SettingKey) (value : Json) :
    settings.set key value key = value := by
  simp [Settings.set]

/-- Changing one setting leaves every other alone. -/
theorem Settings.set_other (settings : Settings) {key other : SettingKey} (value : Json)
    (h : other ≠ key) : settings.set key value other = settings other := by
  simp [Settings.set, h]

/-- Settings as an object of groups. -/
def Settings.toJson (settings : Settings) : Json :=
  .object (SettingKey.groups.map fun group =>
    (group, .object ((SettingKey.all.filter fun key => key.group == group).map fun key =>
      (key.name, settings key))))

end SqlInventory
