import SqlInventory.Log.Entry
import SqlInventory.Settings.Key

/-!
# The vocabulary that settings give

The word lists come out of settings whose items nobody has checked yet. An empty list of keywords or
verbs falls back to the default. Items that are no texts are refused, but only after all settings
have been looked up, so a missing setting is reported first.
-/

namespace SqlInventory

/-- Why settings give no vocabulary. -/
inductive WordsError where
  /-- A setting or group is missing. -/
  | missing (name : Text)
  /-- A value cannot be used where it stands. -/
  | badValue (message : Text)
  deriving DecidableEq, Repr

/-- The word lists and limits of settings, before the limits are taken as numbers. -/
structure Words where
  /-- Words that make a literal read like SQL. -/
  sqlKeywords : List Text
  /-- Words that say what a statement does. -/
  nameVerbs : List Text
  /-- Methods that run a statement. -/
  callVerbs : List Text
  /-- Values that are never reported as variables, each once. -/
  ignored : List Json
  /-- How much of a text is shown. -/
  snippetLimit : Json
  /-- How much text around a call is shown. -/
  contextRadius : Json
  deriving Repr

namespace Words

/-- The items of a value that can be gone through: a list's items, a text's characters, an object's
keys. -/
def itemsOf (value : Json) : Except WordsError (List Json) :=
  match value with
  | .array items => .ok items
  | .string t => .ok (t.map fun c => .string [c])
  | .object members => .ok (members.map fun m => .string m.1)
  | other => .error (.badValue ("'" ++ other.typeName ++ "' object is not iterable"))

/-- The first item that has parts and so cannot be a member of a set. -/
def unhashable? (items : List Json) : Option Json :=
  items.find? fun item => match item with
    | .array _ => true
    | .object _ => true
    | _ => false

/-- Items that can be members of a set. -/
def hashable (items : List Json) : Except WordsError (List Json) :=
  match unhashable? items with
  | some item => .error (.badValue ("unhashable type: '" ++ item.typeName ++ "'"))
  | none => .ok items

/-- The text that an item is. -/
def wordOf (item : Json) : Except WordsError Text :=
  match item with
  | .string t => .ok t
  | other => .error (.badValue ("object of type '" ++ other.typeName ++ "' has no len()"))

/-- The texts that items are. -/
def wordsOf (items : List Json) : Except WordsError (List Text) := do
  (← hashable items).mapM wordOf

/-- Whether two items that can be members of a set are the same member. Numbers are the same member
if they are at the same place, however they are written. -/
def sameItem (a b : Json) : Bool :=
  match a, b with
  | .string s, .string t => s == t
  | .null, .null => true
  | .decimal .undefined, .decimal .undefined => true
  | _, _ =>
    match a.onLine?, b.onLine? with
    | some m, some n => m == n
    | _, _ => false

/-- Items each once. -/
def distinctItems : List Json → List Json
  | [] => []
  | item :: rest => item :: (distinctItems rest).filter fun other => !sameItem item other

/-- Whether an item is a text. -/
def isText : Json → Bool
  | .string _ => true
  | _ => false

/-- Whether one item comes before another, or at the same place: texts by code points, numbers by
size. -/
def itemAtMost (a b : Json) : Bool :=
  match a, b with
  | .string s, .string t => Text.atMost s t
  | _, _ => a.atMost b

/-- Items in order. Only texts have an order among themselves, and numbers; any other item must be
alone. -/
def inOrder (items : List Json) : Except WordsError (List Json) :=
  if items.length ≤ 1 || items.all isText || items.all Json.isNumber then
    .ok (items.mergeSort itemAtMost)
  else .error (.badValue "values of different types have no order")

/-- The items of a list of words that count, or the default, with a remark, if there are none. -/
def wordList (lookUp : SettingKey → Except WordsError Json) (key : SettingKey) :
    Logged WordsError (List Json) := do
  let value ← .quiet (lookUp key)
  let items ← .quiet (itemsOf value)
  match items.filter Json.isTruthy with
  | [] =>
    Logged.tell .warning ("Empty scan." ++ key.name ++ " in config - using default value")
    match key.default 0 with
    | .array standard => pure standard
    | _ => pure []
  | words => pure words

/-- The word lists and limits that a look-up of settings gives. -/
def build (lookUp : SettingKey → Except WordsError Json) : Logged WordsError Words := do
  let sqlKeywords ← wordList lookUp .sqlKeywords
  let nameVerbs ← wordList lookUp .nameVerbs
  let callVerbs ← wordList lookUp .callVerbs
  let ignored ← .quiet (do hashable (← itemsOf (← lookUp .ignoreVariables)))
  let snippetLimit ← .quiet (lookUp .snippetMaxChars)
  let contextRadius ← .quiet (lookUp .contextRadius)
  -- Items are looked at last, so a missing setting is found before a bad item.
  .quiet (do
    return {
      sqlKeywords := ← wordsOf sqlKeywords
      nameVerbs := ← wordsOf nameVerbs
      callVerbs := ← wordsOf callVerbs
      ignored := distinctItems ignored
      snippetLimit
      contextRadius })

/-- The word lists and limits of settings. -/
def ofSettings (settings : Settings) : Logged WordsError Words :=
  build fun key => .ok (settings key)

/-- The setting of a configuration given as an object of groups. -/
def memberOf (config : Json) (key : SettingKey) : Except WordsError Json :=
  match config with
  | .object _ =>
    match config.member? key.group with
    | none => .error (.missing key.group)
    | some (.object members) =>
      match Json.member? key.name (.object members) with
      | some value => .ok value
      | none => .error (.missing key.name)
    | some _ => .error (.badValue "a group must be an object")
  | _ => .error (.badValue "a configuration must be an object")

/-- The word lists and limits of a configuration given as an object of groups; a group that is
missing is found before a setting is. -/
def ofConfig (config : Json) : Logged WordsError Words :=
  match config with
  | .object _ =>
    match ["scan".toList, "limits".toList].find? fun group => (config.member? group).isNone with
    | some group => .fail (.missing group)
    | none => build (memberOf config)
  | _ => .fail (.badValue "a configuration must be an object")

/-- A limit as a number. -/
def limitOf (value : Json) : Except WordsError Int :=
  match value.whole? with
  | some n => .ok n
  | none => .error (.badValue "slice indices must be integers or None or have an __index__ method")

/-- The texts among some items. -/
def textsOf (items : List Json) : List Text :=
  items.filterMap fun item => match item with
    | .string t => some t
    | _ => none

/-- The vocabulary of word lists and limits. -/
def vocabulary (words : Words) : Except WordsError Vocabulary := do
  return {
    sqlKeywords := words.sqlKeywords
    nameVerbs := words.nameVerbs
    callVerbs := words.callVerbs
    ignoredVariables := textsOf words.ignored
    snippetLimit := ← limitOf words.snippetLimit
    contextRadius := ← limitOf words.contextRadius }

end Words

end SqlInventory
