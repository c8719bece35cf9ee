import SqlInventory.Json.Basic
import SqlInventory.Text.Case
import SqlInventory.Text.Numeral

/-!
# Values given as text

An environment variable gives a setting as text. The text is read as the kind of value that the
setting has at the moment: a truth value, a whole number, a decimal, or a list parted by commas. Any
other setting takes the text as it is.
-/

namespace SqlInventory

/-- A value that does not fit a setting. -/
structure SettingError where
  /-- The setting. -/
  key : Text
  /-- The value. -/
  value : Json
  /-- Why it does not fit. -/
  details : Text := []
  deriving Repr

/-- The error in words. -/
def SettingError.message (e : SettingError) : Text :=
  let reason : Text := if e.details.isEmpty then [] else " (" ++ e.details ++ ")"
  "Invalid value for " ++ e.key ++ ": " ++ e.value.display ++ reason

/-- The words that stand for true. -/
def trueWords : List Text := ["1", "true", "yes", "on"]

/-- The items of a list parted by commas, empty ones left out. -/
def commaItems (raw : Text) : List Text :=
  ((Text.splitAtChar ',' raw).map Text.strip).filter fun item => !item.isEmpty

/-- Why a text is no whole number, in words; of a long text only the beginning is shown. -/
def wholeNumberDetails (raw : Text) : NumeralError → Text
  | .malformed => "invalid literal for int() with base 10: " ++ (Text.quoted raw).take 200
  | .tooLong digits => Text.tooLongMessage digits

/-- The value that a text gives to a setting whose value is `current`. -/
def coerce (key raw : Text) (current : Json) : Except SettingError Json :=
  match current with
  | .bool _ => .ok (.bool (trueWords.contains (Text.lower (Text.strip raw))))
  | .integer _ =>
    match Text.wholeNumber raw with
    | .ok n => .ok (.integer n)
    | .error e => .error { key, value := .string raw, details := wholeNumberDetails raw e }
  | .decimal _ =>
    match Text.decimal? raw with
    | some d => .ok (.decimal d)
    | none =>
      let details := "could not convert string to float: " ++ Text.quoted raw
      .error { key, value := .string raw, details }
  | .array _ => .ok (.array ((commaItems raw).map .string))
  | _ => .ok (.string raw)

end SqlInventory
