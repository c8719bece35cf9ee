import SqlInventory.Json.Basic
import SqlInventory.Text.Numeral

/-!
# Reading JSON

The reader accepts JSON and the three words `NaN`, `Infinity` and `-Infinity`. A raw control
character in a string and anything but blanks behind the value are refused. If a key occurs twice,
the last value counts, in the place of the first. Whole numbers with too many digits and values
nested too deeply are refused as well, each with a cause of its own; the first cause from the left
is reported. How deep and how long they may be is for those who read to say.

Reading a value uses one unit of fuel per level and per item; a text has fewer items than
characters, so the text's own length is fuel enough.
-/

namespace SqlInventory

/-- Why a text cannot be read as JSON. -/
inductive JsonError where
  /-- It is not written like JSON. -/
  | malformed
  /-- A whole number has too many digits. -/
  | tooLong (digits : Nat)
  /-- An array is nested too deeply. -/
  | deepArray
  /-- An object is nested too deeply. -/
  | deepObject
  deriving DecidableEq, Repr

namespace Json

/-- The blanks of JSON. -/
def isSpace (c : Char) : Bool :=
  c == ' ' || c == '\t' || c == '\n' || c == '\r'

/-- A text without the blanks at its front. -/
def skipSpace (t : Text) : Text :=
  t.dropWhile isSpace

/-! ### Strings -/

/-- The value of a hexadecimal digit. -/
def hexValue? (c : Char) : Option Nat :=
  if '0' ≤ c ∧ c ≤ '9' then some (c.toNat - 48)
  else if 'a' ≤ c ∧ c ≤ 'f' then some (c.toNat - 87)
  else if 'A' ≤ c ∧ c ≤ 'F' then some (c.toNat - 55)
  else none

/-- The UTF-16 unit that four hexadecimal digits denote. -/
def unit? (a b c d : Char) : Option Nat :=
  match hexValue? a, hexValue? b, hexValue? c, hexValue? d with
  | some a, some b, some c, some d => some (((a * 16 + b) * 16 + c) * 16 + d)
  | _, _, _, _ => none

/-- The character that a backslash and `c` denote. -/
def shortEscape? (c : Char) : Option Char :=
  if c = '"' || c = '\\' || c = '/' then some c
  else if c = 'b' then some (Char.ofNat 8)
  else if c = 'f' then some (Char.ofNat 12)
  else if c = 'n' then some '\n'
  else if c = 'r' then some '\r'
  else if c = 't' then some '\t'
  else none

/-- Whether a unit is the first of a pair. -/
def isHighUnit (unit : Nat) : Bool :=
  0xD800 ≤ unit && unit < 0xDC00

/-- Whether a unit is the second of a pair. -/
def isLowUnit (unit : Nat) : Bool :=
  0xDC00 ≤ unit && unit < 0xE000

/-- The character of a unit that is not paired. Half a pair has none, and no text can hold it: it is
read as U+FFFD, also where another reader would keep it. -/
def unitChar (unit : Nat) : Char :=
  if isHighUnit unit || isLowUnit unit then '�' else Char.ofNat unit

/-- The character of a pair of units. -/
def pairChar (high low : Nat) : Char :=
  Char.ofNat (0x10000 + (high - 0xD800) * 0x400 + (low - 0xDC00))

/-- The second unit of a pair, if its escape is at the front of a text. -/
def lowUnit? : Text → Option Nat
  | '\\' :: 'u' :: a :: b :: c :: d :: _ =>
    match unit? a b c d with
    | some unit => if isLowUnit unit then some unit else none
    | none => none
  | _ => none

/-- The string whose opening quote is read already, and what follows it; `skip` characters belong to
an escape that is read already. -/
def readString : Nat → Text → Option (Text × Text)
  | _, [] => none
  | skip + 1, _ :: rest => readString skip rest
  | 0, c :: rest =>
    if c = '"' then some ([], rest)
    else if c.toNat < 32 then none
    else if c = '\\' then
      match rest with
      | 'u' :: a :: b :: d :: e :: more =>
        match unit? a b d e with
        | none => none
        | some unit =>
          match if isHighUnit unit then lowUnit? more else none with
          | some low =>
            (readString 11 rest).map fun (t, after) => (pairChar unit low :: t, after)
          | none => (readString 5 rest).map fun (t, after) => (unitChar unit :: t, after)
      | short :: _ =>
        match shortEscape? short with
        | some shown => (readString 1 rest).map fun (t, after) => (shown :: t, after)
        | none => none
      | [] => none
    else (readString 0 rest).map fun (t, after) => (c :: t, after)

/-! ### Numbers -/

/-- The ASCII digits at the front of a text, and what follows them. -/
def takeDigits (t : Text) : Text × Text :=
  let isDigit (c : Char) : Bool := '0' ≤ c && c ≤ '9'
  (t.takeWhile isDigit, t.dropWhile isDigit)

/-- The number that ASCII digits denote. -/
def digitsValue (digits : Text) : Nat :=
  digits.foldl (fun n c => n * 10 + (c.toNat - 48)) 0

/-- The digits of a whole part: a zero alone, or digits that start with none. -/
def takeWhole (t : Text) : Text × Text :=
  match t with
  | '0' :: rest => (['0'], rest)
  | _ => takeDigits t

/-- The digits of a fraction, if there is one. -/
def takeFraction (t : Text) : Text × Text :=
  match t with
  | '.' :: rest =>
    match takeDigits rest with
    | ([], _) => ([], t)
    | found => found
  | _ => ([], t)

/-- An exponent, if there is one. -/
def takeExponent (t : Text) : Option Int × Text :=
  match t with
  | mark :: rest =>
    if mark = 'e' || mark = 'E' then
      let (negative, digits) := Text.takeSign rest
      match takeDigits digits with
      | ([], _) => (none, t)
      | (found, after) =>
        let n : Int := digitsValue found
        (some (if negative then -n else n), after)
    else (none, t)
  | [] => (none, [])

/-- A number, and what follows it; a whole number may have `digits` digits. -/
def readNumber (digits : Nat) (t : Text) : Except JsonError (Json × Text) :=
  let negative := t.head? == some '-'
  match takeWhole (if negative then t.drop 1 else t) with
  | ([], _) => .error .malformed
  | (whole, afterWhole) =>
    let (fraction, afterFraction) := takeFraction afterWhole
    let (exponent, after) := takeExponent afterFraction
    if fraction.isEmpty && exponent.isNone then
      if digits < whole.length then .error (.tooLong whole.length)
      else
        let n : Int := digitsValue whole
        .ok (.integer (if negative then -n else n), after)
    else
      let n := digitsValue (whole ++ fraction)
      .ok (.decimal (Double.ofDecimal negative n (exponent.getD 0 - fraction.length)), after)

/-- The words that are values. -/
def words : List (Text × Json) :=
  [("null", .null), ("true", .bool true), ("false", .bool false),
    ("NaN", .decimal .undefined), ("Infinity", .decimal (.infinite false)),
    ("-Infinity", .decimal (.infinite true))]

/-- A word or a number, and what follows it. -/
def readScalar (digits : Nat) (t : Text) : Except JsonError (Json × Text) :=
  match words.find? fun w => w.1.isPrefixOf t with
  | some (word, value) => .ok (value, t.drop word.length)
  | none => readNumber digits t

/-! ### Values -/

mutual

/-- The value at the front of a text, and what follows it; it may have arrays and objects within
each other on `levels` levels, and whole numbers with `digits` digits. -/
def readValue (digits : Nat) : Nat → Nat → Text → Except JsonError (Json × Text)
  | 0, _, _ => .error .malformed
  | fuel + 1, levels, t =>
    match t with
    | '"' :: rest =>
      match readString 0 rest with
      | some (value, after) => .ok (.string value, after)
      | none => .error .malformed
    | '[' :: rest =>
      match levels with
      | 0 => .error .deepArray
      | levels + 1 =>
        match skipSpace rest with
        | ']' :: after => .ok (.array [], after)
        | items =>
          (readItems digits fuel levels items).map fun (values, after) => (.array values, after)
    | '{' :: rest =>
      match levels with
      | 0 => .error .deepObject
      | levels + 1 =>
        match skipSpace rest with
        | '}' :: after => .ok (.object [], after)
        | members =>
          (readMembers digits fuel levels [] members).map fun (ms, after) => (.object ms, after)
    | _ => readScalar digits t

/-- One or more items up to the closing bracket, and what follows it. -/
def readItems (digits : Nat) : Nat → Nat → Text → Except JsonError (List Json × Text)
  | 0, _, _ => .error .malformed
  | fuel + 1, levels, t =>
    match readValue digits fuel levels t with
    | .error e => .error e
    | .ok (value, after) =>
      match skipSpace after with
      | ']' :: rest => .ok ([value], rest)
      | ',' :: rest =>
        (readItems digits fuel levels (skipSpace rest)).map fun (values, last) =>
          (value :: values, last)
      | _ => .error .malformed

/-- One or more members up to the closing brace, put after those read already, and what follows
it. -/
def readMembers (digits : Nat) : Nat → Nat → List (Text × Json) → Text →
    Except JsonError (List (Text × Json) × Text)
  | 0, _, _, _ => .error .malformed
  | fuel + 1, levels, members, t =>
    match t with
    | '"' :: rest =>
      match readString 0 rest with
      | none => .error .malformed
      | some (key, afterKey) =>
        match skipSpace afterKey with
        | ':' :: afterColon =>
          match readValue digits fuel levels (skipSpace afterColon) with
          | .error e => .error e
          | .ok (value, after) =>
            match skipSpace after with
            | '}' :: last => .ok (put key value members, last)
            | ',' :: more =>
              readMembers digits fuel levels (put key value members) (skipSpace more)
            | _ => .error .malformed
        | _ => .error .malformed
    | _ => .error .malformed

end

/-- The value that a text denotes, within limits on its levels and on the digits of its whole
numbers. -/
def parse (levels digits : Nat) (t : Text) : Except JsonError Json :=
  match readValue digits (t.length + 1) levels (skipSpace t) with
  | .ok (value, after) => if (skipSpace after).isEmpty then .ok value else .error .malformed
  | .error e => .error e

/-- The value that a text denotes, without limits: no text has more levels or digits than
characters. -/
def decode (t : Text) : Except JsonError Json :=
  parse t.length t.length t

end Json

end SqlInventory
