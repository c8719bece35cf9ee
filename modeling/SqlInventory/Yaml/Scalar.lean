import SqlInventory.Text.Basic

/-!
# How a text may be written in YAML

A text can be written plain, in single quotes, in double quotes, or as a literal block. Double
quotes are always possible; the other forms exclude certain texts, which the predicates of this
module name. A plain text must also not read as something other than a text: `readsAsOther` lists
what plain scalars of the core types look like.
-/

namespace SqlInventory.Yaml

/-! ### Classes of characters -/

/-- The line breaks. -/
def isBreak (c : Char) : Bool :=
  c == '\n' || c.toNat == 0x85 || c.toNat == 0x2028 || c.toNat == 0x2029

/-- The characters that part an indicator from what follows. -/
def isBlank (c : Char) : Bool :=
  c.toNat == 0 || c == ' ' || c == '\t' || c == '\r' || isBreak c

/-- The characters that only double quotes can show, by escapes. -/
def isSpecial (c : Char) : Bool :=
  let n := c.toNat
  !(c == '\n' || (0x20 ≤ n && n ≤ 0x7E) || n == 0x85 || (0xA0 ≤ n && n ≤ 0xD7FF) ||
    (0xE000 ≤ n && n ≤ 0xFFFD && n != 0xFEFF) || (0x10000 ≤ n && n < 0x10FFFF))

/-- Whether a place is the end of the text or holds a blank. -/
def blankOrEnd (c : Option Char) : Bool :=
  match c with
  | some c => isBlank c
  | none => true

/-! ### Neighbouring characters -/

/-- Whether `p` holds for some character and the one before it. -/
def anyPair (p : Char → Char → Bool) : Text → Bool
  | a :: b :: rest => p a b || anyPair p (b :: rest)
  | _ => false

/-- Whether a space stands right before a break. -/
def hasSpaceBreak (t : Text) : Bool :=
  anyPair (fun a b => a == ' ' && isBreak b) t

/-- Whether a space stands right behind a break. -/
def hasBreakSpace (t : Text) : Bool :=
  anyPair (fun a b => isBreak a && b == ' ') t

/-- Whether, behind the first character, a colon has a blank or the end behind it. -/
def hasInnerColon (t : Text) : Bool :=
  (t.drop 1).getLast? == some ':' || anyPair (fun a b => a == ':' && isBlank b) (t.drop 1)

/-- Whether, behind the first character, a number sign has a blank before it. -/
def hasInnerComment (t : Text) : Bool :=
  anyPair (fun a b => isBlank a && b == '#') t

/-! ### What each form excludes -/

/-- Characters that cannot start a plain text. -/
def indicators : List Char :=
  ['#', ',', '[', ']', '{', '}', '&', '*', '!', '|', '>', '\'', '"', '%', '@', '`']

/-- Whether the start of a text would be taken for an indicator. -/
def startsAsIndicator (t : Text) : Bool :=
  match t with
  | [] => false
  | c :: rest =>
    indicators.contains c ||
      ((c == '?' || c == ':' || c == '-') && blankOrEnd rest.head?) ||
      "---".toList.isPrefixOf t || "...".toList.isPrefixOf t

/-- Whether a text has a space or break at one of its ends. -/
def hasEdgeSpace (t : Text) : Bool :=
  let edge (c : Char) : Bool := c == ' ' || isBreak c
  t.head?.any edge || t.getLast?.any edge

/-- Whether a text can stand without quotes as far as its characters go. -/
def plainAllowed (t : Text) : Bool :=
  !hasEdgeSpace t && !t.any isBreak && !t.any isSpecial && !startsAsIndicator t &&
    !hasInnerColon t && !hasInnerComment t

/-- Whether a text can stand in single quotes. -/
def singleAllowed (t : Text) : Bool :=
  !t.any isSpecial && !hasSpaceBreak t && !hasBreakSpace t

/-- Whether a text can be a literal block. -/
def blockAllowed (t : Text) : Bool :=
  !t.isEmpty && !t.any isSpecial && !hasSpaceBreak t && t.getLast? != some ' '

/-! ### What reads as something other than a text -/

/-- ASCII digits. -/
def isDigit (c : Char) : Bool := '0' ≤ c && c ≤ '9'

/-- ASCII digits and the underscore. -/
def isDigitOrLine (c : Char) : Bool := isDigit c || c == '_'

/-- A text without one sign at its front. -/
def withoutSign (t : Text) : Text :=
  match t with
  | '+' :: rest => rest
  | '-' :: rest => rest
  | _ => t

/-- Whether a text is at most two digits that denote a number below sixty. -/
def isSixtieth (t : Text) : Bool :=
  match t with
  | [a] => isDigit a
  | [a, b] => '0' ≤ a && a ≤ '5' && isDigit b
  | _ => false

/-- Whether a text is a first part that satisfies `first`, and then sixtieths, at least one, each
behind a colon. -/
def isSexagesimal (first : Text → Bool) (t : Text) : Bool :=
  match Text.splitAtChar ':' t with
  | head :: second :: others => first head && (second :: others).all isSixtieth
  | _ => false

/-- Digits and underscores, a digit other than zero first. -/
def isPositive (t : Text) : Bool :=
  t.head?.any (fun c => isDigit c && c != '0') && t.all isDigitOrLine

/-- Digits and underscores, a digit first. -/
def isNumeral (t : Text) : Bool :=
  t.head?.any isDigit && t.all isDigitOrLine

/-- Whether a text reads as a whole number. -/
def readsAsInt (t : Text) : Bool :=
  let u := withoutSign t
  let based (p : Char → Bool) (digits : Text) : Bool := !digits.isEmpty && digits.all p
  match u with
  | '0' :: 'b' :: rest => based (fun c => c == '0' || c == '1' || c == '_') rest
  | '0' :: 'x' :: rest =>
    based (fun c => isDigitOrLine c || ('a' ≤ c && c ≤ 'f') || ('A' ≤ c && c ≤ 'F')) rest
  | '0' :: rest => rest.isEmpty || based (fun c => ('0' ≤ c && c ≤ '7') || c == '_') rest
  | _ => isPositive u || isSexagesimal isPositive u

/-- Whether a text is empty or an exponent: `e`, a sign, and digits. -/
def isExponentPart (t : Text) : Bool :=
  match t with
  | [] => true
  | mark :: sign :: digits =>
    (mark == 'e' || mark == 'E') && (sign == '+' || sign == '-') && !digits.isEmpty &&
      digits.all isDigit
  | _ => false

/-- Whether a text reads as a number with a fraction. -/
def readsAsFloat (t : Text) : Bool :=
  let u := withoutSign t
  let whole := u.takeWhile (· != '.')
  match u.dropWhile (· != '.') with
  | [] => false
  | _ :: fraction =>
    let afterDigits := fraction.dropWhile isDigitOrLine
    (isNumeral whole && isExponentPart afterDigits) ||
      (t.head? == some '.' && fraction.head?.any isDigit && isExponentPart afterDigits) ||
      (isSexagesimal isNumeral whole && afterDigits.isEmpty) ||
      (whole.isEmpty && ["inf".toList, "Inf".toList, "INF".toList].contains fraction) ||
      (t.head? == some '.' && ["nan".toList, "NaN".toList, "NAN".toList].contains fraction)

/-- Whether a text is between `low` and `high` digits. -/
def isDigits (low high : Nat) (t : Text) : Bool :=
  decide (low ≤ t.length) && decide (t.length ≤ high) && t.all isDigit

/-- Whether a text is empty or a time zone behind blanks. -/
def isZone (t : Text) : Bool :=
  let zone := t.dropWhile fun c => c == ' ' || c == '\t'
  match zone with
  | [] => t.isEmpty
  | 'Z' :: rest => rest.isEmpty
  | sign :: rest =>
    (sign == '+' || sign == '-') &&
      match Text.splitAtChar ':' rest with
      | [hours] => isDigits 1 2 hours
      | [hours, minutes] => isDigits 1 2 hours && isDigits 2 2 minutes
      | _ => false

/-- Whether a text is a time of day with an optional fraction of a second and time zone. -/
def isClock (t : Text) : Bool :=
  let hours := t.takeWhile isDigit
  match t.drop hours.length with
  | ':' :: a :: b :: ':' :: c :: d :: rest =>
    let zone := match rest with
      | '.' :: fraction => fraction.dropWhile isDigit
      | _ => rest
    isDigits 1 2 hours && [a, b, c, d].all isDigit && isZone zone
  | _ => false

/-- Whether a text reads as a date, or as a date and a time. -/
def readsAsTimestamp (t : Text) : Bool :=
  let year := t.takeWhile isDigit
  match t.drop year.length with
  | '-' :: afterYear =>
    let month := afterYear.takeWhile isDigit
    match afterYear.drop month.length with
    | '-' :: afterMonth =>
      let day := afterMonth.takeWhile isDigit
      let rest := afterMonth.drop day.length
      let clock := match rest with
        | 'T' :: more => more
        | 't' :: more => more
        | _ => rest.dropWhile fun c => c == ' ' || c == '\t'
      isDigits 4 4 year &&
        ((isDigits 2 2 month && isDigits 2 2 day && rest.isEmpty) ||
          (isDigits 1 2 month && isDigits 1 2 day && !rest.isEmpty &&
            clock.length != rest.length && isClock clock))
    | _ => false
  | _ => false

/-- The words for truth values and for nothing, and the two marks with a meaning of their own. -/
def reservedWords : List Text :=
  ["yes", "Yes", "YES", "no", "No", "NO", "true", "True", "TRUE", "false", "False", "FALSE",
    "on", "On", "ON", "off", "Off", "OFF", "~", "null", "Null", "NULL", "", "<<", "="]

/-- Whether a plain text would read as something other than a text. -/
def readsAsOther (t : Text) : Bool :=
  reservedWords.contains t || readsAsInt t || readsAsFloat t || readsAsTimestamp t

end SqlInventory.Yaml
