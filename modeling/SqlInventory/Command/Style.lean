import SqlInventory.Text.Case
import SqlInventory.Text.Numeral

/-!
# Styles of text on a terminal

A tag names a style by words: attributes such as `bold`, each possibly behind `not`, a colour, a
colour behind `on` for the ground, and an address behind `link`. Of two words for one thing the last
counts. Styles that look the same have one *normal name*, with the words in a fixed order; by that
name a closing tag finds the tag that it closes.
-/

namespace SqlInventory

/-- The colours that have a name. -/
def colourNames : List String :=
  [
    "aquamarine1", "aquamarine3", "black", "blue", "blue1", "blue3", "blue_violet", "bright_black",
    "bright_blue", "bright_cyan", "bright_green", "bright_magenta", "bright_red", "bright_white",
    "bright_yellow", "cadet_blue", "chartreuse1", "chartreuse2", "chartreuse3", "chartreuse4",
    "cornflower_blue", "cornsilk1", "cyan", "cyan1", "cyan2", "cyan3", "dark_blue", "dark_cyan",
    "dark_goldenrod", "dark_green", "dark_khaki", "dark_magenta", "dark_olive_green1",
    "dark_olive_green2", "dark_olive_green3", "dark_orange", "dark_orange3", "dark_red",
    "dark_sea_green", "dark_sea_green1", "dark_sea_green2", "dark_sea_green3", "dark_sea_green4",
    "dark_slate_gray1", "dark_slate_gray2", "dark_slate_gray3", "dark_turquoise", "dark_violet",
    "deep_pink1", "deep_pink2", "deep_pink3", "deep_pink4", "deep_sky_blue1", "deep_sky_blue2",
    "deep_sky_blue3", "deep_sky_blue4", "dodger_blue1", "dodger_blue2", "dodger_blue3", "gold1",
    "gold3", "gray0", "gray100", "gray11", "gray15", "gray19", "gray23", "gray27", "gray3",
    "gray30", "gray35", "gray37", "gray39", "gray42", "gray46", "gray50", "gray53", "gray54",
    "gray58", "gray62", "gray63", "gray66", "gray69", "gray7", "gray70", "gray74", "gray78",
    "gray82", "gray84", "gray85", "gray89", "gray93", "green", "green1", "green3", "green4",
    "green_yellow", "grey0", "grey100", "grey11", "grey15", "grey19", "grey23", "grey27", "grey3",
    "grey30", "grey35", "grey37", "grey39", "grey42", "grey46", "grey50", "grey53", "grey54",
    "grey58", "grey62", "grey63", "grey66", "grey69", "grey7", "grey70", "grey74", "grey78",
    "grey82", "grey84", "grey85", "grey89", "grey93", "honeydew2", "hot_pink", "hot_pink2",
    "hot_pink3", "indian_red", "indian_red1", "khaki1", "khaki3", "light_coral", "light_cyan1",
    "light_cyan3", "light_goldenrod1", "light_goldenrod2", "light_goldenrod3", "light_green",
    "light_pink1", "light_pink3", "light_pink4", "light_salmon1", "light_salmon3",
    "light_sea_green", "light_sky_blue1", "light_sky_blue3", "light_slate_blue", "light_slate_gray",
    "light_slate_grey", "light_steel_blue", "light_steel_blue1", "light_steel_blue3",
    "light_yellow3", "magenta", "magenta1", "magenta2", "magenta3", "medium_orchid",
    "medium_orchid1", "medium_orchid3", "medium_purple", "medium_purple1", "medium_purple2",
    "medium_purple3", "medium_purple4", "medium_spring_green", "medium_turquoise",
    "medium_violet_red", "misty_rose1", "misty_rose3", "navajo_white1", "navajo_white3",
    "navy_blue", "orange1", "orange3", "orange4", "orange_red1", "orchid", "orchid1", "orchid2",
    "pale_green1", "pale_green3", "pale_turquoise1", "pale_turquoise4", "pale_violet_red1", "pink1",
    "pink3", "plum1", "plum2", "plum3", "plum4", "purple", "purple3", "purple4", "red", "red1",
    "red3", "rosy_brown", "royal_blue1", "salmon1", "sandy_brown", "sea_green1", "sea_green2",
    "sea_green3", "sky_blue1", "sky_blue2", "sky_blue3", "slate_blue1", "slate_blue3",
    "spring_green1", "spring_green2", "spring_green3", "spring_green4", "steel_blue", "steel_blue1",
    "steel_blue3", "tan", "thistle1", "thistle3", "turquoise2", "turquoise4", "violet", "wheat1",
    "wheat4", "white", "yellow", "yellow1", "yellow2", "yellow3", "yellow4"
  ]

/-- What a style says. -/
structure Style where
  /-- The attributes that are switched on or off. -/
  attributes : List (Text × Bool) := []
  /-- The colour of the letters. -/
  colour : Option Text := none
  /-- The colour of the ground. -/
  ground : Option Text := none
  /-- The address that the text leads to. -/
  link : Option Text := none
  deriving DecidableEq, Repr

namespace Style

/-- The attributes, in the order of normal names. -/
def attributeNames : List Text :=
  ["bold", "dim", "italic", "underline", "blink", "blink2", "reverse", "conceal", "strike",
    "underline2", "frame", "encircle", "overline"]

/-- The short words for attributes. -/
def shortAttributes : List (Text × Text) :=
  [("b", "bold"), ("d", "dim"), ("i", "italic"), ("u", "underline"), ("r", "reverse"),
    ("c", "conceal"), ("s", "strike"), ("uu", "underline2"), ("o", "overline")]

/-- The attribute that a word stands for. -/
def attribute? (word : Text) : Option Text :=
  if attributeNames.contains word then some word
  else (shortAttributes.find? fun short => short.1 == word).map (·.2)

/-- Whether a text is six digits to the base sixteen. -/
def isHexTriple (t : Text) : Bool :=
  t.length == 6 && t.all fun c => ('0' ≤ c && c ≤ '9') || ('a' ≤ c && c ≤ 'f')

/-- What stands in parentheses behind a word that starts a text and ends it. -/
def argument? (word t : Text) : Option Text :=
  let opening := word ++ ['(']
  if opening.isPrefixOf t && t.getLast? == some ')' then
    some ((t.drop opening.length).dropLast)
  else none

/-- Why words are no style. -/
inductive Error where
  /-- A word means nothing. -/
  | unknown
  /-- A part of a colour is no number. -/
  | notNumber (part : Text)
  deriving DecidableEq, Repr

/-- Accepts a number that is at most 255. -/
def checkByte (n : Int) : Except Error Unit :=
  if n ≤ 255 then .ok () else .error .unknown

/-- Accepts three numbers with commas between, each at most 255. -/
def checkParts (t : Text) : Except Error Unit := do
  let parts := Text.splitAtChar ',' t
  if t.isEmpty || parts.length ≠ 3 || !t.all fun c => c == ',' || (Text.digitValue? c).isSome then
    .error .unknown
  let numbers ← parts.mapM fun part =>
    match Text.wholeNumber? part with
    | some n => Except.ok n
    | none => .error (.notNumber part)
  numbers.forM checkByte

/-- Accepts a word in small letters that is a colour: by name, by number, or by its three parts. -/
def checkColour (word : Text) : Except Error Unit :=
  if word == "default" || colourNames.contains (String.ofList word) ||
      (word.head? == some '#' && isHexTriple (word.drop 1)) then .ok ()
  else
    match argument? "color" word, argument? "rgb" word with
    | some t, _ =>
      match Text.wholeNumber? t with
      | some n => if t.length ≤ 3 && t.all Char.isDigit then checkByte n else .error .unknown
      | none => .error .unknown
    | none, some t => checkParts t
    | none, none => .error .unknown

/-- A style with an attribute switched on or off. -/
def switch (style : Style) (name : Text) (on : Bool) : Style :=
  { style with attributes := (name, on) :: style.attributes.filter fun a => a.1 != name }

/-- A style with more words. -/
def ofWordsFrom : Style → List Text → Except Error Style
  | style, [] => .ok style
  | style, word :: rest =>
    let small := Text.lower word
    if small == "on" || small == "not" || small == "link" then
      match rest with
      | [] => .error .unknown
      | object :: more =>
        if small == "on" then
          match checkColour (Text.lower object) with
          | .ok () => ofWordsFrom { style with ground := some (Text.lower object) } more
          | .error e => .error e
        else if small == "link" then ofWordsFrom { style with link := some object } more
        else
          match attribute? object with
          | some name => ofWordsFrom (style.switch name false) more
          | none => .error .unknown
    else
      match attribute? small with
      | some name => ofWordsFrom (style.switch name true) rest
      | none =>
        match checkColour small with
        | .ok () => ofWordsFrom { style with colour := some small } rest
        | .error e => .error e

/-- The words of the normal name of a style. -/
def normalWords (style : Style) : List Text :=
  let switched : List Text := attributeNames.flatMap fun name =>
    match style.attributes.find? fun a => a.1 == name with
    | some (_, true) => [name]
    | some (_, false) => ["not".toList, name]
    | none => []
  let ground := (style.ground.map fun c => ["on".toList, c]).getD []
  let link := (style.link.map fun l => ["link".toList, l]).getD []
  switched ++ style.colour.toList ++ ground ++ link

/-- The words of a text. -/
def wordsOf (t : Text) : List Text :=
  (Text.splitAtChar ' ' (Text.collapse t)).filter fun word => !word.isEmpty

/-- The name by which a style is known, or the part of a colour that is no number. What is no style
for another reason is known by its own small letters. -/
def normalName (t : Text) : Except Text Text :=
  if Text.strip t == "none" then .ok "none"
  else
    match ofWordsFrom {} (wordsOf t) with
    | .ok style =>
      .ok (if style.normalWords.isEmpty then "none" else Text.joinWith " " style.normalWords)
    | .error .unknown => .ok (Text.lower (Text.strip t))
    | .error (.notNumber part) => .error part

end Style

end SqlInventory
