import SqlInventory.Text.Word
import SqlInventory.Text.Case

/-!
# Looking for whole words

A word list is tried at a place in a fixed order, longer words first, so that a word is never
hidden by a shorter one that starts it. A listed word is found at a place if it stands there with
case ignored and ends at a boundary (`endingWord?`), and as a whole word if a boundary also comes
before it (`wholeWord?`). An empty list stands for the one empty word, which is found at every
boundary.
-/

namespace SqlInventory

namespace Text

/-- The order in which words are tried: longer first, words of one length by code points. -/
def triedBefore (a b : Text) : Bool :=
  if a.length = b.length then atMost a b else decide (b.length < a.length)

/-- The distinct words in the order in which they are tried. -/
def trialOrder (words : List Text) : List Text :=
  match words.eraseDups.mergeSort triedBefore with
  | [] => [[]]
  | ordered => ordered

/-- Whether `word` stands at the front of `t`, case ignored, and a boundary comes behind it. -/
def endsHere (before : Option Char) (t word : Text) : Bool :=
  isFrontOf word t &&
    isBoundary ((t.take word.length).getLast?.or before) (t.drop word.length).head?

/-- The stretch at the front of `t` that is the first of the ordered words found there. -/
def endingWord? (ordered : List Text) (before : Option Char) (t : Text) : Option Text :=
  (ordered.find? (endsHere before t)).map fun word => t.take word.length

/-- As `endingWord?`, with a boundary before the word too. -/
def wholeWord? (ordered : List Text) (before : Option Char) (t : Text) : Option Text :=
  if isBoundary before t.head? then endingWord? ordered before t else none

/-- The first whole word of a text that stands behind `before`. -/
def firstWordFrom? (ordered : List Text) : Option Char → Text → Option Text
  | before, [] => wholeWord? ordered before []
  | before, c :: rest =>
    match wholeWord? ordered before (c :: rest) with
    | some word => some word
    | none => firstWordFrom? ordered (some c) rest

/-- The first stretch of a text that is one of `words` as a whole word. -/
def firstWord? (words : List Text) (t : Text) : Option Text :=
  firstWordFrom? (trialOrder words) none t

end Text

end SqlInventory
