import SqlInventory.Text.Basic

/-!
# Line numbers

Tokens and findings carry the number of a line. Those that are read from a file carry whole numbers;
those that are handed over as data may carry a truth value, which counts as one or zero and is shown
as the truth value that it is.
-/

namespace SqlInventory

/-- The number of a line, as it was given. -/
inductive LineNumber where
  /-- A whole number. -/
  | number (n : Int)
  /-- A truth value in the place of a number. -/
  | truth (b : Bool)
  deriving DecidableEq, Repr

namespace LineNumber

instance (n : Nat) : OfNat LineNumber n := ⟨.number n⟩

/-- The number that counts. -/
def value : LineNumber → Int
  | .number n => n
  | .truth b => if b then 1 else 0

/-- The line number in a text. -/
def text : LineNumber → Text
  | .number n => Text.ofInt n
  | .truth b => if b then "True" else "False"

@[simp] theorem value_number (n : Int) : value (.number n) = n := rfl

@[simp] theorem text_number (n : Int) : text (.number n) = Text.ofInt n := rfl

end LineNumber

end SqlInventory
