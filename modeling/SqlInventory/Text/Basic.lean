/-!
# Text as a sequence of code points

Every length, position and limit of this library counts code points, so text is a list of
characters and the operations on it are the list operations. A surrogate is no character: texts with
half a surrogate pair in them are outside this library. What is added here is what a source-reading
tool keeps asking of text:

* `isBlank` and the operations built on it: `strip`, `collapse`;
* `position`, `upTo`, `between`: cuts whose ends may be counted from the end of the text;
* `splitAtChar` and `occursIn`;
* `ofNat` and `ofInt`: decimal numerals.

All functions are structural, so closed instances evaluate by `decide` or `rfl`.
-/

namespace SqlInventory

/-- Text is a list of code points, surrogates apart. -/
abbrev Text : Type := List Char

/-- A string literal may stand where a text is expected. -/
instance : Coe String Text := ⟨String.toList⟩

namespace Text

/-! ### Blanks -/

/-- The blank characters: the ASCII controls from tab to carriage return, the four information
separators, the space, and the space separators and line separators beyond ASCII. -/
def isBlank (c : Char) : Bool :=
  let n := c.toNat
  (9 ≤ n && n ≤ 13) || (28 ≤ n && n ≤ 32) || n == 0x85 || n == 0xA0 || n == 0x1680 ||
    (0x2000 ≤ n && n ≤ 0x200A) || n == 0x2028 || n == 0x2029 || n == 0x202F || n == 0x205F ||
    n == 0x3000

/-- `dropTrailing p t` is `t` without its longest end on which `p` holds. -/
def dropTrailing (p : Char → Bool) (t : Text) : Text :=
  (t.reverse.dropWhile p).reverse

/-- `stripBy p t` is `t` without its longest front and its longest end on which `p` holds. -/
def stripBy (p : Char → Bool) (t : Text) : Text :=
  dropTrailing p (t.dropWhile p)

/-- Text without surrounding blanks. -/
def strip (t : Text) : Text :=
  stripBy isBlank t

/-- `collapseFrom inRun t` writes each run of blanks of `t` as one space; if `inRun`, the space of
a run that `t` continues is already written. -/
def collapseFrom : Bool → Text → Text
  | _, [] => []
  | inRun, c :: rest =>
    if isBlank c then
      if inRun then collapseFrom true rest else ' ' :: collapseFrom true rest
    else c :: collapseFrom false rest

/-- Every run of blanks becomes one space. -/
def collapse (t : Text) : Text :=
  collapseFrom false t

@[simp] theorem collapse_nil : collapse [] = [] := rfl

/-! ### Positions and cuts -/

/-- The place in `t` that `i` names: counted from the front, or from the end when `i` is negative,
and moved to the nearer end of `t` when it lies outside. -/
def position (t : Text) (i : Int) : Nat :=
  if i < 0 then (t.length + i).toNat else min i.toNat t.length

/-- The text before the place that `stop` names. -/
def upTo (t : Text) (stop : Int) : Text :=
  t.take (position t stop)

/-- The text from the place that `start` names up to the place that `stop` names. -/
def between (t : Text) (start stop : Int) : Text :=
  (t.drop (position t start)).take (position t stop - position t start)

theorem upTo_natCast (t : Text) (n : Nat) : upTo t n = t.take n := by
  have h : ¬((n : Int) < 0) := by omega
  simp [upTo, position, h, ← List.take_eq_take_min]

/-! ### Splitting and searching -/

/-- The stretches of a text between the occurrences of `sep`; there is always at least one. -/
def splitAtChar (sep : Char) : Text → List Text
  | [] => [[]]
  | c :: rest =>
    if c = sep then [] :: splitAtChar sep rest
    else match splitAtChar sep rest with
      | [] => [[c]]
      | first :: others => (c :: first) :: others

/-- Whether `needle` is a contiguous stretch of a text. -/
def occursIn (needle : Text) : Text → Bool
  | [] => needle.isEmpty
  | c :: rest => needle.isPrefixOf (c :: rest) || occursIn needle rest

/-- The order by code points, in which a text comes before its proper continuations. -/
def atMost (a b : Text) : Bool :=
  match a, b with
  | [], _ => true
  | _ :: _, [] => false
  | x :: xs, y :: ys => if x = y then atMost xs ys else decide (x.toNat < y.toNat)

/-- `joinWith sep parts` writes `sep` between neighbouring parts. -/
def joinWith (sep : Text) (parts : List Text) : Text :=
  List.intercalate sep parts

/-- `replaceChar old new t` puts `new` in the place of every `old`. -/
def replaceChar (old new : Char) (t : Text) : Text :=
  t.map fun c => if c = old then new else c

/-! ### Numerals -/

/-- The decimal numeral of a natural number. -/
def ofNat (n : Nat) : Text :=
  Nat.toDigits 10 n

/-- The decimal numeral of an integer. -/
def ofInt : Int → Text
  | .ofNat n => ofNat n
  | .negSucc n => '-' :: ofNat (n + 1)

/-- `n` copies of `c`. -/
def fill (n : Nat) (c : Char) : Text :=
  List.replicate n c

/-- `t` followed by spaces up to `width` characters. -/
def padRight (width : Nat) (t : Text) : Text :=
  t ++ fill (width - t.length) ' '

/-- `t` preceded by spaces up to `width` characters. -/
def padLeft (width : Nat) (t : Text) : Text :=
  fill (width - t.length) ' ' ++ t

end Text

end SqlInventory
