import SqlInventory.Text.Basic

/-!
# Text under tags

Text for the terminal together with the *spans* that its tags cover. Where a span starts or ends the
terminal is told of another style, so the text is sent in *stretches*, cut at the ends of all spans.
Joined again, the stretches are the text.
-/

namespace SqlInventory

/-- A text with the spans that tags cover, each from its first place to the place behind it. -/
structure Styled where
  /-- The text. -/
  text : Text
  /-- The spans. -/
  spans : List (Nat × Nat) := []
  deriving DecidableEq, Repr

namespace Styled

/-- The first `n` characters. -/
def take (s : Styled) (n : Nat) : Styled where
  text := s.text.take n
  spans := (s.spans.filter fun span => span.1 < n).map fun (start, stop) => (start, min stop n)

/-- The characters from `first` on, `length` of them. A span that has none of them is left out. -/
def slice (s : Styled) (first length : Nat) : Styled where
  text := (s.text.drop first).take length
  spans := s.spans.filterMap fun (start, stop) =>
    let start := max start first - first
    let stop := min stop (first + length) - first
    if start < stop then some (start, stop) else none

/-- The slices of the given lengths from `first` on, with `gap` characters left out between two. -/
def slices (s : Styled) (gap first : Nat) : List Nat → List Styled
  | [] => []
  | length :: rest => s.slice first length :: s.slices gap (first + length + gap) rest

/-- A text in parts of the given lengths, with `gap` characters left out between two. What is not
parted keeps all its spans. -/
def divide (s : Styled) (gap : Nat) (lengths : List Nat) : List Styled :=
  if lengths.length ≤ 1 then [s] else s.slices gap 0 lengths

/-- One text behind the other. -/
def append (s t : Styled) : Styled where
  text := s.text ++ t.text
  spans := s.spans ++ t.spans.map fun (start, stop) =>
    (s.text.length + start, s.text.length + stop)

/-- A text from `reached` on, cut at increasing places. -/
def cutFrom (reached : Nat) (t : Text) : List Nat → List Text
  | [] => [t]
  | place :: rest => t.take (place - reached) :: cutFrom place (t.drop (place - reached)) rest

/-- The stretches of a text. -/
def stretches (s : Styled) : List Text :=
  let ends := s.spans.flatMap fun (start, stop) => [start, stop]
  cutFrom 0 s.text (ends.mergeSort fun a b => a ≤ b)

end Styled

end SqlInventory
