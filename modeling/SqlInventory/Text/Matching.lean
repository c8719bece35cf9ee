/-!
# Leftmost matches without overlap

Searching and replacing go through a sequence from left to right. At each place a *recogniser* is
shown the element before it and what follows; if it answers, the stretch it takes is a match, and
the search goes on behind that stretch, otherwise one element further on. Because a match takes at
least one element, both walks recurse on the sequence itself: `skip` counts the elements of the
current match that are still to be passed.

* `findAll` lists the matches with their places;
* `replaceAll` replaces each match by what the recogniser gives for it.

The two walks visit the same places, so a fact about every match of one holds for the other.
-/

namespace SqlInventory

/-- A recogniser is given the element before a place and the sequence from that place on. It
answers how many elements its match takes and what the match means. -/
abbrev Recogniser (α β : Type) : Type :=
  Option α → List α → Option (Nat × β)

/-- A match: the places where it starts and ends, and what it means. -/
structure Match (β : Type) where
  /-- The place of its first element. -/
  start : Nat
  /-- The place behind its last element. -/
  stop : Nat
  /-- What the recogniser says of it. -/
  value : β
  deriving DecidableEq, Repr

namespace Recogniser

variable {α β : Type}

/-- The matches of `rule` in a sequence whose first element is at place `at`, behind `before`,
with `skip` elements still taken by an earlier match. -/
def findAllFrom (rule : Recogniser α β) : Option α → Nat → Nat → List α → List (Match β)
  | _, _, _, [] => []
  | _, skip + 1, place, a :: rest => findAllFrom rule (some a) skip (place + 1) rest
  | before, 0, place, a :: rest =>
    match rule before (a :: rest) with
    | some (n + 1, b) =>
      ⟨place, place + n + 1, b⟩ :: findAllFrom rule (some a) n (place + 1) rest
    | _ => findAllFrom rule (some a) 0 (place + 1) rest

/-- The matches of `rule`, from left to right and without overlap. -/
def findAll (rule : Recogniser α β) (l : List α) : List (Match β) :=
  findAllFrom rule none 0 0 l

/-- A sequence with every match of `rule` replaced, as `findAllFrom` finds them. -/
def replaceFrom (rule : Recogniser α (List α)) : Option α → Nat → List α → List α
  | _, _, [] => []
  | _, skip + 1, a :: rest => replaceFrom rule (some a) skip rest
  | before, 0, a :: rest =>
    match rule before (a :: rest) with
    | some (n + 1, out) => out ++ replaceFrom rule (some a) n rest
    | _ => a :: replaceFrom rule (some a) 0 rest

/-- A sequence with every match of `rule` replaced by what `rule` gives for it. -/
def replaceAll (rule : Recogniser α (List α)) (l : List α) : List α :=
  replaceFrom rule none 0 l

/-- The first match of `rule`. -/
def find? (rule : Recogniser α β) (l : List α) : Option (Match β) :=
  (findAll rule l).head?

@[simp] theorem findAll_nil (rule : Recogniser α β) : findAll rule [] = [] := rfl

@[simp] theorem replaceAll_nil (rule : Recogniser α (List α)) : replaceAll rule [] = [] := rfl

end Recogniser

end SqlInventory
