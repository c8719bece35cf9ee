import SqlInventory.Text.Basic
import SqlInventory.Text.CaseTable

/-!
# Letter case

`lowerChar` is the one-character map; `lower` and `upper` are the maps of a whole text, in which
a letter may become several and a capital sigma becomes a final one at the end of a word.
`sameLetter` is equality when case is ignored: equal small letters, or small letters of one kin
(`s` and the long s, `i` and the dotless i, …).
-/

namespace SqlInventory

namespace Text

/-- The small letter of `c`, one character for one. -/
def lowerChar (c : Char) : Char :=
  if c.toNat < 128 then
    if 65 ≤ c.toNat ∧ c.toNat ≤ 90 then Char.ofNat (c.toNat + 32) else c
  else match lowerRuns.findSome? fun run => run.apply? c.toNat with
    | some n => Char.ofNat n
    | none => c

/-- Whether `c` is passed over when the form of a sigma is decided. -/
def isCaseIgnorable (c : Char) : Bool :=
  caseIgnorableRanges.has c.toNat

/-- Whether `c` is a letter with case. -/
def isCased (c : Char) : Bool :=
  casedRanges.has c.toNat

/-- Whether the first character that is not passed over is a letter with case. -/
def casedNext (t : Text) : Bool :=
  (t.dropWhile isCaseIgnorable).head?.any isCased

/-- The small form of a text; `casedBefore` tells whether a letter with case stands before it. -/
def lowerFrom : Bool → Text → Text
  | _, [] => []
  | casedBefore, c :: rest =>
    if c.toNat < 128 then
      lowerChar c :: lowerFrom (if isCaseIgnorable c then casedBefore else isCased c) rest
    else
      let small :=
        if c = 'Σ' then
          [if casedBefore && !casedNext rest then 'ς' else 'σ']
        else if c = 'İ' then ['i', '̇']
        else [lowerChar c]
      small ++ lowerFrom (if isCaseIgnorable c then casedBefore else isCased c) rest

/-- The small form of a text. -/
def lower (t : Text) : Text :=
  lowerFrom false t

/-- The capital form of a character, which may take several characters. -/
def upperChar (c : Char) : Text :=
  if c.toNat < 128 then
    if 97 ≤ c.toNat ∧ c.toNat ≤ 122 then [Char.ofNat (c.toNat - 32)] else [c]
  else match longUppers.find? fun entry => entry.1 == c.toNat with
    | some (_, codes) => codes.map Char.ofNat
    | none => match upperRuns.findSome? fun run => run.apply? c.toNat with
      | some n => [Char.ofNat n]
      | none => [c]

/-- The capital form of a text. -/
def upper (t : Text) : Text :=
  t.flatMap upperChar

/-- Whether two characters are the same letter when case is ignored. -/
def sameLetter (a b : Char) : Bool :=
  let x := lowerChar a
  let y := lowerChar b
  x == y || letterKin.any fun kin => kin.contains x.toNat && kin.contains y.toNat

/-- Whether `word`, case ignored, is the front of a text. -/
def isFrontOf : Text → Text → Bool
  | [], _ => true
  | _ :: _, [] => false
  | a :: word, b :: t => sameLetter a b && isFrontOf word t

@[simp] theorem upper_nil : upper [] = [] := rfl

@[simp] theorem upper_append (s t : Text) : upper (s ++ t) = upper s ++ upper t := by
  simp [upper]

end Text

end SqlInventory
