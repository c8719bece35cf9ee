import SqlInventory.Audit.Finding
import SqlInventory.Audit.Snippet
import SqlInventory.Audit.Vocabulary
import SqlInventory.Text.Matching

/-!
# Calls that run a statement

A call is seen in the text of the file: an arrow, any blanks, and one of the call verbs, which must
end at a boundary. The blanks are taken as long as possible, and given back one by one only where a
verb itself begins with blanks.
-/

namespace SqlInventory

/-- How many newlines there are among the first `n` characters, `found` added. -/
def newlinesUpTo (found : Nat) : Nat → Text → Nat
  | 0, _ => found
  | _, [] => found
  | n + 1, c :: rest => newlinesUpTo (if c = '\n' then found + 1 else found) n rest

/-- The line of an offset, counted from one; an offset that is missing or negative is the start. -/
def lineOfOffset (content : Text) (offset : Option Int) : Nat :=
  newlinesUpTo 1 (offset.getD 0).toNat content

theorem newlinesUpTo_eq (found n : Nat) (content : Text) :
    newlinesUpTo found n content = (content.take n).count '\n' + found := by
  induction content generalizing found n with
  | nil => cases n <;> simp [newlinesUpTo]
  | cons c rest ih =>
    cases n with
    | zero => simp [newlinesUpTo]
    | succ n =>
      simp only [newlinesUpTo, ih, List.take_succ_cons, List.count_cons, beq_iff_eq]
      split <;> omega

theorem lineOfOffset_eq (content : Text) (offset : Option Int) :
    lineOfOffset content offset = (content.take (offset.getD 0).toNat).count '\n' + 1 :=
  newlinesUpTo_eq 1 _ content

/-- A call verb behind the blanks at the front of a text that follows `before`, and how many
characters it takes with the blanks. The boundary behind an empty verb is judged by the last blank
taken. -/
def verbBehindBlanks? (ordered : List Text) : Option Char → Text → Option (Nat × Text)
  | before, [] => (Text.endingWord? ordered before []).map fun verb => (verb.length, verb)
  | before, c :: rest =>
    let here := (Text.endingWord? ordered before (c :: rest)).map fun verb => (verb.length, verb)
    if Text.isBlank c then
      match verbBehindBlanks? ordered (some c) rest with
      | some (length, verb) => some (length + 1, verb)
      | none => here
    else here

/-- Recognises a call and gives its verb as written. -/
def callRule (ordered : List Text) : Recogniser Char Text := fun _ t =>
  match t with
  | '-' :: '>' :: rest =>
    (verbBehindBlanks? ordered (some '>') rest).map fun (length, verb) => (length + 2, verb)
  | _ => none

theorem callRule_eq_some_iff {ordered : List Text} {before : Option Char} {t verb : Text}
    {n : Nat} :
    callRule ordered before t = some (n, verb) ↔
      ∃ rest length, t = '-' :: '>' :: rest ∧ n = length + 2 ∧
        verbBehindBlanks? ordered (some '>') rest = some (length, verb) := by
  constructor
  · intro h
    unfold callRule at h
    split at h
    · next rest =>
      obtain ⟨⟨length, behind⟩, hbehind, heq⟩ := Option.map_eq_some_iff.mp h
      obtain ⟨rfl, rfl⟩ := Prod.mk.inj heq
      exact ⟨rest, length, rfl, rfl, hbehind⟩
    · cases h
  · rintro ⟨rest, length, rfl, rfl, hbehind⟩
    simp only [callRule, hbehind, Option.map_some]

/-- The calls in a text, with their places. -/
def callMatches (v : Vocabulary) (content : Text) : List (Match Text) :=
  (callRule (Text.trialOrder v.callVerbs)).findAll content

/-- The text around the stretch from `start` to `stop`, shortened for display. -/
def contextWindow (v : Vocabulary) (content : Text) (start stop : Int) : Text :=
  let low := max (start - v.contextRadius) 0
  let high := min (stop + v.contextRadius) content.length
  snippet (Text.between content low high) v.snippetLimit

/-- The finding for a call. -/
def callFinding (v : Vocabulary) (content : Text) (m : Match Text) : CallFinding where
  line := .number (lineOfOffset content (some m.start))
  verb := Text.lower m.value
  context := contextWindow v content m.start m.stop

/-- The findings for the calls in a text. -/
def callSites (v : Vocabulary) (content : Text) : List CallFinding :=
  (callMatches v content).map (callFinding v content)

end SqlInventory
