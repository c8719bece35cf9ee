import SqlInventory.Proofs.Text.Trimming
import SqlInventory.Text.Glob
import Mathlib.Data.List.Forall2
import Mathlib.Data.List.Infix

/-!
# What a glob pattern matches

A pattern is read into parts, and the parts are compared with all suffixes of a text at once, from
the last part on. Here it is said what this means, without the parts: `Fits` reads the pattern as it
is written and a text together from the left, where `*` takes any stretch and everything else takes
one character.

* `Marks`: a list of truth values tells, for each suffix of a text in turn, whether parts match it.
  Each part of a pattern keeps this (`marks_anything`, `marks_one`), so it holds of the whole
  comparison (`marks_matchedSuffixes`);
* `Lists`, `Turns`, `SetTakes`: what a set lists, what turns it around, and which characters it
  takes. Empty ranges take nothing, so dropping them matters for the `!` alone (`takes_setOf_iff`);
* `IsSet`: where a set ends (`setInside?_eq_some_iff`);
* `accepts_ofText_iff`: the pattern read from a text is accepted if and only if the text fits.
-/

namespace SqlInventory.Glob

/-- **The parts of a pattern match a text.** -/
inductive Matches : Glob → Text → Prop where
  /-- Nothing is left of either. -/
  | nil : Matches [] []
  /-- `*` takes any stretch. -/
  | anything (stretch : Text) {parts : Glob} {t : Text} (rest : Matches parts t) :
      Matches (.anything :: parts) (stretch ++ t)
  /-- Any other part takes one character. -/
  | one {part : Part} {c : Char} {parts : Glob} {t : Text} (takes : part.takes c = true)
      (rest : Matches parts t) : Matches (part :: parts) (c :: t)

theorem matches_nil_iff {t : Text} : Matches [] t ↔ t = [] := by
  constructor
  · intro h
    cases h
    rfl
  · rintro rfl
    exact .nil

theorem matches_anything_iff {parts : Glob} {t : Text} :
    Matches (.anything :: parts) t ↔ ∃ stretch rest, t = stretch ++ rest ∧ Matches parts rest := by
  constructor
  · intro h
    cases h with
    | anything stretch rest => exact ⟨stretch, _, rfl, rest⟩
    | one takes rest => cases takes
  · rintro ⟨stretch, rest, rfl, h⟩
    exact .anything stretch h

theorem matches_anything_nil_iff {parts : Glob} :
    Matches (.anything :: parts) [] ↔ Matches parts [] := by
  rw [matches_anything_iff]
  constructor
  · rintro ⟨stretch, rest, hempty, h⟩
    obtain ⟨rfl, rfl⟩ := List.append_eq_nil_iff.mp hempty.symm
    exact h
  · intro h
    exact ⟨[], [], rfl, h⟩

/-- A stretch that is taken is empty, or it has a first character and the rest of it is taken
too. -/
theorem matches_anything_cons_iff {parts : Glob} {c : Char} {t : Text} :
    Matches (.anything :: parts) (c :: t) ↔
      Matches parts (c :: t) ∨ Matches (.anything :: parts) t := by
  rw [matches_anything_iff, matches_anything_iff]
  constructor
  · rintro ⟨stretch, rest, hcons, h⟩
    cases stretch with
    | nil =>
      rw [hcons]
      exact Or.inl h
    | cons d stretch => exact Or.inr ⟨stretch, rest, (List.cons.inj hcons).2, h⟩
  · rintro (h | ⟨stretch, rest, rfl, h⟩)
    · exact ⟨[], c :: t, rfl, h⟩
    · exact ⟨c :: stretch, rest, rfl, h⟩

theorem matches_one_iff {part : Part} (hpart : part ≠ .anything) {parts : Glob} {t : Text} :
    Matches (part :: parts) t ↔
      ∃ c rest, t = c :: rest ∧ part.takes c = true ∧ Matches parts rest := by
  constructor
  · intro h
    cases h with
    | anything stretch rest => exact absurd rfl hpart
    | one takes rest => exact ⟨_, _, rfl, takes, rest⟩
  · rintro ⟨c, rest, rfl, takes, h⟩
    exact .one takes h

/-! ### All suffixes at once -/

/-- The truth values tell of each suffix of a text, from the text itself to the empty one, whether
the pattern matches it. -/
def Marks (pattern : Glob) (bits : List Bool) (t : Text) : Prop :=
  List.Forall₂ (fun bit suffix => bit = true ↔ Matches pattern suffix) bits t.tails

theorem marks_cons_iff {pattern : Glob} {bits : List Bool} {c : Char} {t : Text} :
    Marks pattern bits (c :: t) ↔ ∃ bit later, bits = bit :: later ∧
      (bit = true ↔ Matches pattern (c :: t)) ∧ Marks pattern later t := by
  unfold Marks
  rw [List.tails_cons, List.forall₂_cons_right_iff]
  constructor
  · rintro ⟨bit, later, hbit, hlater, rfl⟩
    exact ⟨bit, later, rfl, hbit, hlater⟩
  · rintro ⟨bit, later, rfl, hbit, hlater⟩
    exact ⟨bit, later, hbit, hlater, rfl⟩

theorem marks_nil_iff {pattern : Glob} {bits : List Bool} :
    Marks pattern bits [] ↔ ∃ bit, bits = [bit] ∧ (bit = true ↔ Matches pattern []) := by
  show List.Forall₂ _ bits [[]] ↔ _
  rw [List.forall₂_cons_right_iff]
  constructor
  · rintro ⟨bit, later, hbit, hlater, rfl⟩
    cases hlater
    exact ⟨bit, rfl, hbit⟩
  · rintro ⟨bit, rfl, hbit⟩
    exact ⟨bit, [], hbit, .nil, rfl⟩

/-- The first value is about the whole text. -/
theorem Marks.head {pattern : Glob} {bits : List Bool} {t : Text} (h : Marks pattern bits t) :
    bits.head?.getD false = true ↔ Matches pattern t := by
  cases t with
  | nil =>
    obtain ⟨bit, rfl, hbit⟩ := marks_nil_iff.mp h
    exact hbit
  | cons c t =>
    obtain ⟨bit, later, rfl, hbit, -⟩ := marks_cons_iff.mp h
    exact hbit

theorem marks_empty (t : Text) : Marks [] (t.map (fun _ => false) ++ [true]) t := by
  induction t with
  | nil => exact marks_nil_iff.mpr ⟨true, rfl, iff_of_true rfl .nil⟩
  | cons c t ih =>
    refine marks_cons_iff.mpr ⟨false, _, rfl, iff_of_false Bool.false_ne_true ?_, ih⟩
    rw [matches_nil_iff]
    exact List.cons_ne_nil c t

theorem marks_anything {parts : Glob} {bits : List Bool} {t : Text} (h : Marks parts bits t) :
    Marks (.anything :: parts) (anyBehind bits) t := by
  induction t generalizing bits with
  | nil =>
    obtain ⟨bit, rfl, hbit⟩ := marks_nil_iff.mp h
    refine marks_nil_iff.mpr ⟨bit, ?_, hbit.trans matches_anything_nil_iff.symm⟩
    show [bit || false] = [bit]
    rw [Bool.or_false]
  | cons c t ih =>
    obtain ⟨bit, later, rfl, hbit, hlater⟩ := marks_cons_iff.mp h
    have hbehind := ih hlater
    refine marks_cons_iff.mpr ⟨_, anyBehind later, rfl, ?_, hbehind⟩
    rw [Bool.or_eq_true, hbit, hbehind.head, matches_anything_cons_iff]

theorem marks_one {part : Part} (hpart : part ≠ .anything) {parts : Glob} {bits : List Bool}
    {t : Text} (h : Marks parts bits t) :
    Marks (part :: parts) ((t.zip bits.tail).map (fun (c, rest) => part.takes c && rest) ++ [false])
      t := by
  induction t generalizing bits with
  | nil =>
    refine marks_nil_iff.mpr ⟨false, rfl, iff_of_false Bool.false_ne_true ?_⟩
    rw [matches_one_iff hpart]
    rintro ⟨c, rest, hcons, -⟩
    cases hcons
  | cons c t ih =>
    obtain ⟨bit, later, rfl, -, hlater⟩ := marks_cons_iff.mp h
    -- Behind `c` comes the rest of the text, about which the next value tells.
    have hsome : later ≠ [] := by
      rintro rfl
      have hlength := List.Forall₂.length_eq hlater
      rw [List.length_tails] at hlength
      exact Nat.succ_ne_zero _ hlength.symm
    obtain ⟨next, others, rfl⟩ := List.exists_cons_of_ne_nil hsome
    refine marks_cons_iff.mpr ⟨part.takes c && next, _, rfl, ?_, ih hlater⟩
    have hnext : next = true ↔ Matches parts t := hlater.head
    rw [Bool.and_eq_true, hnext, matches_one_iff hpart]
    constructor
    · rintro ⟨takes, hrest⟩
      exact ⟨c, t, rfl, takes, hrest⟩
    · rintro ⟨d, rest, hcons, takes, hrest⟩
      obtain ⟨rfl, rfl⟩ := List.cons.inj hcons
      exact ⟨takes, hrest⟩

/-- **The comparison tells which suffixes match.** The induction is on the parts of the pattern. -/
theorem marks_matchedSuffixes (pattern : Glob) (t : Text) :
    Marks pattern (matchedSuffixes pattern t) t := by
  induction pattern with
  | nil => exact marks_empty t
  | cons part parts ih =>
    cases part with
    | anything => exact marks_anything ih
    | anyChar => exact marks_one (by simp) ih
    | oneOf negated items => exact marks_one (by simp) ih
    | exactly c => exact marks_one (by simp) ih

/-- **A pattern is accepted if and only if it matches.** -/
theorem accepts_iff (pattern : Glob) (t : Text) :
    pattern.accepts t = true ↔ Matches pattern t :=
  (marks_matchedSuffixes pattern t).head

/-! ### Sets -/

/-- An item stands for a character. -/
def Item.Holds (item : Item) (c : Char) : Prop :=
  match item with
  | .char d => c = d
  | .range low high => low ≤ c ∧ c ≤ high

/-- **What a set lists**: a hyphen between two characters makes a range of them, and any other
character stands for itself. -/
inductive Lists : Text → List Item → Prop where
  /-- Nothing is written. -/
  | nil : Lists [] []
  /-- Two characters with a hyphen between them. -/
  | range (low high : Char) {rest : Text} {items : List Item} (h : Lists rest items) :
      Lists (low :: '-' :: high :: rest) (.range low high :: items)
  /-- One character. -/
  | char (c : Char) {rest : Text} {items : List Item}
      (single : ∀ high more, rest ≠ '-' :: high :: more) (h : Lists rest items) :
      Lists (c :: rest) (.char c :: items)

/-- **What is listed is turned around** by a `!` that has only empty ranges in front of it; the
others are what then must not be. If a range starts with the `!`, its hyphen and its end are
left. -/
inductive Turns : List Item → List Item → Prop where
  /-- A range that is empty comes first. -/
  | empty {low high : Char} {items others : List Item} (wrong : high < low)
      (h : Turns items others) : Turns (.range low high :: items) others
  /-- The `!` stands alone. -/
  | char (others : List Item) : Turns (.char '!' :: others) others
  /-- A range starts with the `!`. -/
  | range {high : Char} (right : '!' ≤ high) (others : List Item) :
      Turns (.range '!' high :: others) (.char '-' :: .char high :: others)

/-- **The set with this inside takes a character.** -/
inductive SetTakes : Text → Char → Prop where
  /-- A `!` comes first, and the character is not listed behind it. -/
  | negated {inside : Text} {items : List Item} {c : Char} (lists : Lists inside items)
      (outside : ∀ item ∈ items, ¬item.Holds c) : SetTakes ('!' :: inside) c
  /-- The set is turned around later, and the character is not among what is left. -/
  | turned {inside : Text} {items others : List Item} {c : Char} (start : inside.head? ≠ some '!')
      (lists : Lists inside items) (turns : Turns items others)
      (outside : ∀ item ∈ others, ¬item.Holds c) : SetTakes inside c
  /-- The set is not turned around, and the character is listed. -/
  | listed {inside : Text} {items : List Item} {c : Char} (start : inside.head? ≠ some '!')
      (lists : Lists inside items) (straight : ∀ others, ¬Turns items others) {item : Item}
      (mem : item ∈ items) (holds : item.Holds c) : SetTakes inside c

theorem lists_itemsOf (t : Text) : Lists t (itemsOf t) := by
  induction t using itemsOf.induct with
  | case1 => exact .nil
  | case2 a b rest ih => exact .range a b ih
  | case3 a rest hsingle ih =>
    rw [itemsOf.eq_3 a rest hsingle]
    exact .char a hsingle ih

/-- A set lists its items in one way. -/
theorem Lists.eq_itemsOf {t : Text} {items : List Item} (h : Lists t items) :
    items = itemsOf t := by
  induction h with
  | nil => rfl
  | range low high h ih => rw [itemsOf, ih]
  | @char c rest items single h ih => rw [itemsOf.eq_3 c rest single, ih]

theorem Item.holds_iff {item : Item} {c : Char} : item.holds c = true ↔ item.Holds c := by
  cases item with
  | char d => exact beq_iff_eq
  | range low high =>
    show (decide (low ≤ c) && decide (c ≤ high)) = true ↔ low ≤ c ∧ c ≤ high
    rw [Bool.and_eq_true, decide_eq_true_iff, decide_eq_true_iff]

/-- An empty range stands for nothing. -/
theorem Item.not_holds_of_isEmpty {item : Item} (h : item.isEmpty = true) (c : Char) :
    ¬item.Holds c := by
  cases item with
  | char d => cases h
  | range low high =>
    rintro ⟨hlow, hhigh⟩
    exact Char.not_lt.mpr (Char.le_trans hlow hhigh) (of_decide_eq_true h)

/-- **Without the empty ranges the same characters are listed.** -/
theorem any_holds_proper_iff {items : List Item} {c : Char} :
    (proper items).any (·.holds c) = true ↔ ∃ item ∈ items, item.Holds c := by
  unfold proper
  rw [List.any_eq_true]
  constructor
  · rintro ⟨item, hmem, hholds⟩
    exact ⟨item, (List.mem_filter.mp hmem).1, Item.holds_iff.mp hholds⟩
  · rintro ⟨item, hmem, hholds⟩
    refine ⟨item, List.mem_filter.mpr ⟨hmem, ?_⟩, Item.holds_iff.mpr hholds⟩
    rw [Bool.not_eq_true', ← Bool.not_eq_true]
    exact fun hempty => Item.not_holds_of_isEmpty hempty c hholds

theorem proper_cons_of_isEmpty {item : Item} (h : item.isEmpty = true) (items : List Item) :
    proper (item :: items) = proper items :=
  List.filter_cons_of_neg (by rw [h]; decide)

theorem proper_cons_of_not_isEmpty {item : Item} (h : item.isEmpty = false) (items : List Item) :
    proper (item :: items) = item :: proper items :=
  List.filter_cons_of_pos (by rw [h]; rfl)

theorem Turns.turned?_proper {items others : List Item} (h : Turns items others) :
    turned? (proper items) = some (proper others) := by
  induction h with
  | @empty low high items others wrong h ih =>
    have hrange : (Item.range low high).isEmpty = true := decide_eq_true wrong
    rw [proper_cons_of_isEmpty hrange, ih]
  | char others => rfl
  | @range high right others =>
    have hrange : (Item.range '!' high).isEmpty = false := decide_eq_false (Char.not_lt.mpr right)
    rw [proper_cons_of_not_isEmpty hrange]
    rfl

/-- What is turned around without the empty ranges is turned around with them. -/
theorem exists_turns_of_turned?_proper {items shown : List Item}
    (h : turned? (proper items) = some shown) : ∃ others, Turns items others := by
  induction items with
  | nil => cases h
  | cons item items ih =>
    -- An empty range is passed over; the first item that is none has to be the `!`.
    cases hempty : item.isEmpty with
    | true =>
      rw [proper_cons_of_isEmpty hempty] at h
      obtain ⟨others, hturns⟩ := ih h
      cases item with
      | char c => cases hempty
      | range low high => exact ⟨others, .empty (of_decide_eq_true hempty) hturns⟩
    | false =>
      rw [proper_cons_of_not_isEmpty hempty] at h
      unfold turned? at h
      split at h
      · next heq =>
        obtain ⟨rfl, -⟩ := List.cons.inj heq
        exact ⟨items, .char items⟩
      · next high others heq =>
        obtain ⟨rfl, -⟩ := List.cons.inj heq
        exact ⟨_, .range (Char.not_lt.mp (of_decide_eq_false hempty)) items⟩
      · cases h

theorem takes_oneOf_false_iff {items : List Item} {c : Char} :
    (Part.oneOf false (proper items)).takes c = true ↔ ∃ item ∈ items, item.Holds c := by
  rw [← any_holds_proper_iff]
  show ((proper items).any (·.holds c) != false) = true ↔ _
  rw [Bool.bne_false]

theorem takes_oneOf_true_iff {items : List Item} {c : Char} :
    (Part.oneOf true (proper items)).takes c = true ↔ ∀ item ∈ items, ¬item.Holds c := by
  show ((proper items).any (·.holds c) != true) = true ↔ _
  rw [Bool.bne_true, Bool.not_eq_true', ← Bool.not_eq_true, any_holds_proper_iff]
  push Not
  rfl

/-- **Which characters a set takes.** -/
theorem takes_setOf_iff {inside : Text} {c : Char} :
    (setOf inside).takes c = true ↔ SetTakes inside c := by
  unfold setOf
  constructor
  · intro h
    -- The branches of `setOf` are the constructors of `SetTakes`.
    split at h
    · next hstart =>
      cases inside with
      | nil => cases hstart
      | cons d inside =>
        obtain rfl : d = '!' := Option.some.inj hstart
        exact .negated (lists_itemsOf inside) (takes_oneOf_true_iff.mp h)
    · next hstart =>
      dsimp only at h
      split at h
      · next shown hturned =>
        obtain ⟨others, hturns⟩ := exists_turns_of_turned?_proper hturned
        obtain rfl : shown = proper others :=
          Option.some.inj (hturned.symm.trans hturns.turned?_proper)
        exact .turned hstart (lists_itemsOf inside) hturns (takes_oneOf_true_iff.mp h)
      · next hstraight =>
        obtain ⟨item, hmem, hholds⟩ := takes_oneOf_false_iff.mp h
        refine .listed hstart (lists_itemsOf inside) (fun others hturns => ?_) hmem hholds
        rw [hturns.turned?_proper] at hstraight
        cases hstraight
  · intro h
    cases h with
    | @negated inside items _ lists outside =>
      rw [lists.eq_itemsOf] at outside
      rw [if_pos (show ('!' :: inside).head? = some '!' from rfl)]
      exact takes_oneOf_true_iff.mpr outside
    | turned start lists turns outside =>
      rw [lists.eq_itemsOf] at turns
      rw [if_neg start]
      dsimp only
      rw [turns.turned?_proper]
      exact takes_oneOf_true_iff.mpr outside
    | listed start lists straight mem holds =>
      rw [lists.eq_itemsOf] at straight mem
      rw [if_neg start]
      dsimp only
      cases hturned : turned? (proper (itemsOf inside)) with
      | some shown =>
        obtain ⟨others, hturns⟩ := exists_turns_of_turned?_proper hturned
        exact absurd hturns (straight others)
      | none => exact takes_oneOf_false_iff.mpr ⟨_, mem, holds⟩

/-- **A set with its closing bracket**, in the text behind the opening one: the first character, or
the first behind a `!`, is a member whatever it is, and the next closing bracket ends the set. -/
structure IsSet (t inside rest : Text) : Prop where
  closed : t = inside ++ ']' :: rest
  shape : ∃ front first later, inside = front ++ first :: later ∧
    (front = ['!'] ∨ front = [] ∧ first ≠ '!') ∧ ']' ∉ later

/-- Behind its first character a set goes up to the next closing bracket. -/
theorem setInside?_of_front {front : Text} {first : Char}
    (hfront : front = ['!'] ∨ front = [] ∧ first ≠ '!') (behind : Text) :
    setInside? (front ++ first :: behind) = match behind.dropWhile (· != ']') with
      | [] => none
      | _ :: rest => some (front ++ first :: behind.takeWhile (· != ']'), rest) := by
  rcases hfront with rfl | ⟨rfl, hfirst⟩
  · rfl
  · have hhead : ¬(first :: behind).head? = some '!' := fun h => hfirst (Option.some.inj h)
    unfold setInside?
    rw [List.nil_append, if_neg hhead]
    rfl

/-- **Where a set ends.** -/
theorem setInside?_eq_some_iff {t inside rest : Text} :
    setInside? t = some (inside, rest) ↔ IsSet t inside rest := by
  constructor
  · intro h
    -- The first member comes before any closing bracket is looked for.
    obtain ⟨front, first, behind, hfront, rfl⟩ : ∃ front first behind,
        (front = ['!'] ∨ front = [] ∧ first ≠ '!') ∧ t = front ++ first :: behind := by
      cases t with
      | nil => cases h
      | cons c t =>
        by_cases hc : c = '!'
        · subst hc
          cases t with
          | nil => cases h
          | cons first behind => exact ⟨['!'], first, behind, Or.inl rfl, rfl⟩
        · exact ⟨[], c, t, Or.inr ⟨rfl, hc⟩, rfl⟩
    rw [setInside?_of_front hfront] at h
    by_cases hclosed : ']' ∈ behind
    · obtain ⟨later, more, rfl, hlater⟩ := List.eq_append_cons_of_mem hclosed
      rw [dropWhile_ne_append_cons hlater, takeWhile_ne_append_cons hlater] at h
      obtain ⟨rfl, rfl⟩ := Prod.mk.inj (Option.some.inj h)
      exact ⟨by simp, front, first, later, rfl, hfront, hlater⟩
    · rw [List.dropWhile_eq_nil_iff.mpr (bne_of_mem_of_notMem hclosed)] at h
      cases h
  · rintro ⟨rfl, front, first, later, rfl, hfront, hlater⟩
    rw [List.append_assoc, List.cons_append, setInside?_of_front hfront,
      dropWhile_ne_append_cons hlater, takeWhile_ne_append_cons hlater]

/-! ### Patterns as they are written -/

/-- **A text fits a pattern.** -/
inductive Fits : Text → Text → Prop where
  /-- Nothing is left of either. -/
  | nil : Fits [] []
  /-- `*` takes any stretch. -/
  | anything (stretch : Text) {pattern t : Text} (rest : Fits pattern t) :
      Fits ('*' :: pattern) (stretch ++ t)
  /-- `?` takes any character. -/
  | anyChar (c : Char) {pattern t : Text} (rest : Fits pattern t) : Fits ('?' :: pattern) (c :: t)
  /-- A set takes one of its characters. -/
  | oneOf {pattern inside behind : Text} {c : Char} {t : Text} (set : IsSet pattern inside behind)
      (takes : SetTakes inside c) (rest : Fits behind t) : Fits ('[' :: pattern) (c :: t)
  /-- A bracket that is never closed takes itself. -/
  | bracket {pattern t : Text} (unclosed : ∀ inside behind, ¬IsSet pattern inside behind)
      (rest : Fits pattern t) : Fits ('[' :: pattern) ('[' :: t)
  /-- Any other character takes itself. -/
  | exactly {c : Char} (plain : c ∉ ['*', '?', '[']) {pattern t : Text} (rest : Fits pattern t) :
      Fits (c :: pattern) (c :: t)

theorem parseFrom_eq_ofText_drop (skip : Nat) (t : Text) :
    parseFrom skip t = ofText (t.drop skip) := by
  induction t generalizing skip with
  | nil => cases skip <;> rfl
  | cons c t ih =>
    cases skip with
    | zero => rfl
    | succ skip => exact ih skip

theorem ofText_set {pattern inside behind : Text} (h : IsSet pattern inside behind) :
    ofText ('[' :: pattern) = setOf inside :: ofText behind := by
  have hread : ofText ('[' :: pattern) =
      setOf inside :: parseFrom (inside.length + 1) pattern := by
    simp [ofText, parseFrom, setInside?_eq_some_iff.mpr h]
  rw [hread, parseFrom_eq_ofText_drop, h.closed, ← List.drop_drop, List.drop_left]
  rfl

theorem ofText_unclosed {pattern : Text} (h : ∀ inside behind, ¬IsSet pattern inside behind) :
    ofText ('[' :: pattern) = .exactly '[' :: ofText pattern := by
  have hnone : setInside? pattern = none := by
    rw [Option.eq_none_iff_forall_ne_some]
    exact fun set hset => h set.1 set.2 (setInside?_eq_some_iff.mp hset)
  simp [ofText, parseFrom, hnone]

theorem ofText_plain {c : Char} (h : c ∉ ['*', '?', '[']) (pattern : Text) :
    ofText (c :: pattern) = .exactly c :: ofText pattern := by
  simp only [List.mem_cons, List.not_mem_nil, or_false, not_or] at h
  simp [ofText, parseFrom, h]

theorem setOf_ne_anything (inside : Text) : setOf inside ≠ .anything := by
  unfold setOf
  split
  · simp
  · dsimp only
    split <;> simp

/-- What fits a pattern is matched by its parts. -/
theorem Fits.matches {pattern t : Text} (h : Fits pattern t) : (ofText pattern).Matches t := by
  induction h with
  | nil => exact .nil
  | anything stretch rest ih => exact .anything stretch ih
  | anyChar c rest ih => exact .one rfl ih
  | oneOf set takes rest ih =>
    rw [ofText_set set]
    exact .one (takes_setOf_iff.mpr takes) ih
  | bracket unclosed rest ih =>
    rw [ofText_unclosed unclosed]
    exact .one rfl ih
  | exactly plain rest ih =>
    rw [ofText_plain plain]
    exact .one (beq_self_eq_true _) ih

/-- What the parts of a pattern match fits it. The induction is on the length of the pattern, since
a set takes several characters of it at once. -/
theorem fits_of_matches {pattern t : Text} (h : (ofText pattern).Matches t) : Fits pattern t := by
  generalize hlength : pattern.length = n
  induction n using Nat.strong_induction_on generalizing pattern t with
  | _ n ih =>
    subst hlength
    cases pattern with
    | nil =>
      obtain rfl := matches_nil_iff.mp h
      exact .nil
    | cons d pattern =>
      have hshorter : pattern.length < (d :: pattern).length := Nat.lt_succ_self _
      by_cases hstar : d = '*'
      · subst hstar
        obtain ⟨stretch, rest, rfl, hrest⟩ := matches_anything_iff.mp h
        exact .anything stretch (ih _ hshorter hrest rfl)
      by_cases hmark : d = '?'
      · subst hmark
        obtain ⟨c, rest, rfl, -, hrest⟩ := (matches_one_iff (by simp)).mp h
        exact .anyChar c (ih _ hshorter hrest rfl)
      by_cases hbracket : d = '['
      · subst hbracket
        by_cases hset : ∃ inside behind, IsSet pattern inside behind
        · obtain ⟨inside, behind, hset⟩ := hset
          rw [ofText_set hset] at h
          obtain ⟨c, rest, rfl, htakes, hrest⟩ := (matches_one_iff (setOf_ne_anything inside)).mp h
          refine .oneOf hset (takes_setOf_iff.mp htakes) (ih _ ?_ hrest rfl)
          rw [hset.closed]
          simp only [List.length_cons, List.length_append]
          omega
        · have hunclosed : ∀ inside behind, ¬IsSet pattern inside behind :=
            fun inside behind h => hset ⟨inside, behind, h⟩
          rw [ofText_unclosed hunclosed] at h
          obtain ⟨c, rest, rfl, htakes, hrest⟩ := (matches_one_iff (by simp)).mp h
          obtain rfl : c = '[' := beq_iff_eq.mp htakes
          exact .bracket hunclosed (ih _ hshorter hrest rfl)
      · have hplain : d ∉ ['*', '?', '['] := by simp [hstar, hmark, hbracket]
        rw [ofText_plain hplain] at h
        obtain ⟨c, rest, rfl, htakes, hrest⟩ := (matches_one_iff (by simp)).mp h
        obtain rfl : c = d := beq_iff_eq.mp htakes
        exact .exactly hplain (ih _ hshorter hrest rfl)

/-- **A pattern is accepted if and only if the text fits it.** -/
theorem accepts_ofText_iff {pattern t : Text} :
    (ofText pattern).accepts t = true ↔ Fits pattern t :=
  (accepts_iff _ _).trans ⟨fits_of_matches, Fits.matches⟩

-- Behind an empty range a `!` turns the set around, even at the start of another range.
example :
    (ofText "[z-a!b].pl").accepts "c.pl" = true ∧ (ofText "[z-a!b].pl").accepts "b.pl" = false ∧
    (ofText "[z-a!]").accepts "b" = true ∧ (ofText "[z-a!-c]").accepts "b" = true ∧
    (ofText "[z-a!-c]").accepts "-" = false ∧ (ofText "[z-a]").accepts "b" = false := by
  decide

end SqlInventory.Glob
