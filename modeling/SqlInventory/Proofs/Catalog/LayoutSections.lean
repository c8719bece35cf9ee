import SqlInventory.Proofs.Catalog.StatementKept
import SqlInventory.Proofs.Text.Constants
import Mathlib.Data.List.Find

/-!
# A layout section by section

The passes of a layout know nothing of string constants, yet none of them reaches across a quote,
except the one that splits the first list of columns. A quote is no blank and no word character, and
no letter of a keyword counts as one, so every recogniser ends its search there
(`Recogniser.StopsAtQuotes`); and the blanks at the ends of a line are dropped up to the next quote
at most.

* `IsPlainWord`: words of which a quote cannot be a letter;
* `stopsAtQuotes_capitalRule`, `stopsAtQuotes_clauseRule`, `stopsAtQuotes_conditionRule`,
  `stopsAtQuotes_gapBefore`, `stopsAtQuotes_gapAfter`: the recognisers;
* `stripLines_eq`: the ends of the lines are dropped character by character, first at the fronts
  (`dropFronts`) and then at the ends (`trimEnds`), and either is sectionwise within a line;
* `actsInside_clauseLines`, `actsInside_finishLines`: the passes before and after the columns.
-/

namespace SqlInventory

namespace Layout

open Text

/-! ### What a recogniser asks of the text ahead -/

theorem takeWhile_cut {p : Char → Bool} (hp : p '\'' = false) (s t : Text) :
    (s ++ '\'' :: t).takeWhile p = s.takeWhile p := by
  induction s with
  | nil => simp [hp]
  | cons c s ih => rw [List.cons_append, List.takeWhile_cons, List.takeWhile_cons, ih]

theorem blankCount_cut (s t : Text) : blankCount (s ++ '\'' :: t) = blankCount s := by
  unfold blankCount
  rw [takeWhile_cut isBlank_quote]

theorem blankCount_le (t : Text) : blankCount t ≤ t.length :=
  (List.takeWhile_prefix isBlank).length_le

theorem gapCount_cut (s t : Text) : gapCount (s ++ '\'' :: t) = gapCount s := by
  unfold gapCount
  rw [takeWhile_cut rfl]

/-- A quote behind a place is like the end of the text. -/
theorem isBoundary_cut (before : Option Char) (s t : Text) :
    isBoundary before (s ++ '\'' :: t).head? = isBoundary before s.head? := by
  cases s with
  | nil => rfl
  | cons c s => rfl

/-- A word that is not empty, and of which a quote cannot be a letter. -/
def IsPlainWord (word : Text) : Prop :=
  word ≠ [] ∧ ∀ a ∈ word, sameLetter a '\'' = false

instance (word : Text) : Decidable (IsPlainWord word) :=
  inferInstanceAs (Decidable (_ ∧ _))

theorem IsPlainWord.notMem {word : Text} (h : IsPlainWord word) : '\'' ∉ word := by
  intro hmem
  have hsame := h.2 '\'' hmem
  rw [sameLetter_self] at hsame
  cases hsame

theorem IsPlainWord.isFrontOf_nil {word : Text} (h : IsPlainWord word) :
    isFrontOf word [] = false := by
  obtain ⟨a, letters, rfl⟩ := List.exists_cons_of_ne_nil h.1
  rfl

theorem isFrontOf_cut {word : Text} (hword : ∀ a ∈ word, sameLetter a '\'' = false) (s t : Text) :
    isFrontOf word (s ++ '\'' :: t) = isFrontOf word s := by
  induction word generalizing s with
  | nil => rfl
  | cons a word ih =>
    obtain ⟨ha, hword'⟩ := List.forall_mem_cons.mp hword
    cases s with
    | nil =>
      show (sameLetter a '\'' && isFrontOf word t) = false
      rw [ha, Bool.false_and]
    | cons c s =>
      show (sameLetter a c && isFrontOf word (s ++ '\'' :: t)) =
        (sameLetter a c && isFrontOf word s)
      rw [ih hword']

/-! ### Keywords -/

theorem phraseLength?_le {phrase : List Text} {t : Text} {n : Nat}
    (h : phraseLength? phrase t = some n) : n ≤ t.length := by
  induction phrase generalizing t n with
  | nil =>
    cases h
    exact Nat.zero_le _
  | cons word others ih =>
    cases others with
    | nil =>
      rw [phraseLength?] at h
      split at h
      · next hfront =>
        cases h
        exact length_le_of_isFrontOf hfront
      · cases h
    | cons next others =>
      rw [phraseLength?] at h
      split at h
      · next hfront =>
        simp only [] at h
        split at h
        · cases h
        · obtain ⟨m, hm, rfl⟩ := Option.map_eq_some_iff.mp h
          have hrest := ih hm
          have hword := length_le_of_isFrontOf hfront
          have hblanks := blankCount_le (t.drop word.length)
          unfold blankCount at hblanks
          simp only [List.length_drop] at hrest hblanks
          omega
      · cases h

/-- Neither the words of a phrase nor the blanks between them go past a quote. -/
theorem phraseLength?_cut {phrase : List Text} (hphrase : ∀ word ∈ phrase, IsPlainWord word)
    (s t : Text) : phraseLength? phrase (s ++ '\'' :: t) = phraseLength? phrase s := by
  induction phrase generalizing s with
  | nil => rfl
  | cons word others ih =>
    obtain ⟨hword, hothers⟩ := List.forall_mem_cons.mp hphrase
    cases others with
    | nil => rw [phraseLength?, phraseLength?, isFrontOf_cut hword.2]
    | cons next others =>
      rw [phraseLength?, phraseLength?, isFrontOf_cut hword.2]
      split
      · next hfront =>
        -- The word fits before the quote, and so do the blanks behind it.
        have hle := length_le_of_isFrontOf hfront
        have hblanks := blankCount_cut (s.drop word.length) t
        have hfit := blankCount_le (s.drop word.length)
        unfold blankCount at hblanks hfit
        simp only [List.drop_append_of_le_length hle, hblanks, List.drop_append_of_le_length hfit,
          ih hothers]
      · rfl

theorem phraseLength?_nil {phrase : List Text} (hne : phrase ≠ [])
    (hphrase : ∀ word ∈ phrase, IsPlainWord word) : phraseLength? phrase [] = none := by
  obtain ⟨word, others, rfl⟩ := List.exists_cons_of_ne_nil hne
  have hword := (hphrase word List.mem_cons_self).isFrontOf_nil
  cases others <;> simp [phraseLength?, hword]

theorem stopsAtQuotes_capitalRule {phrase : List Text} (hne : phrase ≠ [])
    (hphrase : ∀ word ∈ phrase, IsPlainWord word) : (capitalRule phrase).StopsAtQuotes where
  atEnd := by
    intro before
    unfold capitalRule
    rw [phraseLength?_nil hne hphrase]
    split <;> rfl
  behind := fun t => rfl
  ahead := by
    intro before s t _
    unfold capitalRule
    rw [isBoundary_cut, phraseLength?_cut hphrase]
    split
    · cases hlength : phraseLength? phrase s with
      | none => rfl
      | some n =>
        have hle := phraseLength?_le hlength
        simp only [List.take_append_of_le_length hle, List.drop_append_of_le_length hle,
          isBoundary_cut]
    · rfl
  fits := by
    intro before s n out hs h
    unfold capitalRule at h
    split at h
    · split at h
      · next m hlength =>
        split at h
        · obtain ⟨rfl, rfl⟩ := Prod.mk.inj (Option.some.inj h)
          exact ⟨phraseLength?_le hlength, notMem_upper fun hmem => hs (List.mem_of_mem_take hmem)⟩
        · cases h
      · cases h
    · cases h

theorem sectionwise_capitalise : Sectionwise capitalise := by
  have hkeywords : ∀ phrase ∈ keywords, phrase ≠ [] ∧ ∀ word ∈ phrase, IsPlainWord word := by
    decide
  unfold capitalise
  generalize keywords = phrases at hkeywords
  induction phrases with
  | nil => exact ⟨fun _ hs => hs, fun _ _ _ => rfl⟩
  | cons phrase phrases ih =>
    obtain ⟨⟨hne, hphrase⟩, hothers⟩ := List.forall_mem_cons.mp hkeywords
    exact (ih hothers).comp (stopsAtQuotes_capitalRule hne hphrase).sectionwise

/-! ### Clauses -/

theorem endsHere_cut {word : Text} (hword : IsPlainWord word) (before : Option Char) (s t : Text) :
    endsHere before (s ++ '\'' :: t) word = endsHere before s word := by
  unfold endsHere
  rw [isFrontOf_cut hword.2]
  cases hfront : isFrontOf word s with
  | false => rfl
  | true =>
    have hle := length_le_of_isFrontOf hfront
    rw [List.take_append_of_le_length hle, List.drop_append_of_le_length hle, isBoundary_cut]

theorem wholeWord?_cut {words : List Text} (hwords : ∀ word ∈ words, IsPlainWord word)
    (before : Option Char) (s t : Text) :
    wholeWord? words before (s ++ '\'' :: t) = wholeWord? words before s := by
  unfold wholeWord? endingWord?
  rw [isBoundary_cut,
    List.find?_congr fun word hword => endsHere_cut (hwords word hword) before s t]
  -- The word that is found is cut off the part before the quote.
  cases hfind : words.find? (endsHere before s) with
  | none => rfl
  | some word =>
    have hends : endsHere before s word = true := List.find?_some hfind
    have hle := length_le_of_isFrontOf (Bool.and_eq_true_iff.mp hends).1
    rw [Option.map_some, Option.map_some, List.take_append_of_le_length hle]

theorem stopsAtQuotes_clauseRule : clauseRule.StopsAtQuotes where
  atEnd := fun _ => rfl
  behind := fun _ => rfl
  ahead := by
    intro before s t _
    have hwords : ∀ word ∈ clauseWords, IsPlainWord word := by decide
    have hle := blankCount_le s
    unfold clauseRule
    simp only [blankCount_cut, List.take_append_of_le_length hle, List.drop_append_of_le_length hle,
      wholeWord?_cut hwords]
  fits := by
    intro before s n out hs h
    unfold clauseRule at h
    simp only [] at h
    split at h
    · cases h
    · split at h
      · next word hword =>
        obtain ⟨rfl, rfl⟩ := Prod.mk.inj (Option.some.inj h)
        obtain ⟨listed, -, hfront, rfl, hlength⟩ := (isStretch_of_wholeWord? hword).exists_length
        have hle := length_le_of_isFrontOf hfront
        rw [List.length_drop] at hle
        refine ⟨by have := blankCount_le s; omega, ?_⟩
        have hfree : '\'' ∉ upper ((s.drop (blankCount s)).take listed.length) :=
          notMem_upper fun hmem => hs (List.mem_of_mem_drop (List.mem_of_mem_take hmem))
        intro hmem
        rcases List.mem_cons.mp hmem with hbreak | hrest
        · cases hbreak
        · exact hfree hrest
      · cases h

theorem sectionwise_breakClauses : Sectionwise breakClauses :=
  stopsAtQuotes_clauseRule.sectionwise

/-! ### Conditions -/

theorem stopsAtQuotes_conditionRule {word : Text} (hword : IsPlainWord word) :
    (conditionRule word).StopsAtQuotes where
  atEnd := fun _ => rfl
  behind := fun _ => rfl
  ahead := by
    intro before s t _
    unfold conditionRule
    simp only [blankCount_cut, List.drop_append_of_le_length (blankCount_le s),
      isFrontOf_cut hword.2]
    cases hfront : isFrontOf word (s.drop (blankCount s)) with
    | false => simp
    | true =>
      -- The word fits before the quote, so the blanks behind it are counted there.
      simp only [List.drop_append_of_le_length (length_le_of_isFrontOf hfront), blankCount_cut]
  fits := by
    intro before s n out _ h
    unfold conditionRule at h
    simp only [] at h
    split at h
    · next hmatch =>
      obtain ⟨rfl, rfl⟩ := Prod.mk.inj (Option.some.inj h)
      have hle := length_le_of_isFrontOf hmatch.2.2
      have hafter := blankCount_le ((s.drop (blankCount s)).drop word.length)
      have hbefore := blankCount_le s
      rw [List.length_drop] at hle
      rw [List.length_drop, List.length_drop] at hafter
      refine ⟨by omega, ?_⟩
      have hindent : '\'' ∉ "\n  ".toList := by decide
      have hspace : '\'' ∉ " ".toList := by decide
      simp only [List.mem_append, not_or]
      exact ⟨⟨hindent, hword.notMem⟩, hspace⟩
    · cases h

theorem sectionwise_breakConditions : Sectionwise breakConditions :=
  (stopsAtQuotes_conditionRule (by decide)).sectionwise.comp
    (stopsAtQuotes_conditionRule (by decide)).sectionwise

/-! ### Spaces -/

theorem gapCount_le (t : Text) : gapCount t ≤ t.length :=
  (List.takeWhile_prefix _).length_le

theorem head?_cut {c : Char} (hc : '\'' ≠ c) (s t : Text) :
    (s ++ '\'' :: t).head? = some c ↔ s.head? = some c := by
  cases s with
  | nil => simp [hc]
  | cons d s => rfl

theorem stopsAtQuotes_gapBefore {c : Char} (hc : '\'' ≠ c) {out : Text} (hout : '\'' ∉ out) :
    (gapBefore c out).StopsAtQuotes where
  atEnd := fun _ => rfl
  behind := fun _ => rfl
  ahead := by
    intro before s t _
    unfold gapBefore
    simp only [gapCount_cut, List.drop_append_of_le_length (gapCount_le s), head?_cut hc]
  fits := by
    intro before s n found _ h
    unfold gapBefore at h
    simp only [] at h
    split at h
    · next hmatch =>
      obtain ⟨rfl, rfl⟩ := Prod.mk.inj (Option.some.inj h)
      obtain ⟨rest, hrest⟩ := List.head?_eq_some_iff.mp hmatch.2
      have hlength := congrArg List.length hrest
      rw [List.length_drop, List.length_cons] at hlength
      exact ⟨by omega, hout⟩
    · cases h

theorem stopsAtQuotes_gapAfter {c : Char} (hc : '\'' ≠ c) {out : Text} (hout : '\'' ∉ out) :
    (gapAfter c out).StopsAtQuotes where
  atEnd := fun _ => rfl
  behind := fun _ => rfl
  ahead := by
    intro before s t _
    unfold gapAfter
    simp only [head?_cut hc]
    cases s with
    | nil => simp
    | cons d s => simp only [List.cons_append, List.drop_one, List.tail_cons, gapCount_cut]
  fits := by
    intro before s n found _ h
    unfold gapAfter at h
    simp only [] at h
    split at h
    · next hmatch =>
      obtain ⟨rfl, rfl⟩ := Prod.mk.inj (Option.some.inj h)
      obtain ⟨rest, rfl⟩ := List.head?_eq_some_iff.mp hmatch.1
      exact ⟨Nat.succ_le_succ (gapCount_le rest), hout⟩
    · cases h

theorem sectionwise_regularSpaces : Sectionwise regularSpaces := by
  have hcomma :=
    (stopsAtQuotes_gapBefore (c := ',') (by decide) (by decide : '\'' ∉ [','])).sectionwise
  have hbehind :=
    (stopsAtQuotes_gapAfter (c := ',') (by decide) (by decide : '\'' ∉ [',', ' '])).sectionwise
  have hopen :=
    (stopsAtQuotes_gapBefore (c := '(') (by decide) (by decide : '\'' ∉ [' ', '('])).sectionwise
  have hinside :=
    (stopsAtQuotes_gapAfter (c := '(') (by decide) (by decide : '\'' ∉ ['('])).sectionwise
  have hclose :=
    (stopsAtQuotes_gapBefore (c := ')') (by decide) (by decide : '\'' ∉ [')'])).sectionwise
  exact hclose.comp (hinside.comp (hopen.comp (hbehind.comp hcomma)))

/-! ### The ends of lines -/

/-- A text without the blanks at the front of each line; `atFront` tells whether the text starts
there. -/
def dropFronts : Bool → Text → Text
  | _, [] => []
  | atFront, c :: rest =>
    if c = '\n' then c :: dropFronts true rest
    else if atFront && isBlank c then dropFronts true rest
    else c :: dropFronts false rest

/-- Whether only blanks are left on the line; `last` tells whether the line ends where the text
does. -/
def endsLine (last : Bool) : Text → Bool
  | [] => last
  | c :: rest => c == '\n' || isBlank c && endsLine last rest

/-- A text without the blanks at the end of each line; `last` tells whether the text ends there. -/
def trimEnds (last : Bool) : Text → Text
  | [] => []
  | c :: rest =>
    if c ≠ '\n' ∧ isBlank c = true ∧ endsLine last rest = true then trimEnds last rest
    else c :: trimEnds last rest

theorem dropFronts_of_notMem {line : Text} (h : '\n' ∉ line) :
    dropFronts false line = line ∧ dropFronts true line = line.dropWhile isBlank := by
  induction line with
  | nil => exact ⟨rfl, rfl⟩
  | cons c line ih =>
    have hc : '\n' ≠ c := List.ne_of_not_mem_cons h
    have hline := List.not_mem_of_not_mem_cons h
    obtain ⟨hkept, hdropped⟩ := ih hline
    rw [dropFronts, dropFronts, List.dropWhile_cons, if_neg (Ne.symm hc), if_neg (Ne.symm hc)]
    cases hblank : isBlank c with
    | true => simp [hkept, hdropped]
    | false => simp [hkept]

theorem dropFronts_append {line : Text} (h : '\n' ∉ line) (atFront : Bool) (rest : Text) :
    dropFronts atFront (line ++ '\n' :: rest) =
      dropFronts atFront line ++ '\n' :: dropFronts true rest := by
  induction line generalizing atFront with
  | nil => rfl
  | cons c line ih =>
    have hc : '\n' ≠ c := List.ne_of_not_mem_cons h
    have hline := List.not_mem_of_not_mem_cons h
    rw [List.cons_append, dropFronts, dropFronts, if_neg (Ne.symm hc), if_neg (Ne.symm hc)]
    split
    · rw [ih hline]
    · rw [ih hline, List.cons_append]

/-- What is left when the end of a text is dropped: nothing, or the first character and what is left
of the others. -/
theorem dropTrailing_cons (p : Char → Bool) (c : Char) (t : Text) :
    dropTrailing p (c :: t) =
      if p c = true ∧ dropTrailing p t = [] then [] else c :: dropTrailing p t := by
  unfold dropTrailing
  rw [List.reverse_cons, List.dropWhile_append]
  cases hrest : t.reverse.dropWhile p with
  | nil => cases hc : p c <;> simp [hc]
  | cons d ds => simp

/-- Only blanks are left on a line exactly if nothing is left of it without them. -/
theorem endsLine_line {line : Text} (h : '\n' ∉ line) (last : Bool) (rest : Text) :
    (endsLine last (line ++ '\n' :: rest) = true ↔ dropTrailing isBlank line = []) ∧
      (endsLine true line = true ↔ dropTrailing isBlank line = []) := by
  induction line with
  | nil => exact ⟨⟨fun _ => rfl, fun _ => rfl⟩, fun _ => rfl, fun _ => rfl⟩
  | cons c line ih =>
    have hc : '\n' ≠ c := List.ne_of_not_mem_cons h
    have hline := List.not_mem_of_not_mem_cons h
    obtain ⟨hbreak, hend⟩ := ih hline
    have hne : (c == '\n') = false := beq_eq_false_iff_ne.mpr (Ne.symm hc)
    rw [List.cons_append, endsLine, endsLine, dropTrailing_cons, hne, Bool.false_or, Bool.false_or,
      Bool.and_eq_true_iff, Bool.and_eq_true_iff, hbreak, hend]
    refine ⟨?_, ?_⟩ <;> split <;> simp_all

theorem trimEnds_line {line : Text} (h : '\n' ∉ line) (last : Bool) (rest : Text) :
    trimEnds last (line ++ '\n' :: rest) =
        dropTrailing isBlank line ++ '\n' :: trimEnds last rest ∧
      trimEnds true line = dropTrailing isBlank line := by
  induction line with
  | nil => exact ⟨rfl, rfl⟩
  | cons c line ih =>
    have hc : '\n' ≠ c := List.ne_of_not_mem_cons h
    have hline := List.not_mem_of_not_mem_cons h
    obtain ⟨hbreak, hend⟩ := ih hline
    obtain ⟨hbreaks, hends⟩ := endsLine_line hline last rest
    rw [List.cons_append, trimEnds, trimEnds, dropTrailing_cons]
    -- On both sides the character stays unless it and what is left of its line are blank.
    simp only [hbreaks, hends, hbreak, hend, ne_eq, Ne.symm hc, not_false_eq_true, true_and]
    split
    · next hall =>
      rw [hall.2]
      exact ⟨rfl, rfl⟩
    · exact ⟨rfl, rfl⟩

theorem stripLines_append {line : Text} (h : '\n' ∉ line) (rest : Text) :
    stripLines (line ++ '\n' :: rest) = strip line ++ '\n' :: stripLines rest := by
  obtain ⟨first, others, hlines⟩ := List.exists_cons_of_ne_nil (splitAtChar_ne_nil '\n' rest)
  unfold stripLines
  rw [splitAtChar_append_cons h, hlines, List.map_cons, List.map_cons, joinWith_cons_cons,
    List.append_assoc]
  rfl

/-- **The lines are stripped character by character.** -/
theorem stripLines_eq (t : Text) : stripLines t = trimEnds true (dropFronts true t) := by
  induction hlength : t.length using Nat.strongRecOn generalizing t with
  | ind n ih =>
    have hfront : ∀ {line : Text}, '\n' ∉ line → '\n' ∉ line.dropWhile isBlank := fun h hmem =>
      h (List.dropWhile_subset _ hmem)
    by_cases hbreak : '\n' ∈ t
    · obtain ⟨line, rest, rfl, hline⟩ := List.eq_append_cons_of_mem hbreak
      have hshort : rest.length < n := by
        simp only [List.length_append, List.length_cons] at hlength
        omega
      rw [stripLines_append hline, dropFronts_append hline, (dropFronts_of_notMem hline).2,
        (trimEnds_line (hfront hline) true _).1, ih rest.length hshort rest rfl]
      rfl
    · unfold stripLines
      rw [splitAtChar_of_notMem hbreak, (dropFronts_of_notMem hbreak).2,
        (trimEnds_line (hfront hbreak) true []).2]
      simp [joinWith, strip, stripBy]

/-! ### The ends of lines between quotes -/

theorem dropFronts_cut {s : Text} (hs : '\'' ∉ s) (atFront : Bool) (t : Text) :
    dropFronts atFront (s ++ '\'' :: t) = dropFronts atFront s ++ '\'' :: dropFronts false t := by
  induction s generalizing atFront with
  | nil =>
    -- A quote is neither a line break nor a blank.
    simp [dropFronts, isBlank_quote]
  | cons c s ih =>
    have hs' := List.not_mem_of_not_mem_cons hs
    rw [List.cons_append, dropFronts, dropFronts]
    split
    · rw [ih hs', List.cons_append]
    · split
      · rw [ih hs']
      · rw [ih hs', List.cons_append]

theorem endsLine_cut (last : Bool) (s t : Text) :
    endsLine last (s ++ '\'' :: t) = endsLine false s := by
  induction s with
  | nil => rfl
  | cons c s ih => rw [List.cons_append, endsLine, endsLine, ih]

theorem trimEnds_cut (last : Bool) (s t : Text) :
    trimEnds last (s ++ '\'' :: t) = trimEnds false s ++ '\'' :: trimEnds last t := by
  induction s with
  | nil => simp [trimEnds, isBlank_quote]
  | cons c s ih =>
    rw [List.cons_append, trimEnds, trimEnds, endsLine_cut, ih]
    split <;> rfl

theorem dropFronts_sublist (atFront : Bool) (t : Text) : (dropFronts atFront t).Sublist t := by
  induction t generalizing atFront with
  | nil => exact List.Sublist.refl []
  | cons c t ih =>
    rw [dropFronts]
    split
    · exact (ih true).cons_cons c
    · split
      · exact (ih true).cons c
      · exact (ih false).cons_cons c

theorem trimEnds_sublist (last : Bool) (t : Text) : (trimEnds last t).Sublist t := by
  induction t with
  | nil => exact List.Sublist.refl []
  | cons c t ih =>
    rw [trimEnds]
    split
    · exact ih.cons c
    · exact ih.cons_cons c

theorem actsInside_dropFronts : ActsInside (dropFronts true) (dropFronts false) := by
  have hfree : ∀ atFront s, '\'' ∉ s → '\'' ∉ dropFronts atFront s := fun atFront s hs hmem =>
    hs ((dropFronts_sublist atFront s).subset hmem)
  have hinner : Sectionwise (dropFronts false) :=
    ⟨hfree false, fun s t hs => dropFronts_cut hs false t⟩
  exact ActsInside.of_front hinner rfl rfl (hfree true) fun s t hs => dropFronts_cut hs true t

theorem actsInside_trimEnds : ActsInside (trimEnds true) (trimEnds false) := by
  have hfree : ∀ last s, '\'' ∉ s → '\'' ∉ trimEnds last s := fun last s hs hmem =>
    hs ((trimEnds_sublist last s).subset hmem)
  exact ActsInside.of_end (hfree false) rfl rfl (hfree true) fun s t _ => trimEnds_cut true s t

/-! ### The passes before and after the columns -/

/-- The passes that follow when the first list of columns has been split. -/
def finishLines (t : Text) : Text :=
  stripLines (regularSpaces (breakConditions t))

theorem layOut_eq (sql : Text) : layOut sql = finishLines (splitFirstColumns (clauseLines sql)) :=
  rfl

/-- What the passes before the columns make of a constant. -/
def clauseLinesInside (k : Text) : Text :=
  breakClauses (capitalise (collapse k))

/-- What the passes after the columns make of a constant. -/
def finishLinesInside (k : Text) : Text :=
  trimEnds false (dropFronts false (regularSpaces (breakConditions k)))

theorem actsInside_strip : ActsInside strip id where
  free := fun _ hk => hk
  within := by
    intro t
    rw [constants_strip, List.map_id]
  alone := by
    intro k _
    simp [strip, stripBy, dropTrailing, inQuotes, isBlank_quote]

theorem actsInside_clauseLines : ActsInside clauseLines clauseLinesInside :=
  ((sectionwise_breakClauses.comp sectionwise_capitalise).actsInside rfl).comp
    (actsInside_strip.comp (sectionwise_collapse.actsInside rfl))

theorem actsInside_finishLines : ActsInside finishLines finishLinesInside := by
  have hlines : finishLines =
      fun t => trimEnds true (dropFronts true (regularSpaces (breakConditions t))) :=
    funext fun t => stripLines_eq _
  rw [hlines]
  exact actsInside_trimEnds.comp (actsInside_dropFronts.comp
    ((sectionwise_regularSpaces.comp sectionwise_breakConditions).actsInside rfl))

end Layout

end SqlInventory
