import SqlInventory.Catalog.Layout
import SqlInventory.Proofs.Catalog.ColumnCells
import SqlInventory.Proofs.Text.Essence
import SqlInventory.Proofs.Text.LetterCase
import SqlInventory.Proofs.Text.Matching
import SqlInventory.Proofs.Text.WholeWord

/-!
# A layout keeps the statement

Laying out a statement changes case and blanks, and nothing else that counts: the essence of the
statement (`Text.essence`) is the same before and after, except that one comma may be lost.

Most passes replace matches of a recogniser. For these it is enough to look at one match
(`Recogniser.additive_replaceAll`): what is put in its place has the same essence. The lemmas
`essence_capitalRule`, `essence_clauseRule`, `essence_conditionRule`, `essence_gapBefore` and
`essence_gapAfter` say this of the recognisers, and the pass lemmas follow.

The pass that splits the first list of columns is the one exception.

* `essence_columnsRule`: its match is `SELECT`, the list, and `FROM`, with blanks between;
* `essence_joinWith_splitColumns`: the columns are the list in their essence, but for a comma at the
  very end of the list, behind which there is no column.

`layOut_keeps_statement` puts the passes together.
-/

namespace SqlInventory

namespace Layout

open Text

/-! ### Blanks in front -/

theorem take_blankCount (t : Text) : t.take (blankCount t) = t.takeWhile isBlank :=
  (List.prefix_iff_eq_take.mp (List.takeWhile_prefix isBlank)).symm

theorem isBlank_of_mem_take {t : Text} {n : Nat} (hn : n ≤ blankCount t) {c : Char}
    (hc : c ∈ t.take n) : isBlank c = true := by
  have hmem : c ∈ t.take (blankCount t) := (List.take_prefix_take_left hn).subset hc
  rw [take_blankCount] at hmem
  exact List.mem_takeWhile_imp hmem

/-- The blanks in front of a text have no essence. -/
theorem essence_take_of_le_blankCount {t : Text} {n : Nat} (hn : n ≤ blankCount t) :
    essence (t.take n) = [] :=
  essence_of_isBlank fun _ hc => isBlank_of_mem_take hn hc

/-! ### Capitals and clauses -/

/-- A character can be put in capitals without loss. -/
def IsSteady (c : Char) : Prop :=
  upper (upperChar c) = upperChar c

theorem isSteady_of_isBlank {c : Char} (h : isBlank c = true) : IsSteady c := by
  unfold IsSteady
  rw [upperChar_of_isBlank h]
  simp [upper, upperChar_of_isBlank h]

/-- Whatever counts as an ASCII character can be put in capitals without loss. -/
theorem isSteady_of_sameLetter {a c : Char} (ha : a.toNat < 128) (h : sameLetter a c = true) :
    IsSteady c := by
  have htable : ∀ c ∈ asciiLikes, upper (upperChar c) = upperChar c := by decide +kernel
  exact htable c (mem_asciiLikes_of_sameLetter ha h)

/-- A phrase of ASCII words takes characters that can be put in capitals without loss. -/
theorem isSteady_of_phraseLength? {phrase : List Text}
    (hascii : ∀ word ∈ phrase, ∀ a ∈ word, a.toNat < 128) {t : Text} {n : Nat}
    (h : phraseLength? phrase t = some n) : ∀ c ∈ t.take n, IsSteady c := by
  induction phrase generalizing t n with
  | nil =>
    cases h
    simp
  | cons word others ih =>
    have hword : ∀ a ∈ word, ∀ c, sameLetter a c = true → IsSteady c := fun a ha c =>
      isSteady_of_sameLetter (hascii word List.mem_cons_self a ha)
    cases others with
    | nil =>
      rw [phraseLength?] at h
      split at h
      · next hfront =>
        cases h
        exact forall_mem_take_of_isFrontOf hword hfront
      · cases h
    | cons next others =>
      rw [phraseLength?] at h
      split at h
      · next hfront =>
        simp only [] at h
        split at h
        · cases h
        · obtain ⟨m, hm, rfl⟩ := Option.map_eq_some_iff.mp h
          -- The word, the blanks behind it, and the rest of the phrase.
          intro c hc
          rw [List.take_add, List.take_add, List.mem_append, List.mem_append] at hc
          rcases hc with (hletter | hblank) | hrest
          · exact forall_mem_take_of_isFrontOf hword hfront c hletter
          · exact isSteady_of_isBlank (isBlank_of_mem_take (Nat.le_refl _) hblank)
          · rw [← List.drop_drop] at hrest
            exact ih (fun w hw => hascii w (List.mem_cons_of_mem word hw)) hm c hrest
      · cases h

theorem essence_capitalRule {phrase : List Text}
    (hascii : ∀ word ∈ phrase, ∀ a ∈ word, a.toNat < 128) {before : Option Char} {t out : Text}
    {n : Nat} (h : capitalRule phrase before t = some (n, out)) :
    essence out = essence (t.take n) := by
  unfold capitalRule at h
  split at h
  · split at h
    · next m hlength =>
      split at h
      · cases h
        exact essence_upper (isSteady_of_phraseLength? hascii hlength)
      · cases h
    · cases h
  · cases h

theorem essence_capitalise (t : Text) : essence (capitalise t) = essence t := by
  have hkeywords : ∀ phrase ∈ keywords, ∀ word ∈ phrase, ∀ a ∈ word, a.toNat < 128 := by decide
  unfold capitalise
  -- The passes follow each other, so the induction is on the phrases that are left.
  generalize keywords = phrases at hkeywords
  induction phrases generalizing t with
  | nil => rfl
  | cons phrase phrases ih =>
    rw [List.foldl_cons, ih _ fun p hp => hkeywords p (List.mem_cons_of_mem phrase hp)]
    exact Recogniser.additive_replaceAll essence_append
      (fun _ _ _ _ h => essence_capitalRule (hkeywords phrase List.mem_cons_self) h) t

theorem essence_clauseRule {before : Option Char} {t out : Text} {n : Nat}
    (h : clauseRule before t = some (n, out)) : essence out = essence (t.take n) := by
  have hwords : ∀ word ∈ clauseWords, ∀ a ∈ word, a.toNat < 128 := by decide
  unfold clauseRule at h
  simp only [] at h
  split at h
  · cases h
  · split at h
    · next word hword =>
      cases h
      have hlength := (isStretch_of_wholeWord? hword).take_length
      obtain ⟨listed, hlisted, hfront, htake⟩ := isStretch_of_wholeWord? hword
      have hsteady : ∀ c ∈ word, IsSteady c := by
        rw [htake]
        exact forall_mem_take_of_isFrontOf
          (fun a ha c => isSteady_of_sameLetter (hwords listed hlisted a ha)) hfront
      -- Blanks become a line break, and the word its capital form.
      rw [List.take_add, essence_append, essence_take_of_le_blankCount (Nat.le_refl _), hlength,
        essence_cons, essence_singleton_of_isBlank rfl, essence_upper hsteady]
    · cases h

theorem essence_breakClauses (t : Text) : essence (breakClauses t) = essence t :=
  Recogniser.additive_replaceAll essence_append (fun _ _ _ _ => essence_clauseRule) t

/-! ### The first list of columns -/

theorem essence_fromLength? {t : Text} {n : Nat} (h : fromLength? t = some n) :
    essence (t.take n) = "FROM".toList := by
  unfold fromLength? at h
  simp only [] at h
  split at h
  · next hfrom =>
    obtain rfl := Option.some.inj h
    rw [List.take_add, List.take_add, hfrom.2.1, ← List.drop_drop, essence_append, essence_append,
      essence_take_of_le_blankCount (Nat.le_refl _), essence_take_of_le_blankCount (Nat.le_refl _)]
    decide
  · cases h

/-- One step of the search for `FROM`: the list ends where `FROM` follows, and takes a character
otherwise. It holds by definition, and the equation that `rw` would make for it takes long. -/
theorem columnsBeforeFrom?_cons (c : Char) (t : Text) :
    columnsBeforeFrom? (c :: t) =
      match fromLength? (c :: t) with
      | some n => some ([], n)
      | none => (columnsBeforeFrom? t).map fun (columns, n) => (c :: columns, n) :=
  (rfl)

/-- A list of columns is the front of the text, and `FROM` between blanks follows. -/
theorem columnsBeforeFrom?_eq_some {t columns : Text} {n : Nat}
    (h : columnsBeforeFrom? t = some (columns, n)) :
    t.take columns.length = columns ∧
      essence ((t.drop columns.length).take n) = "FROM".toList := by
  induction t generalizing columns with
  | nil => cases h
  | cons c t ih =>
    rw [columnsBeforeFrom?_cons] at h
    split at h
    · next m hfrom =>
      obtain ⟨rfl, rfl⟩ := Prod.mk.inj (Option.some.inj h)
      rw [List.length_nil, List.take_zero, List.drop_zero]
      exact ⟨rfl, essence_fromLength? hfrom⟩
    · obtain ⟨⟨tail, m⟩, htail, heq⟩ := Option.map_eq_some_iff.mp h
      obtain ⟨rfl, rfl⟩ := Prod.mk.inj heq
      obtain ⟨htake, hfrom⟩ := ih htail
      rw [List.length_cons, List.take_succ_cons, List.drop_succ_cons, htake]
      exact ⟨rfl, hfrom⟩

theorem columnsAfterBlanks?_eq_some {t columns : Text} {most blanks n : Nat}
    (h : columnsAfterBlanks? t most = some (blanks, columns, n)) :
    blanks ≤ most ∧ columnsBeforeFrom? (t.drop blanks) = some (columns, n) := by
  induction most with
  | zero => cases h
  | succ most ih =>
    rw [columnsAfterBlanks?] at h
    split at h
    · next found m hfound =>
      cases h
      exact ⟨Nat.le_refl _, hfound⟩
    · obtain ⟨hle, hfound⟩ := ih h
      exact ⟨Nat.le_succ_of_le hle, hfound⟩

/-- **A list of columns stands between `SELECT` and `FROM`**, and there are only blanks besides. -/
theorem essence_columnsRule {before : Option Char} {t columns : Text} {n : Nat}
    (h : columnsRule before t = some (n, columns)) :
    essence (t.take n) = "SELECT".toList ++ essence columns ++ "FROM".toList := by
  unfold columnsRule at h
  split at h
  · next hselect =>
    obtain ⟨⟨blanks, found, m⟩, hfound, heq⟩ := Option.map_eq_some_iff.mp h
    obtain ⟨rfl, rfl⟩ := Prod.mk.inj heq
    obtain ⟨hblanks, hcolumns⟩ := columnsAfterBlanks?_eq_some hfound
    obtain ⟨htake, hfrom⟩ := columnsBeforeFrom?_eq_some hcolumns
    have hword : essence "SELECT".toList = "SELECT".toList := by decide
    simp only [List.take_add, ← List.drop_drop, hselect, htake, essence_append,
      essence_take_of_le_blankCount hblanks, hfrom, hword, List.append_nil]
  · cases h

/-! ### Columns -/

/-- **The columns of a list are the list in their essence**, but for a comma at its end. -/
theorem essence_joinWith_splitColumns (t : Text) :
    essence (joinWith ",\n  ".toList (splitColumns t)) = essence t ∨
      ∃ columns, t = columns ++ [','] ∧
        essence (joinWith ",\n  ".toList (splitColumns t)) = essence columns := by
  have hsep : essence ",\n  ".toList = essence [','] := by decide
  by_cases hend : EndsInTopComma t
  · obtain ⟨columns, ht, -, hsplit⟩ := exists_of_endsInTopComma hend
    refine Or.inr ⟨columns, ht, ?_⟩
    rw [hsplit, ignoresBlanks_essence.apply_joinWith_map_strip hsep, joinWith_cellsFrom]
  · refine Or.inl ?_
    rw [splitColumns_of_not_endsInTopComma hend,
      ignoresBlanks_essence.apply_joinWith_map_strip hsep, joinWith_cellsFrom]

/-- The essence of a text that has `columns` between `SELECT` and `FROM`. -/
def essenceAround (front columns behind : Text) : Text :=
  essence front ++ ("SELECT".toList ++ essence columns ++ "FROM".toList) ++ essence behind

/-- A text around a match of the list of columns. -/
theorem essence_of_find?_columnsRule {t : Text} {m : Match Text}
    (h : columnsRule.find? t = some m) :
    essence t = essenceAround (t.take m.start) m.value (t.drop m.stop) := by
  obtain ⟨-, -, hanswer⟩ := Recogniser.answerAt_of_mem_findAll (List.mem_of_head? h)
  conv_lhs => rw [Recogniser.eq_append_of_find? h, essence_append, essence_append,
    essence_columnsRule hanswer, ← List.append_assoc]
  rfl

/-- **Splitting the first list of columns loses a comma at most**, and that is the last character of
the list. -/
theorem essence_splitFirstColumns (t : Text) :
    essence (splitFirstColumns t) = essence t ∨
      ∃ m columns, columnsRule.find? t = some m ∧ m.value = columns ++ [','] ∧
        essence (splitFirstColumns t) =
          essenceAround (t.take m.start) columns (t.drop m.stop) := by
  unfold splitFirstColumns
  cases hfind : columnsRule.find? t with
  | none => exact Or.inl rfl
  | some m =>
    by_cases hseveral : 1 < (splitColumns m.value).length
    · have hselect : essence "SELECT\n  ".toList = "SELECT".toList := by decide
      have hfrom : essence "\nFROM ".toList = "FROM".toList := by decide
      simp only [hseveral, if_true, essence_append, hselect, hfrom]
      rcases essence_joinWith_splitColumns m.value with hkept | ⟨columns, hvalue, hlost⟩
      · refine Or.inl ?_
        rw [hkept, essence_of_find?_columnsRule hfind]
        simp [essenceAround]
      · refine Or.inr ⟨m, columns, rfl, hvalue, ?_⟩
        rw [hlost]
        simp [essenceAround]
    · simp only [hseveral, if_false]
      exact Or.inl trivial

/-! ### Conditions -/

theorem sameLetter_self (a : Char) : sameLetter a a = true := by
  simp [sameLetter]

/-- Whatever counts as a letter of `AND` or `OR` has it as its capital form. -/
theorem upperChar_of_sameLetter_condition :
    ∀ a ∈ "ANDOR".toList, ∀ c, sameLetter a c = true → upperChar c = [a] := by
  have htable : ∀ a ∈ "ANDOR".toList, a.toNat < 128 ∧
      ∀ c ∈ asciiLikes, sameLetter a c = true → upperChar c = [a] := by decide +kernel
  intro a ha c hsame
  obtain ⟨hascii, hcapital⟩ := htable a ha
  exact hcapital c (mem_asciiLikes_of_sameLetter hascii hsame) hsame

theorem essence_conditionRule {word : Text}
    (hword : ∀ a ∈ word, ∀ c, sameLetter a c = true → upperChar c = [a]) {before : Option Char}
    {t out : Text} {n : Nat} (h : conditionRule word before t = some (n, out)) :
    essence out = essence (t.take n) := by
  unfold conditionRule at h
  simp only [] at h
  split at h
  · next hmatch =>
    obtain ⟨rfl, rfl⟩ := Prod.mk.inj (Option.some.inj h)
    have hcapital : upper word = word :=
      (List.flatMap_congr fun a ha => hword a ha a (sameLetter_self a)).trans
        (List.flatMap_singleton' word)
    -- The word as it stands in the text has the word itself as its capital form.
    have hstretch : essence ((t.drop (blankCount t)).take word.length) = essence word := by
      unfold essence
      rw [upper_take_of_isFrontOf hword hmatch.2.2, hcapital]
    have hindent : essence "\n  ".toList = [] := by decide
    have hspace : essence " ".toList = [] := by decide
    -- What is taken is blanks, the word, and blanks.
    rw [List.take_add, List.take_add, ← List.drop_drop]
    simp only [essence_append, hindent, hspace, hstretch,
      essence_take_of_le_blankCount (Nat.le_refl _)]
  · cases h

theorem essence_breakConditions (t : Text) : essence (breakConditions t) = essence t := by
  have hand : ∀ a ∈ "AND".toList, ∀ c, sameLetter a c = true → upperChar c = [a] :=
    fun a ha => upperChar_of_sameLetter_condition a
      ((by decide : ∀ a ∈ "AND".toList, a ∈ "ANDOR".toList) a ha)
  have hor : ∀ a ∈ "OR".toList, ∀ c, sameLetter a c = true → upperChar c = [a] :=
    fun a ha => upperChar_of_sameLetter_condition a
      ((by decide : ∀ a ∈ "OR".toList, a ∈ "ANDOR".toList) a ha)
  unfold breakConditions
  rw [Recogniser.additive_replaceAll essence_append fun _ _ _ _ => essence_conditionRule hor,
    Recogniser.additive_replaceAll essence_append fun _ _ _ _ => essence_conditionRule hand]

/-! ### Spaces -/

/-- The spaces and tabs in front of a text have no essence. -/
theorem essence_take_gapCount (t : Text) : essence (t.take (gapCount t)) = [] := by
  have htake : t.take (gapCount t) = t.takeWhile fun c => c == ' ' || c == '\t' :=
    (List.prefix_iff_eq_take.mp (List.takeWhile_prefix _)).symm
  rw [htake]
  refine essence_of_isBlank fun c hc => ?_
  have hgap := List.mem_takeWhile_imp hc
  rcases Bool.or_eq_true_iff.mp hgap with hspace | htab
  · rw [beq_iff_eq.mp hspace]
    rfl
  · rw [beq_iff_eq.mp htab]
    rfl

theorem essence_gapBefore {c : Char} {out : Text} (hout : essence out = essence [c])
    {before : Option Char} {t found : Text} {n : Nat}
    (h : gapBefore c out before t = some (n, found)) : essence found = essence (t.take n) := by
  unfold gapBefore at h
  simp only [] at h
  split at h
  · next hmatch =>
    obtain ⟨rfl, rfl⟩ := Prod.mk.inj (Option.some.inj h)
    obtain ⟨rest, hrest⟩ := List.head?_eq_some_iff.mp hmatch.2
    rw [List.take_add, hrest, essence_append, essence_take_gapCount, hout, List.nil_append]
    rfl
  · cases h

theorem essence_gapAfter {c : Char} {out : Text} (hout : essence out = essence [c])
    {before : Option Char} {t found : Text} {n : Nat}
    (h : gapAfter c out before t = some (n, found)) : essence found = essence (t.take n) := by
  unfold gapAfter at h
  simp only [] at h
  split at h
  · next hmatch =>
    obtain ⟨rfl, rfl⟩ := Prod.mk.inj (Option.some.inj h)
    obtain ⟨rest, rfl⟩ := List.head?_eq_some_iff.mp hmatch.1
    rw [List.take_succ_cons, essence_cons, List.drop_one, List.tail_cons, essence_take_gapCount,
      hout, List.append_nil]
  · cases h

theorem essence_regularSpaces (t : Text) : essence (regularSpaces t) = essence t := by
  have hcomma : essence [',', ' '] = essence [','] := by decide
  have hopen : essence [' ', '('] = essence ['('] := by decide
  simp only [regularSpaces]
  rw [Recogniser.additive_replaceAll essence_append fun _ _ _ _ => essence_gapBefore rfl,
    Recogniser.additive_replaceAll essence_append fun _ _ _ _ => essence_gapAfter rfl,
    Recogniser.additive_replaceAll essence_append fun _ _ _ _ => essence_gapBefore hopen,
    Recogniser.additive_replaceAll essence_append fun _ _ _ _ => essence_gapAfter hcomma,
    Recogniser.additive_replaceAll essence_append fun _ _ _ _ => essence_gapBefore rfl]

theorem essence_stripLines (t : Text) : essence (stripLines t) = essence t := by
  unfold stripLines
  rw [ignoresBlanks_essence.apply_joinWith_map_strip rfl, joinWith_splitAtChar]

/-! ### The whole layout -/

/-- The text in which the first list of columns is looked for: keywords are in capitals, and clauses
on lines of their own. -/
def clauseLines (sql : Text) : Text :=
  breakClauses (capitalise (strip (collapse sql)))

theorem essence_clauseLines (sql : Text) : essence (clauseLines sql) = essence sql := by
  unfold clauseLines
  rw [essence_breakClauses, essence_capitalise, essence_strip, essence_collapse]

theorem essence_layOut (sql : Text) :
    essence (layOut sql) = essence (splitFirstColumns (clauseLines sql)) := by
  unfold layOut
  rw [essence_stripLines, essence_regularSpaces, essence_breakConditions]
  rfl

/-- **A layout keeps the statement.** With case and blanks left out of account, a statement reads the
same before and after it is laid out, or else one comma is missing: the first list of columns, found
between `SELECT` and `FROM`, ends in a comma, and the two readings differ in this comma alone. -/
theorem layOut_keeps_statement (sql : Text) :
    essence (layOut sql) = essence sql ∨
      ∃ m columns, columnsRule.find? (clauseLines sql) = some m ∧ m.value = columns ++ [','] ∧
        ∃ front behind,
          essence sql = front ++ "SELECT".toList ++ essence columns ++ [','] ++ "FROM".toList ++
            behind ∧
          essence (layOut sql) = front ++ "SELECT".toList ++ essence columns ++ "FROM".toList ++
            behind ∧
          front = essence ((clauseLines sql).take m.start) ∧
          behind = essence ((clauseLines sql).drop m.stop) := by
  rw [essence_layOut]
  -- Of all passes only the one that splits the columns can lose something.
  rcases essence_splitFirstColumns (clauseLines sql) with hkept | ⟨m, columns, hfind, hvalue, hlost⟩
  · exact Or.inl (hkept.trans (essence_clauseLines sql))
  · have hcomma : essence [','] = [','] := by decide
    have hsql := essence_of_find?_columnsRule hfind
    rw [essence_clauseLines, hvalue] at hsql
    refine Or.inr ⟨m, columns, hfind, hvalue, _, _, ?_, ?_, rfl, rfl⟩
    · rw [hsql]
      simp [essenceAround, hcomma]
    · rw [hlost]
      simp [essenceAround]

example : layOut "select a, b, from t".toList = "SELECT\na,\nb\nFROM t".toList := by
  decide +kernel

end Layout

end SqlInventory
