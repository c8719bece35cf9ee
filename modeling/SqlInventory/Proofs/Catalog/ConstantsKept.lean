import SqlInventory.Proofs.Catalog.LayoutSections

/-!
# What a layout does to string constants

A layout does not leave the string constants of a statement alone (`layOut_changes_constants`). What
it does to them follows from how its passes go about a text.

* Every pass but one treats each constant on its own (`actsInside_clauseLines`,
  `actsInside_finishLines`), so it is enough to know what becomes of a constant in quotes.
* The remaining pass splits the first list of columns at its commas. If these stand outside of
  constants (`SplitsOutside`), the constants stay as they are (`constants_splitFirstColumns`);
  otherwise a constant may be broken at its commas, and blanks around its parts may be dropped.
* No pass changes more of a constant than case and blanks, but for a comma that is the last
  character of the first list (`essence_layOut_around`), and none of them adds or removes a quote.
* Most passes act on blanks only, so all that happens to a constant without blanks is that keywords
  in it are put in capitals (`layOutInPlace_of_noBlanks`).

`layOut_constants` puts this together.
-/

namespace SqlInventory

namespace Layout

open Text

/-! ### Splitting outside of constants -/

/-- Where the first list of columns of a text is split, it is split outside of constants: an even
number of quotes comes before it, and each of its columns has an even number of them. -/
def SplitsOutside (t : Text) : Prop :=
  ∀ m ∈ columnsRule.find? t, 1 < (splitColumns m.value).length →
    Even ((t.take m.start).count '\'') ∧ ∀ column ∈ splitColumns m.value, Even (column.count '\'')

instance (t : Text) : Decidable (SplitsOutside t) :=
  inferInstanceAs (Decidable (∀ m ∈ columnsRule.find? t, _))

theorem notMem_of_notMem_essence {t : Text} (h : '\'' ∉ essence t) : '\'' ∉ t := by
  rw [← List.count_eq_zero] at h ⊢
  rw [← sectionwise_essence.count_quote t]
  exact h

/-- A match of the list of columns is the list, with no quotes before and behind it. -/
theorem take_of_columnsRule {before : Option Char} {t columns : Text} {n : Nat}
    (h : columnsRule before t = some (n, columns)) :
    ∃ front behind, t.take n = front ++ columns ++ behind ∧ '\'' ∉ front ∧ '\'' ∉ behind := by
  unfold columnsRule at h
  split at h
  · next hselect =>
    obtain ⟨⟨blanks, found, m⟩, hfound, heq⟩ := Option.map_eq_some_iff.mp h
    obtain ⟨rfl, rfl⟩ := Prod.mk.inj heq
    obtain ⟨hblanks, hcolumns⟩ := columnsAfterBlanks?_eq_some hfound
    obtain ⟨htake, hfrom⟩ := columnsBeforeFrom?_eq_some hcolumns
    have hword : '\'' ∉ "SELECT".toList := by decide
    have hgap : '\'' ∉ (t.drop 6).take blanks :=
      notMem_of_isBlank fun c hc => isBlank_of_mem_take hblanks hc
    have hbehind : '\'' ∉ (((t.drop 6).drop blanks).drop found.length).take m := by
      apply notMem_of_notMem_essence
      rw [hfrom]
      decide
    refine ⟨"SELECT".toList ++ (t.drop 6).take blanks, _, ?_, ?_, hbehind⟩
    · simp only [List.take_add, ← List.drop_drop, hselect, htake]
    · exact fun hmem => (List.mem_append.mp hmem).elim hword hgap
  · cases h

theorem constants_around {front columns behind t : Text} (hfront : '\'' ∉ front)
    (heven : Even (columns.count '\'')) (hbehind : '\'' ∉ behind) :
    constants (front ++ columns ++ behind ++ t) = constants columns ++ constants t := by
  rw [List.append_assoc, List.append_assoc, constants_append_of_notMem hfront,
    constants_append_of_even heven, constants_append_of_notMem hbehind]

/-- A cell is a column when the blanks around it are dropped, unless it is an empty last one. -/
theorem cell_cases {t cell : Text} (h : cell ∈ cellsFrom 0 t) :
    strip cell ∈ splitColumns t ∨ cell = [] := by
  by_cases hend : EndsInTopComma t
  · obtain ⟨front, -, hcells, hsplit⟩ := exists_of_endsInTopComma hend
    rw [hcells, List.mem_append] at h
    rcases h with hkept | hdropped
    · exact Or.inl (hsplit ▸ List.mem_map_of_mem hkept)
    · exact Or.inr (List.mem_singleton.mp hdropped)
  · exact Or.inl (splitColumns_of_not_endsInTopComma hend ▸ List.mem_map_of_mem h)

theorem even_count_cell {t : Text} (h : ∀ column ∈ splitColumns t, Even (column.count '\'')) :
    ∀ cell ∈ cellsFrom 0 t, Even (cell.count '\'') := by
  intro cell hcell
  rcases cell_cases hcell with hcolumn | rfl
  · rw [← count_quote_strip]
    exact h _ hcolumn
  · exact ⟨0, rfl⟩

/-- The columns of a list have the constants of its cells. -/
theorem flatMap_constants_splitColumns (t : Text) :
    (splitColumns t).flatMap constants = (cellsFrom 0 t).flatMap constants := by
  have hstrip : ∀ cells : List Text,
      (cells.map strip).flatMap constants = cells.flatMap constants := by
    intro cells
    rw [List.flatMap_map]
    exact List.flatMap_congr fun cell _ => constants_strip cell
  by_cases hend : EndsInTopComma t
  · obtain ⟨front, -, hcells, hsplit⟩ := exists_of_endsInTopComma hend
    -- The cell that is left out is empty.
    rw [hsplit, hstrip, hcells, List.flatMap_append]
    exact (List.append_nil _).symm
  · rw [splitColumns_of_not_endsInTopComma hend, hstrip]

/-- **A list that is split outside of its constants keeps them.** -/
theorem constants_splitFirstColumns {t : Text} (h : SplitsOutside t) :
    constants (splitFirstColumns t) = constants t := by
  unfold splitFirstColumns
  cases hfind : columnsRule.find? t with
  | none => rfl
  | some m =>
    by_cases hseveral : 1 < (splitColumns m.value).length
    · simp only [hseveral, if_true]
      obtain ⟨hstart, hcolumns⟩ := h m hfind hseveral
      have hcells := even_count_cell hcolumns
      have hcomma : '\'' ∉ [','] := by decide
      have hsep : '\'' ∉ ",\n  ".toList := by decide
      obtain ⟨-, -, hanswer⟩ := Recogniser.answerAt_of_mem_findAll (List.mem_of_head? hfind)
      obtain ⟨front, behind, htake, hfront, hbehind⟩ := take_of_columnsRule hanswer
      -- The list as it stands in the text is its cells with commas between.
      have hvalue : Even (m.value.count '\'') := by
        rw [← joinWith_cellsFrom 0 m.value]
        exact even_count_joinWith hcomma hcells
      calc constants (t.take m.start ++ "SELECT\n  ".toList ++
              joinWith ",\n  ".toList (splitColumns m.value) ++ "\nFROM ".toList ++ t.drop m.stop)
          = constants (t.take m.start) ++ ((splitColumns m.value).flatMap constants ++
              constants (t.drop m.stop)) := by
            rw [List.append_assoc, List.append_assoc, List.append_assoc,
              constants_append_of_even hstart, ← List.append_assoc, ← List.append_assoc,
              constants_around (by decide) (even_count_joinWith hsep hcolumns) (by decide),
              constants_joinWith hsep hcolumns]
        _ = constants (t.take m.start) ++ (constants m.value ++ constants (t.drop m.stop)) := by
            rw [flatMap_constants_splitColumns, ← constants_joinWith hcomma hcells,
              joinWith_cellsFrom]
        _ = constants t := by
            conv_rhs => rw [Recogniser.eq_append_of_find? hfind, constants_append_of_even hstart,
              htake, constants_around hfront hvalue hbehind]
    · simp only [hseveral, if_false]

/-! ### What is kept in any case -/

/-- The comma behind `front`, in the essence of a statement, is the last character of the first list
of columns. -/
def EndsFirstColumns (sql front comma : Text) : Prop :=
  comma = [','] ∧ ∃ m columns, columnsRule.find? (clauseLines sql) = some m ∧
    m.value = columns ++ comma ∧
    front = essence ((clauseLines sql).take m.start) ++ ("SELECT".toList ++ essence columns)

/-- With case and blanks left out of account, one comma is lost at most: the last character of the
first list of columns. -/
theorem essence_layOut_around (sql : Text) :
    ∃ front comma behind, (comma = [] ∨ EndsFirstColumns sql front comma) ∧
      essence sql = front ++ comma ++ behind ∧ essence (layOut sql) = front ++ behind := by
  rw [essence_layOut]
  rcases essence_splitFirstColumns (clauseLines sql) with hkept | ⟨m, columns, hfind, hvalue, hlost⟩
  · refine ⟨essence sql, [], [], Or.inl rfl, by rw [List.append_nil, List.append_nil], ?_⟩
    rw [hkept, essence_clauseLines, List.append_nil]
  · have hcomma : essence [','] = [','] := by decide
    have hsql := essence_of_find?_columnsRule hfind
    rw [essence_clauseLines, hvalue] at hsql
    refine ⟨_, [','], "FROM".toList ++ essence ((clauseLines sql).drop m.stop),
      Or.inr ⟨rfl, m, columns, hfind, hvalue, rfl⟩, ?_, ?_⟩
    · rw [hsql]
      simp [essenceAround, hcomma]
    · rw [hlost]
      simp [essenceAround]

/-- No quote is added or removed. -/
theorem count_quote_layOut (sql : Text) : (layOut sql).count '\'' = sql.count '\'' := by
  obtain ⟨front, comma, behind, hcomma, hbefore, hafter⟩ := essence_layOut_around sql
  have hfree : '\'' ∉ comma := by
    rcases hcomma with rfl | ⟨rfl, -⟩
    · exact List.not_mem_nil
    · decide
  rw [← sectionwise_essence.count_quote, ← sectionwise_essence.count_quote sql, hbefore, hafter]
  simp only [List.count_append, List.count_eq_zero.mpr hfree, Nat.add_zero]

/-! ### Constants without blanks -/

/-- The layout of a statement whose columns are left on their line. -/
def layOutInPlace (sql : Text) : Text :=
  finishLines (clauseLines sql)

theorem actsInside_layOutInPlace :
    ActsInside layOutInPlace fun k => finishLinesInside (clauseLinesInside k) :=
  actsInside_finishLines.comp actsInside_clauseLines

/-- No character of a text is a blank. -/
def NoBlanks (t : Text) : Prop :=
  ∀ c ∈ t, isBlank c = false

instance (t : Text) : Decidable (NoBlanks t) :=
  inferInstanceAs (Decidable (∀ c ∈ t, _))

/-- What is recognised nowhere is not replaced. -/
theorem replaceFrom_eq_self {rule : Recogniser Char Text} {t : Text} (before : Option Char)
    (h : ∀ before s, s <:+ t → rule before s = none) : rule.replaceFrom before 0 t = t := by
  induction t generalizing before with
  | nil => rfl
  | cons c t ih =>
    rw [Recogniser.replaceFrom, h before (c :: t) (List.suffix_refl _)]
    show c :: rule.replaceFrom (some c) 0 t = c :: t
    rw [ih (some c) fun before s hs => h before s (hs.trans (List.suffix_cons c t))]

/-- A recogniser that wants a blank finds nothing in a text without blanks. -/
theorem replaceAll_of_noBlanks {rule : Recogniser Char Text}
    (hrule : ∀ before s, NoBlanks s → rule before s = none) {t : Text} (ht : NoBlanks t) :
    rule.replaceAll t = t :=
  replaceFrom_eq_self none fun before s hs => hrule before s fun c hc => ht c (hs.subset hc)

theorem length_takeWhile_of_noBlanks {p : Char → Bool} (hp : ∀ c, p c = true → isBlank c = true)
    {t : Text} (ht : NoBlanks t) : (t.takeWhile p).length = 0 := by
  cases t with
  | nil => rfl
  | cons c t =>
    have hc : p c = false := by
      by_contra hne
      have hblank := hp c (Bool.eq_true_of_not_eq_false hne)
      rw [ht c List.mem_cons_self] at hblank
      cases hblank
    rw [List.takeWhile_cons, hc]
    rfl

theorem blankCount_of_noBlanks {t : Text} (ht : NoBlanks t) : blankCount t = 0 :=
  length_takeWhile_of_noBlanks (fun _ h => h) ht

theorem gapCount_of_noBlanks {t : Text} (ht : NoBlanks t) : gapCount t = 0 := by
  refine length_takeWhile_of_noBlanks (fun c hc => ?_) ht
  rcases Bool.or_eq_true_iff.mp hc with hspace | htab
  · rw [beq_iff_eq.mp hspace]
    rfl
  · rw [beq_iff_eq.mp htab]
    rfl

theorem collapse_of_noBlanks {t : Text} (ht : NoBlanks t) : collapse t = t := by
  unfold collapse
  induction t with
  | nil => rfl
  | cons c t ih =>
    rw [collapseFrom, ht c List.mem_cons_self, ih fun d hd => ht d (List.mem_cons_of_mem c hd)]
    rfl

theorem breakClauses_of_noBlanks {t : Text} (ht : NoBlanks t) : breakClauses t = t :=
  replaceAll_of_noBlanks (fun before s hs => by
    unfold clauseRule
    rw [blankCount_of_noBlanks hs]
    rfl) ht

theorem breakConditions_of_noBlanks {t : Text} (ht : NoBlanks t) : breakConditions t = t := by
  have hrule : ∀ word before s, NoBlanks s → conditionRule word before s = none := by
    intro word before s hs
    unfold conditionRule
    rw [blankCount_of_noBlanks hs]
    rfl
  unfold breakConditions
  rw [replaceAll_of_noBlanks (hrule _) ht, replaceAll_of_noBlanks (hrule _) ht]

theorem regularSpaces_of_noBlanks {t : Text} (ht : NoBlanks t) : regularSpaces t = t := by
  have hbefore : ∀ c out before s, NoBlanks s → gapBefore c out before s = none := by
    intro c out before s hs
    unfold gapBefore
    rw [gapCount_of_noBlanks hs]
    rfl
  have hafter : ∀ c out before s, NoBlanks s → gapAfter c out before s = none := by
    intro c out before s hs
    have hrest : NoBlanks (s.drop 1) := fun d hd => hs d (List.mem_of_mem_drop hd)
    unfold gapAfter
    rw [gapCount_of_noBlanks hrest]
    exact if_neg fun hmatch => hmatch.2 rfl
  simp only [regularSpaces]
  rw [replaceAll_of_noBlanks (hbefore _ _) ht, replaceAll_of_noBlanks (hafter _ _) ht,
    replaceAll_of_noBlanks (hbefore _ _) ht, replaceAll_of_noBlanks (hafter _ _) ht,
    replaceAll_of_noBlanks (hbefore _ _) ht]

theorem trimEnds_of_noBlanks (last : Bool) {t : Text} (ht : NoBlanks t) : trimEnds last t = t := by
  induction t with
  | nil => rfl
  | cons c t ih =>
    rw [trimEnds, ht c List.mem_cons_self, ih fun d hd => ht d (List.mem_cons_of_mem c hd)]
    simp

theorem dropFronts_of_noBlanks {t : Text} (ht : NoBlanks t) : dropFronts false t = t := by
  refine (dropFronts_of_notMem fun hbreak => ?_).1
  have hblank := ht '\n' hbreak
  cases hblank

/-- A keyword in capitals has no blanks if it had none before. -/
theorem noBlanks_capitalise {t : Text} (ht : NoBlanks t) : NoBlanks (capitalise t) := by
  have hrule : ∀ phrase before s n out, NoBlanks s → capitalRule phrase before s = some (n, out) →
      NoBlanks out := by
    intro phrase before s n out hs h
    unfold capitalRule at h
    split at h
    · split at h
      · split at h
        · obtain ⟨rfl, rfl⟩ := Prod.mk.inj (Option.some.inj h)
          intro d hd
          by_contra hblank
          -- A blank among the capitals would be one of the stretch.
          have hcode := isNoCapital_of_isBlank (Bool.eq_true_of_not_eq_false hblank)
          exact hblank (hs d (List.mem_of_mem_take (mem_of_mem_upper hcode hd)))
        · cases h
      · cases h
    · cases h
  unfold capitalise
  generalize keywords = phrases
  induction phrases generalizing t with
  | nil => exact ht
  | cons phrase phrases ih => exact ih (Recogniser.forall_mem_replaceFrom (hrule phrase) ht none 0)

/-- **A constant without blanks** changes in its keywords only, which are put in capitals. -/
theorem layOutInPlace_of_noBlanks {k : Text} (hk : '\'' ∉ k) (hblanks : NoBlanks k) :
    layOutInPlace (inQuotes k) = inQuotes (capitalise k) := by
  have hcapital := noBlanks_capitalise hblanks
  rw [actsInside_layOutInPlace.alone k hk]
  unfold clauseLinesInside finishLinesInside
  rw [collapse_of_noBlanks hblanks, breakClauses_of_noBlanks hcapital,
    breakConditions_of_noBlanks hcapital, regularSpaces_of_noBlanks hcapital,
    dropFronts_of_noBlanks hcapital, trimEnds_of_noBlanks false hcapital]

/-! ### The constants of a layout -/

/-- **What a layout does to string constants.** There are as many of them as before, and they differ
from those before in case and blanks at most, but for a comma that ends the first list of columns.
They are the same exactly if the passes that follow the splitting of the columns make them so, each
on its own. If the columns are split outside of constants, each constant becomes what it becomes on
its own, in quotes; so the constants are the same exactly if each of them, on its own, stays as it
is. On its own, a constant without blanks changes only in that keywords are put in capitals. -/
theorem layOut_constants (sql : Text) :
    (constants (layOut sql)).length = (constants sql).length ∧
      (∃ front comma behind, (comma = [] ∨ EndsFirstColumns sql front comma) ∧
        (constants sql).map essence = constants (front ++ comma ++ behind) ∧
        (constants (layOut sql)).map essence = constants (front ++ behind)) ∧
      (constants (layOut sql) = constants sql ↔
        List.Forall₂ (fun k k' => finishLines (inQuotes k) = inQuotes k')
          (constants (splitFirstColumns (clauseLines sql))) (constants sql)) ∧
      (SplitsOutside (clauseLines sql) →
        List.Forall₂ (fun k k' => layOutInPlace (inQuotes k) = inQuotes k')
          (constants sql) (constants (layOut sql)) ∧
        (constants (layOut sql) = constants sql ↔
          ∀ k ∈ constants sql, layOutInPlace (inQuotes k) = inQuotes k)) ∧
      ∀ k ∈ constants sql, NoBlanks k → layOutInPlace (inQuotes k) = inQuotes (capitalise k) := by
  refine ⟨?_, ?_, ?_, ?_, ?_⟩
  · rw [length_constants, length_constants, count_quote_layOut]
  · obtain ⟨front, comma, behind, hcomma, hbefore, hafter⟩ := essence_layOut_around sql
    refine ⟨front, comma, behind, hcomma, ?_, ?_⟩
    · rw [← constants_essence, hbefore]
    · rw [← constants_essence, hafter]
  · rw [layOut_eq]
    exact actsInside_finishLines.constants_eq_iff
  · intro houtside
    -- Without the columns in the way, the passes before and after them are one.
    have hplace : constants (layOut sql) = constants (layOutInPlace sql) := by
      unfold layOutInPlace
      rw [layOut_eq, actsInside_finishLines.within, actsInside_finishLines.within,
        constants_splitFirstColumns houtside]
    rw [hplace]
    refine ⟨actsInside_layOutInPlace.constants_eq_iff.mp rfl, ?_⟩
    rw [actsInside_layOutInPlace.constants_eq_iff, List.forall₂_same]
  · exact fun k hk hblanks => layOutInPlace_of_noBlanks (notMem_of_mem_constants hk) hblanks

/-- Two columns, the second of which is a constant, and behind them a constant with two blanks. -/
theorem layOut_constants_of_columns :
    SplitsOutside (clauseLines "select id, 'A' from t where note = 'a  b'".toList) ∧
      List.Forall₂ (fun k k' => layOutInPlace (inQuotes k) = inQuotes k')
        (constants "select id, 'A' from t where note = 'a  b'".toList)
        (constants (layOut "select id, 'A' from t where note = 'a  b'".toList)) ∧
      layOutInPlace (inQuotes ['A']) = inQuotes (capitalise ['A']) := by
  have houtside :
      SplitsOutside (clauseLines "select id, 'A' from t where note = 'a  b'".toList) := by
    decide +kernel
  obtain ⟨-, -, -, hcolumns, hblanks⟩ :=
    layOut_constants "select id, 'A' from t where note = 'a  b'".toList
  exact ⟨houtside, (hcolumns houtside).1, hblanks ['A'] (by decide) (by decide)⟩

/-- A layout changes constants, though all quotes are closed: two blanks become one, and a constant
that is left alone on its own is broken where the first list of columns is split inside it. -/
theorem layOut_changes_constants :
    (Even ("select 'a  b' from t".toList.count '\'') ∧
      constants "select 'a  b' from t".toList = ["a  b".toList] ∧
      constants (layOut "select 'a  b' from t".toList) = ["a b".toList]) ∧
    (Even ("select 'a,b' from t".toList.count '\'') ∧
      layOutInPlace (inQuotes "a,b".toList) = inQuotes "a,b".toList ∧
      constants "select 'a,b' from t".toList = ["a,b".toList] ∧
      constants (layOut "select 'a,b' from t".toList) = ["a,\nb".toList]) := by
  decide +kernel

end Layout

end SqlInventory
