import SqlInventory.Catalog.Columns
import SqlInventory.Proofs.Text.Essence
import Mathlib.Data.List.DropRight

/-!
# The cells of a column list

Which commas divide a column list is said of places: a comma divides if the depth of parentheses in
front of it is zero (`IsTopComma`), where a closing parenthesis without an opening one leaves the
depth at zero. The stretches between these places are the `segments` of the list. Nothing here asks
for parentheses that are balanced, and segments may be empty.

* `cellsFrom_comma`, `cellsFrom_cons`: what one character does to the cells behind it;
* `cellsFrom_eq_cutFrom`: the cells are the stretches between the dividing commas. The induction runs
  along the text, so all of this is said for a text that starts at any depth;
* `joinWith_cellsFrom`: the cells, joined by commas, are the list;
* `cellsFrom_of_mem`: a cell starts at depth zero, since the comma before it stands there. So it has
  no dividing comma of its own, and is its only cell;
* `topCommas_strip_eq_nil`: blanks leave the depth alone, so the same holds of a cell without the
  blanks around it;
* `cellsFrom_append_comma`, `exists_cellsFrom_concat`: the last cell is empty exactly if the list is
  empty or ends in a dividing comma. In the second case the cell is left out, and its comma with it
  (`exists_of_endsInTopComma`).

`splitColumns_exact` puts these together.
-/

namespace SqlInventory

open Text

/-! ### Commas outside of parentheses -/

/-- The depth of parentheses behind `c`, if it is `depth` before it. -/
def depthBehind (depth : Nat) (c : Char) : Nat :=
  if c = '(' then depth + 1 else if c = ')' then depth - 1 else depth

/-- The depth of parentheses behind `t`, if it is `depth` before it. -/
def depthAfter (depth : Nat) (t : Text) : Nat :=
  t.foldl depthBehind depth

@[simp] theorem depthAfter_nil (depth : Nat) : depthAfter depth [] = depth := rfl

@[simp] theorem depthAfter_cons (depth : Nat) (c : Char) (t : Text) :
    depthAfter depth (c :: t) = depthAfter (depthBehind depth c) t := rfl

/-- Blanks are no parentheses. -/
theorem depthBehind_of_isBlank {c : Char} (h : isBlank c = true) (depth : Nat) :
    depthBehind depth c = depth := by
  have hopen : c ≠ '(' := by rintro rfl; exact absurd h (by decide)
  have hclose : c ≠ ')' := by rintro rfl; exact absurd h (by decide)
  unfold depthBehind
  rw [if_neg hopen, if_neg hclose]

theorem depthAfter_of_isBlank {s : Text} (h : ∀ c ∈ s, isBlank c = true) (depth : Nat) :
    depthAfter depth s = depth := by
  induction s with
  | nil => rfl
  | cons c s ih =>
    rw [depthAfter_cons, depthBehind_of_isBlank (h c List.mem_cons_self)]
    exact ih fun c' hc' => h c' (List.mem_cons_of_mem c hc')

/-- At place `i` of a text, before which the depth is `depth`, there is a comma outside of
parentheses. -/
def IsTopComma (depth : Nat) (t : Text) (i : Nat) : Prop :=
  t[i]? = some ',' ∧ depthAfter depth (t.take i) = 0

instance (depth : Nat) (t : Text) (i : Nat) : Decidable (IsTopComma depth t i) :=
  inferInstanceAs (Decidable (_ ∧ _))

theorem isTopComma_zero {depth : Nat} {c : Char} {t : Text} :
    IsTopComma depth (c :: t) 0 ↔ c = ',' ∧ depth = 0 := by
  simp [IsTopComma]

theorem isTopComma_succ {depth : Nat} {c : Char} {t : Text} {i : Nat} :
    IsTopComma depth (c :: t) (i + 1) ↔ IsTopComma (depthBehind depth c) t i := by
  simp [IsTopComma]

/-- The places of the commas outside of parentheses, from front to back. -/
def topCommas (depth : Nat) (t : Text) : List Nat :=
  (List.range t.length).filter fun i => IsTopComma depth t i

@[simp] theorem topCommas_nil (depth : Nat) : topCommas depth [] = [] := rfl

theorem topCommas_cons (depth : Nat) (c : Char) (t : Text) :
    topCommas depth (c :: t) =
      (if c = ',' ∧ depth = 0 then [0] else []) ++
        (topCommas (depthBehind depth c) t).map (· + 1) := by
  have hrest : (fun i => decide (IsTopComma depth (c :: t) i)) ∘ Nat.succ =
      fun i => decide (IsTopComma (depthBehind depth c) t i) := by
    funext i
    exact decide_eq_decide.mpr isTopComma_succ
  unfold topCommas
  rw [List.length_cons, List.range_succ_eq_map, List.filter_cons, List.filter_map, hrest]
  by_cases htop : c = ',' ∧ depth = 0
  · rw [if_pos htop, if_pos (decide_eq_true (isTopComma_zero.mpr htop))]
    rfl
  · rw [if_neg htop, if_neg (by simpa using mt isTopComma_zero.mp htop)]
    rfl

/-- The commas of a text are those of its front and those behind it, at the depth reached there. -/
theorem topCommas_append (depth : Nat) (s t : Text) :
    topCommas depth (s ++ t) =
      topCommas depth s ++ (topCommas (depthAfter depth s) t).map (· + s.length) := by
  induction s generalizing depth with
  | nil => simp
  | cons c s ih =>
    have hshift : ((· + 1) ∘ (· + s.length) : Nat → Nat) = (· + (c :: s).length) := by
      funext i
      exact Nat.add_assoc i s.length 1
    rw [List.cons_append, topCommas_cons, topCommas_cons, ih, List.map_append, List.map_map, hshift,
      depthAfter_cons, List.append_assoc]

/-! ### Stretches between places -/

/-- The stretches of `t` from place `start` on that lie between the places in `cuts`. -/
def cutFrom (t : Text) (start : Nat) : List Nat → List Text
  | [] => [t.drop start]
  | i :: cuts => (t.take i).drop start :: cutFrom t (i + 1) cuts

/-- The stretches of a column list between the commas outside of parentheses. -/
def segments (t : Text) : List Text :=
  cutFrom t 0 (topCommas 0 t)

theorem length_cutFrom (t : Text) (start : Nat) (cuts : List Nat) :
    (cutFrom t start cuts).length = cuts.length + 1 := by
  induction cuts generalizing start with
  | nil => rfl
  | cons i cuts ih => rw [cutFrom, List.length_cons, ih, List.length_cons]

/-- A character in front of `start` is in none of the stretches. -/
theorem cutFrom_cons_succ (c : Char) (t : Text) (start : Nat) (cuts : List Nat) :
    cutFrom (c :: t) (start + 1) (cuts.map (· + 1)) = cutFrom t start cuts := by
  induction cuts generalizing start with
  | nil => rfl
  | cons i cuts ih =>
    rw [List.map_cons, cutFrom, ih]
    rfl

/-- A character at `start` that is no cut is in the first of the stretches. -/
theorem cutFrom_cons_zero (c : Char) (t : Text) (cuts : List Nat) :
    cutFrom (c :: t) 0 (cuts.map (· + 1)) = (cutFrom t 0 cuts).modifyHead (c :: ·) := by
  cases cuts with
  | nil => rfl
  | cons i cuts =>
    rw [List.map_cons, cutFrom, cutFrom_cons_succ]
    rfl

/-! ### Cells -/

/-- There is at least one cell. -/
theorem exists_cellsFrom_eq_cons (depth : Nat) (t : Text) :
    ∃ first others, cellsFrom depth t = first :: others := by
  cases t with
  | nil => exact ⟨[], [], rfl⟩
  | cons c t =>
    rw [cellsFrom]
    split
    · exact ⟨_, _, rfl⟩
    · simp only []
      split <;> exact ⟨_, _, rfl⟩

/-- One step of the splitting: a dividing comma ends a cell. -/
theorem cellsFrom_comma (t : Text) : cellsFrom 0 (',' :: t) = [] :: cellsFrom 0 t := by
  rw [cellsFrom, if_pos ⟨rfl, rfl⟩]

/-- One step of the splitting: any other character is put in front of the first cell. -/
theorem cellsFrom_cons {depth : Nat} {c : Char} (h : ¬(c = ',' ∧ depth = 0)) (t : Text) :
    cellsFrom depth (c :: t) = (cellsFrom (depthBehind depth c) t).modifyHead (c :: ·) := by
  obtain ⟨first, others, hcells⟩ := exists_cellsFrom_eq_cons (depthBehind depth c) t
  rw [hcells, List.modifyHead_cons]
  unfold depthBehind at hcells
  simp only [cellsFrom, if_neg h, hcells]

/-- **The cells are the stretches between the dividing commas.** -/
theorem cellsFrom_eq_cutFrom (depth : Nat) (t : Text) :
    cellsFrom depth t = cutFrom t 0 (topCommas depth t) := by
  induction t generalizing depth with
  | nil => rfl
  | cons c t ih =>
    rw [topCommas_cons]
    by_cases htop : c = ',' ∧ depth = 0
    · obtain ⟨rfl, rfl⟩ := htop
      -- A comma leaves the depth at zero, and is in no stretch.
      have hdepth : depthBehind 0 ',' = 0 := rfl
      rw [cellsFrom_comma, ih, if_pos ⟨rfl, rfl⟩, hdepth, List.singleton_append, cutFrom,
        cutFrom_cons_succ]
      rfl
    · rw [cellsFrom_cons htop, ih, if_neg htop, List.nil_append, cutFrom_cons_zero]

theorem cellsFrom_zero (t : Text) : cellsFrom 0 t = segments t :=
  cellsFrom_eq_cutFrom 0 t

/-- The cells of a list, joined by commas, are the list. -/
theorem joinWith_cellsFrom (depth : Nat) (t : Text) : joinWith [','] (cellsFrom depth t) = t := by
  induction t generalizing depth with
  | nil => rfl
  | cons c t ih =>
    by_cases htop : c = ',' ∧ depth = 0
    · obtain ⟨rfl, rfl⟩ := htop
      obtain ⟨first, others, hcells⟩ := exists_cellsFrom_eq_cons 0 t
      rw [cellsFrom_comma, hcells, joinWith_cons_cons, ← hcells, ih]
      rfl
    · obtain ⟨first, others, hcells⟩ := exists_cellsFrom_eq_cons (depthBehind depth c) t
      rw [cellsFrom_cons htop, hcells, List.modifyHead_cons, joinWith_cons_head, ← hcells, ih]

/-- A text is its only cell exactly if there is no dividing comma in it. -/
theorem cellsFrom_eq_singleton_iff {depth : Nat} {t : Text} :
    cellsFrom depth t = [t] ↔ topCommas depth t = [] := by
  rw [cellsFrom_eq_cutFrom]
  constructor
  · intro h
    have hlength := length_cutFrom t 0 (topCommas depth t)
    rw [h, List.length_singleton] at hlength
    exact List.length_eq_zero_iff.mp (by omega)
  · intro h
    rw [h]
    rfl

/-- Each cell is its own only cell. The first one starts where the text does, and the others start
behind a comma at depth zero. -/
theorem cellsFrom_of_cons {depth : Nat} {t first : Text} {others : List Text}
    (h : cellsFrom depth t = first :: others) :
    cellsFrom depth first = [first] ∧ ∀ cell ∈ others, cellsFrom 0 cell = [cell] := by
  induction t generalizing depth first others with
  | nil =>
    obtain ⟨rfl, rfl⟩ := List.cons.inj h
    exact ⟨rfl, fun cell hcell => absurd hcell List.not_mem_nil⟩
  | cons c t ih =>
    by_cases htop : c = ',' ∧ depth = 0
    · obtain ⟨rfl, rfl⟩ := htop
      rw [cellsFrom_comma] at h
      obtain ⟨rfl, rfl⟩ := List.cons.inj h
      refine ⟨rfl, ?_⟩
      -- The first cell behind the comma has become one of the others.
      obtain ⟨next, rest, hrest⟩ := exists_cellsFrom_eq_cons 0 t
      rw [hrest, List.forall_mem_cons]
      exact ih hrest
    · obtain ⟨next, rest, hrest⟩ := exists_cellsFrom_eq_cons (depthBehind depth c) t
      rw [cellsFrom_cons htop, hrest, List.modifyHead_cons] at h
      obtain ⟨rfl, rfl⟩ := List.cons.inj h
      obtain ⟨hnext, hothers⟩ := ih hrest
      refine ⟨?_, hothers⟩
      rw [cellsFrom_cons htop, hnext, List.modifyHead_cons]

theorem cellsFrom_of_mem {t cell : Text} (h : cell ∈ cellsFrom 0 t) :
    cellsFrom 0 cell = [cell] := by
  obtain ⟨first, others, hcells⟩ := exists_cellsFrom_eq_cons 0 t
  rw [hcells] at h
  obtain ⟨hfirst, hothers⟩ := cellsFrom_of_cons hcells
  rcases List.mem_cons.mp h with rfl | hmem
  · exact hfirst
  · exact hothers cell hmem

/-! ### The end of a list -/

/-- **A list is divided at a comma outside of parentheses**, whatever stands on its two sides. -/
theorem cellsFrom_append_comma {depth : Nat} {s : Text} (h : depthAfter depth s = 0) (t : Text) :
    cellsFrom depth (s ++ ',' :: t) = cellsFrom depth s ++ cellsFrom 0 t := by
  induction s generalizing depth with
  | nil =>
    obtain rfl : depth = 0 := h
    exact cellsFrom_comma t
  | cons c s ih =>
    rw [depthAfter_cons] at h
    rw [List.cons_append]
    by_cases htop : c = ',' ∧ depth = 0
    · obtain ⟨rfl, rfl⟩ := htop
      rw [cellsFrom_comma, cellsFrom_comma, List.cons_append]
      exact congrArg _ (ih h)
    · rw [cellsFrom_cons htop, cellsFrom_cons htop, ih h]
      obtain ⟨first, others, hcells⟩ := exists_cellsFrom_eq_cons (depthBehind depth c) s
      rw [hcells]
      rfl

/-- A last character that is no dividing comma is in the last cell. -/
theorem exists_cellsFrom_concat {depth : Nat} {s : Text} {c : Char}
    (h : ¬(c = ',' ∧ depthAfter depth s = 0)) :
    ∃ cells last, cellsFrom depth (s ++ [c]) = cells ++ [last ++ [c]] := by
  induction s generalizing depth with
  | nil =>
    rw [depthAfter_nil] at h
    refine ⟨[], [], ?_⟩
    rw [List.nil_append, cellsFrom_cons h]
    rfl
  | cons d s ih =>
    rw [depthAfter_cons] at h
    obtain ⟨cells, last, hcells⟩ := ih h
    rw [List.cons_append]
    by_cases htop : d = ',' ∧ depth = 0
    · obtain ⟨rfl, rfl⟩ := htop
      refine ⟨[] :: cells, last, ?_⟩
      rw [cellsFrom_comma, List.cons_append]
      exact congrArg _ hcells
    · rw [cellsFrom_cons htop, hcells]
      cases cells with
      | nil => exact ⟨[], d :: last, rfl⟩
      | cons first others => exact ⟨(d :: first) :: others, last, rfl⟩

theorem dropEmptyLast_append_nil {cells : List Text} (h : cells ≠ []) :
    dropEmptyLast (cells ++ [[]]) = cells := by
  unfold dropEmptyLast
  rw [if_pos (by simpa [List.length_pos_iff] using h), List.dropLast_concat]

theorem dropEmptyLast_of_getLast?_ne {cells : List Text} (h : cells.getLast? ≠ some []) :
    dropEmptyLast cells = cells := by
  unfold dropEmptyLast
  rw [beq_eq_false_iff_ne.mpr h, Bool.and_false]
  rfl

/-- A column list ends in a comma outside of parentheses. -/
def EndsInTopComma (t : Text) : Prop :=
  IsTopComma 0 t (t.length - 1)

instance (t : Text) : Decidable (EndsInTopComma t) :=
  inferInstanceAs (Decidable (IsTopComma _ _ _))

theorem endsInTopComma_concat {s : Text} {c : Char} :
    EndsInTopComma (s ++ [c]) ↔ c = ',' ∧ depthAfter 0 s = 0 := by
  simp [EndsInTopComma, IsTopComma]

/-- Without a comma at its end a list has a column for each cell. -/
theorem splitColumns_of_not_endsInTopComma {t : Text} (h : ¬EndsInTopComma t) :
    splitColumns t = (cellsFrom 0 t).map strip := by
  rcases List.eq_nil_or_concat' t with rfl | ⟨s, c, rfl⟩
  · rfl
  · obtain ⟨cells, last, hcells⟩ := exists_cellsFrom_concat (mt endsInTopComma_concat.mpr h)
    have hlast : (cellsFrom 0 (s ++ [c])).getLast? ≠ some [] := by
      rw [hcells, List.getLast?_concat]
      simp
    rw [splitColumns, dropEmptyLast_of_getLast?_ne hlast]

/-- With a comma at its end a list has the columns of what stands before the comma. -/
theorem exists_of_endsInTopComma {t : Text} (h : EndsInTopComma t) :
    ∃ front, t = front ++ [','] ∧ cellsFrom 0 t = cellsFrom 0 front ++ [[]] ∧
      splitColumns t = (cellsFrom 0 front).map strip := by
  rcases List.eq_nil_or_concat' t with rfl | ⟨front, c, rfl⟩
  · exact absurd h (by decide)
  · obtain ⟨rfl, hdepth⟩ := endsInTopComma_concat.mp h
    have hcells : cellsFrom 0 (front ++ [',']) = cellsFrom 0 front ++ [[]] :=
      cellsFrom_append_comma hdepth []
    have hfront : cellsFrom 0 front ≠ [] := by
      obtain ⟨first, others, hfront⟩ := exists_cellsFrom_eq_cons 0 front
      exact hfront ▸ List.cons_ne_nil first others
    refine ⟨front, rfl, hcells, ?_⟩
    rw [splitColumns, hcells, dropEmptyLast_append_nil hfront]

/-! ### Blanks -/

/-- A text without its blanks. -/
def withoutBlanks (t : Text) : Text :=
  t.filter fun c => !isBlank c

theorem ignoresBlanks_withoutBlanks : IgnoresBlanks withoutBlanks where
  append := List.filter_append
  blanks s h := List.filter_eq_nil_iff.mpr fun c hc => by simp [h c hc]

/-- Joined by commas, cells without the blanks around them are the list but for blanks. -/
theorem withoutBlanks_joinWith_columns (t : Text) :
    withoutBlanks (joinWith [','] ((cellsFrom 0 t).map strip)) = withoutBlanks t := by
  rw [ignoresBlanks_withoutBlanks.apply_joinWith_map_strip rfl, joinWith_cellsFrom]

/-- Text without surrounding blanks has none to lose. -/
theorem strip_strip (t : Text) : strip (strip t) = strip t := by
  have hfront : (strip t).dropWhile isBlank = strip t := by
    cases hstrip : strip t with
    | nil => rfl
    | cons c rest =>
      -- The first character that is left is the first one that is no blank.
      have hprefix : c :: rest <+: t.dropWhile isBlank :=
        hstrip ▸ List.rdropWhile_prefix isBlank (t.dropWhile isBlank)
      obtain ⟨behind, hbehind⟩ := hprefix
      have hhead := List.head?_dropWhile_not isBlank t
      rw [← hbehind] at hhead
      exact List.dropWhile_cons_of_neg (by simpa using hhead)
  calc strip (strip t)
      = dropTrailing isBlank (strip t) := congrArg (dropTrailing isBlank) hfront
    _ = strip t := List.rdropWhile_idempotent isBlank (t.dropWhile isBlank)

/-- **Taking the blanks off the ends of a text brings no comma out of its parentheses.** -/
theorem topCommas_strip_eq_nil {t : Text} (h : topCommas 0 t = []) : topCommas 0 (strip t) = [] := by
  obtain ⟨front, behind, hsplit, hfront, -⟩ := exists_blanks_around_strip t
  rw [hsplit, topCommas_append, topCommas_append, depthAfter_of_isBlank hfront] at h
  obtain ⟨hkept, -⟩ := List.append_eq_nil_iff.mp h
  exact List.map_eq_nil_iff.mp (List.append_eq_nil_iff.mp hkept).2

/-! ### Columns -/

/-- **A column is its own only column.** -/
theorem splitColumns_of_mem {t column : Text} (h : column ∈ splitColumns t) :
    splitColumns column = [column] := by
  obtain ⟨cell, hcell, rfl⟩ := List.mem_map.mp h
  have hmem : cell ∈ cellsFrom 0 t := by
    unfold dropEmptyLast at hcell
    split at hcell
    · exact (List.dropLast_sublist _).subset hcell
    · exact hcell
  have halone : cellsFrom 0 (strip cell) = [strip cell] :=
    cellsFrom_eq_singleton_iff.mpr
      (topCommas_strip_eq_nil (cellsFrom_eq_singleton_iff.mp (cellsFrom_of_mem hmem)))
  calc splitColumns (strip cell)
      = (dropEmptyLast [strip cell]).map strip := by rw [splitColumns, halone]
    _ = [strip (strip cell)] := rfl
    _ = [strip cell] := by rw [strip_strip]

/-- **Splitting a column list is exact.** A comma divides the list if it stands at depth zero.

* A list that does not end in such a comma has one column for each segment between these commas,
  which is the segment without surrounding blanks. Joined by commas, the columns are the list but
  for blanks.
* A list that does has an empty last segment, for which there is no column; the other segments have
  one each. Joined by commas, the columns are the list without its last comma but for blanks.
* In both cases, each column is its own only column. -/
theorem splitColumns_exact (t : Text) :
    (¬EndsInTopComma t →
      splitColumns t = (segments t).map strip ∧
        withoutBlanks (joinWith [','] (splitColumns t)) = withoutBlanks t) ∧
    (EndsInTopComma t →
      ∃ front kept, t = front ++ [','] ∧ segments t = kept ++ [[]] ∧
        splitColumns t = kept.map strip ∧
        withoutBlanks (joinWith [','] (splitColumns t)) = withoutBlanks front) ∧
    ∀ column ∈ splitColumns t, splitColumns column = [column] := by
  refine ⟨fun hend => ?_, fun hend => ?_, fun column hcolumn => splitColumns_of_mem hcolumn⟩
  · rw [splitColumns_of_not_endsInTopComma hend, withoutBlanks_joinWith_columns, cellsFrom_zero]
    exact ⟨rfl, rfl⟩
  · obtain ⟨front, ht, hcells, hsplit⟩ := exists_of_endsInTopComma hend
    refine ⟨front, cellsFrom 0 front, ht, ?_, hsplit, ?_⟩
    · rw [← cellsFrom_zero, hcells]
    · rw [hsplit, withoutBlanks_joinWith_columns]

/-- Two lists with a parenthesis that nothing opens. In the first one, the last comma is within
parentheses that nothing closes. In the second one, it divides the list, and the segment before it
is blank. -/
theorem unbalancedLists_exact :
    (¬EndsInTopComma "a ), f(b, c) ,(d,".toList ∧
      segments "a ), f(b, c) ,(d,".toList = ["a )".toList, " f(b, c) ".toList, "(d,".toList] ∧
      splitColumns "a ), f(b, c) ,(d,".toList = ["a )".toList, "f(b, c)".toList, "(d,".toList]) ∧
    (EndsInTopComma ")a, ,".toList ∧
      segments ")a, ,".toList = [")a".toList, " ".toList, []] ∧
      splitColumns ")a, ,".toList = [")a".toList, []] ∧
      splitColumns ")a".toList = [")a".toList]) := by
  obtain ⟨hall, -, -⟩ := splitColumns_exact "a ), f(b, c) ,(d,".toList
  obtain ⟨-, hlast, halone⟩ := splitColumns_exact ")a, ,".toList
  have hopen : ¬EndsInTopComma "a ), f(b, c) ,(d,".toList := by decide
  have hends : EndsInTopComma ")a, ,".toList := by decide
  have hsegments : segments "a ), f(b, c) ,(d,".toList =
      ["a )".toList, " f(b, c) ".toList, "(d,".toList] := by decide
  obtain ⟨front, kept, -, hkept, hcolumns, -⟩ := hlast hends
  have hkept' : kept = [")a".toList, " ".toList] :=
    List.append_cancel_right (hkept.symm.trans (by decide : _ = [")a".toList, " ".toList] ++ [[]]))
  subst hkept'
  have hmem : ")a".toList ∈ splitColumns ")a, ,".toList := by
    rw [hcolumns]
    decide
  refine ⟨⟨hopen, hsegments, ?_⟩, hends, hkept, hcolumns, halone _ hmem⟩
  rw [(hall hopen).1, hsegments]
  decide

end SqlInventory
