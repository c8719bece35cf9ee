import SqlInventory.Audit.Snippet
import SqlInventory.Text.Case
import Mathlib.Data.List.Infix
import Mathlib.Data.List.TakeWhile

/-!
# What showing a text does to its stretches

A text is shown on one line, with other quotes, and is compared in small letters. If a text occurs in
another, then the one as shown occurs in the other as shown, and this is not obvious of any of the
steps: a run of blanks at the edge of the shorter text may go on in the longer one, and a small
letter may depend on what stands around it.

* `infix_collapse`: a run that goes on beyond the edge is still written as one space;
* `infix_lower`: only a capital sigma depends on what is around it, and only in the shorter text does
  that matter;
* `occursIn_iff`: the search for a stretch is the relation `<:+:`.

How long a collapsed text can be is said by `length_collapse_append_le` and
`length_collapse_of_isBlank`.
-/

namespace SqlInventory

namespace Text

/-- Looking for a stretch finds it if and only if it is there. -/
theorem occursIn_iff (needle t : Text) : occursIn needle t = true ↔ needle <:+: t := by
  induction t with
  | nil => rw [occursIn, List.isEmpty_iff, List.infix_nil]
  | cons c t ih =>
    rw [occursIn, Bool.or_eq_true_iff, List.isPrefixOf_iff_prefix, ih, List.infix_cons_iff]

/-! ### Collapsed blanks -/

/-- A collapsed text is the end of what is written behind a space. -/
theorem collapse_suffix_space (t : Text) : collapse t <:+ ' ' :: collapseFrom true t := by
  cases t with
  | nil => exact List.nil_suffix
  | cons c t =>
    unfold collapse
    by_cases hc : isBlank c = true
    · -- The space in front stands for the run that the text starts with.
      simp only [collapseFrom, hc, if_true, Bool.false_eq_true, if_false]
      exact List.suffix_refl _
    · simp only [collapseFrom, hc, Bool.false_eq_true, if_false]
      exact List.suffix_cons _ _

theorem collapse_suffix_append (a t : Text) : collapse t <:+ collapse (a ++ t) := by
  induction a with
  | nil => exact List.suffix_refl _
  | cons c a ih =>
    rw [List.cons_append]
    by_cases hc : isBlank c = true
    · -- The run of `c` may go on into `t`, and then the space of `c` is that of `t`.
      have hspace : collapse (c :: (a ++ t)) = ' ' :: collapseFrom true (a ++ t) := by
        simp [collapse, collapseFrom, hc]
      rw [hspace]
      exact ih.trans (collapse_suffix_space (a ++ t))
    · have hkeep : collapse (c :: (a ++ t)) = c :: collapse (a ++ t) := by
        simp [collapse, collapseFrom, hc]
      rw [hkeep]
      exact ih.trans (List.suffix_cons c _)

theorem collapseFrom_prefix_append (inRun : Bool) (s b : Text) :
    collapseFrom inRun s <+: collapseFrom inRun (s ++ b) := by
  induction s generalizing inRun with
  | nil =>
    rw [collapseFrom]
    exact List.nil_prefix
  | cons c s ih =>
    rw [List.cons_append, collapseFrom, collapseFrom]
    split
    · split
      · exact ih true
      · exact (List.prefix_cons_inj ' ').mpr (ih true)
    · exact (List.prefix_cons_inj c).mpr (ih false)

/-- **A stretch of a text, collapsed, is a stretch of the collapsed text.** -/
theorem infix_collapse {s w : Text} (h : s <:+: w) : collapse s <:+: collapse w := by
  obtain ⟨a, b, rfl⟩ := h
  rw [List.append_assoc]
  -- First what comes behind is added, then what comes before.
  exact (collapseFrom_prefix_append false s b).isInfix.trans
    (collapse_suffix_append a (s ++ b)).isInfix

theorem mem_or_eq_of_mem_collapseFrom {c : Char} {inRun : Bool} {t : Text}
    (h : c ∈ collapseFrom inRun t) : c ∈ t ∨ c = ' ' := by
  induction t generalizing inRun with
  | nil => exact absurd h List.not_mem_nil
  | cons d t ih =>
    rw [collapseFrom] at h
    split at h
    · split at h
      · exact (ih h).imp_left (List.mem_cons_of_mem d)
      · rcases List.mem_cons.mp h with rfl | h
        · exact Or.inr rfl
        · exact (ih h).imp_left (List.mem_cons_of_mem d)
    · rcases List.mem_cons.mp h with rfl | h
      · exact Or.inl List.mem_cons_self
      · exact (ih h).imp_left (List.mem_cons_of_mem d)

theorem length_collapseFrom_le (inRun : Bool) (t : Text) :
    (collapseFrom inRun t).length ≤ t.length := by
  induction t generalizing inRun with
  | nil => exact Nat.le_refl _
  | cons c t ih =>
    rw [collapseFrom, List.length_cons]
    have htrue := ih true
    have hfalse := ih false
    split
    · split
      · omega
      · rw [List.length_cons]
        omega
    · rw [List.length_cons]
      omega

theorem length_collapse_le (t : Text) : (collapse t).length ≤ t.length :=
  length_collapseFrom_le false t

theorem length_collapseFrom_append_le (inRun : Bool) (s t : Text) :
    (collapseFrom inRun (s ++ t)).length ≤ (collapseFrom inRun s).length + (collapse t).length := by
  induction s generalizing inRun with
  | nil =>
    -- Within a run, a text is written with at most one space less.
    rw [List.nil_append, collapseFrom, List.length_nil, Nat.zero_add]
    cases t with
    | nil => rw [collapseFrom]; exact Nat.zero_le _
    | cons c t =>
      unfold collapse
      cases inRun <;> simp only [collapseFrom] <;> split <;> simp
  | cons c s ih =>
    rw [List.cons_append, collapseFrom, collapseFrom]
    have htrue := ih true
    have hfalse := ih false
    split
    · split
      · exact htrue
      · rw [List.length_cons, List.length_cons]
        omega
    · rw [List.length_cons, List.length_cons]
      omega

theorem length_collapse_append_le (s t : Text) :
    (collapse (s ++ t)).length ≤ (collapse s).length + (collapse t).length :=
  length_collapseFrom_append_le false s t

/-- A run of blanks is written as one space. -/
theorem length_collapse_of_isBlank {t : Text} (h : ∀ c ∈ t, isBlank c = true) :
    (collapse t).length ≤ 1 := by
  have hrun : ∀ u : Text, (∀ c ∈ u, isBlank c = true) → collapseFrom true u = [] := by
    intro u hu
    induction u with
    | nil => rfl
    | cons c u ih =>
      rw [collapseFrom, if_pos (hu c List.mem_cons_self), if_pos rfl]
      exact ih fun d hd => hu d (List.mem_cons_of_mem c hd)
  cases t with
  | nil => exact Nat.zero_le _
  | cons c t =>
    unfold collapse
    rw [collapseFrom, if_pos (h c List.mem_cons_self), if_neg Bool.false_ne_true,
      hrun t fun d hd => h d (List.mem_cons_of_mem c hd)]
    exact Nat.le_refl 1

/-! ### Small letters -/

/-- The small form of a character that is no capital sigma. -/
def smallForm (c : Char) : Text :=
  if c = 'İ' then ['i', '̇'] else [lowerChar c]

/-- The small form of a character that is no capital sigma does not depend on what is around it. -/
theorem exists_lowerFrom_cons {c : Char} (hc : c ≠ 'Σ') (casedBefore : Bool) (t : Text) :
    ∃ cased, lowerFrom casedBefore (c :: t) = smallForm c ++ lowerFrom cased t := by
  refine ⟨if isCaseIgnorable c then casedBefore else isCased c, ?_⟩
  rw [lowerFrom]
  unfold smallForm
  split
  · next hascii =>
    have hdotted : c ≠ 'İ' := by
      rintro rfl
      exact absurd hascii (by decide)
    rw [if_neg hdotted]
    rfl
  · rfl

theorem exists_lowerFrom_append {s : Text} (h : 'Σ' ∉ s) (casedBefore : Bool) (b : Text) :
    ∃ cased, lowerFrom casedBefore (s ++ b) = s.flatMap smallForm ++ lowerFrom cased b := by
  induction s generalizing casedBefore with
  | nil => exact ⟨casedBefore, rfl⟩
  | cons c s ih =>
    rw [List.mem_cons, not_or] at h
    obtain ⟨cased, hfirst⟩ := exists_lowerFrom_cons (Ne.symm h.1) casedBefore (s ++ b)
    obtain ⟨cased', hrest⟩ := ih h.2 cased
    refine ⟨cased', ?_⟩
    rw [List.cons_append, hfirst, hrest, List.flatMap_cons, List.append_assoc]

theorem lower_eq_flatMap {s : Text} (h : 'Σ' ∉ s) : lower s = s.flatMap smallForm := by
  obtain ⟨cased, heq⟩ := exists_lowerFrom_append h false []
  rwa [List.append_nil, lowerFrom, List.append_nil] at heq

/-- The small form of an end of a text is an end of its small form, for some choice of what stands
before. -/
theorem exists_lowerFrom_suffix (casedBefore : Bool) (a t : Text) :
    ∃ cased, lowerFrom cased t <:+ lowerFrom casedBefore (a ++ t) := by
  induction a generalizing casedBefore with
  | nil => exact ⟨casedBefore, List.suffix_refl _⟩
  | cons c a ih =>
    -- Whatever `c` is written as, it only comes in front.
    obtain ⟨cased, hsuffix⟩ := ih (if isCaseIgnorable c then casedBefore else isCased c)
    refine ⟨cased, hsuffix.trans ?_⟩
    rw [List.cons_append, lowerFrom]
    by_cases hascii : c.toNat < 128
    · rw [if_pos hascii]
      exact List.suffix_cons _ _
    · rw [if_neg hascii]
      exact List.suffix_append _ _

/-- **A stretch of a text in small letters is a stretch of the text in small letters**, if there is no
capital sigma in the stretch. -/
theorem infix_lower {s w : Text} (hsigma : 'Σ' ∉ s) (h : s <:+: w) : lower s <:+: lower w := by
  obtain ⟨a, b, rfl⟩ := h
  rw [List.append_assoc, lower_eq_flatMap hsigma]
  -- What is before `s` decides on `cased`, and without a sigma in `s` that changes nothing in `s`.
  obtain ⟨cased, hsuffix⟩ := exists_lowerFrom_suffix false a (s ++ b)
  obtain ⟨cased', hstretch⟩ := exists_lowerFrom_append hsigma cased b
  rw [hstretch] at hsuffix
  exact (List.prefix_append _ _).isInfix.trans hsuffix.isInfix

end Text

/-! ### Snippets -/

/-- A text that is not cut is shown with its blanks collapsed and its quotes replaced. -/
theorem snippet_of_length_le {t : Text} {limit : Nat} (h : (Text.collapse t).length ≤ limit) :
    snippet t limit = Text.replaceChar '"' '\'' (Text.collapse t) := by
  have hcut : ¬(limit : Int) < (Text.collapse t).length := by omega
  unfold snippet truncate
  rw [Text.upTo_natCast, List.take_of_length_le h, if_neg hcut, List.append_nil]

/-- A stretch of a text is shown as a stretch of what is shown of the text, if that is not cut. -/
theorem infix_snippet {s w : Text} {limit : Nat} (h : s <:+: w)
    (hfits : (Text.collapse w).length ≤ limit) : snippet s limit <:+: snippet w limit := by
  have hstands := Text.infix_collapse h
  rw [snippet_of_length_le hfits, snippet_of_length_le (hstands.length_le.trans hfits)]
  exact hstands.map _

/-- Showing a text brings in no capital sigma. -/
theorem sigma_notMem_snippet {t : Text} {limit : Nat} (h : 'Σ' ∉ t)
    (hfits : (Text.collapse t).length ≤ limit) : 'Σ' ∉ snippet t limit := by
  rw [snippet_of_length_le hfits]
  intro hmem
  obtain ⟨c, hc, hreplaced⟩ := List.mem_map.mp hmem
  split at hreplaced
  · exact absurd hreplaced (by decide)
  · subst hreplaced
    rcases Text.mem_or_eq_of_mem_collapseFrom hc with hin | hspace
    · exact h hin
    · exact absurd hspace (by decide)

end SqlInventory
