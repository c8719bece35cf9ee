import SqlInventory.Proofs.Text.Essence
import SqlInventory.Proofs.Text.LetterCase
import SqlInventory.Proofs.Text.Matching
import Mathlib.Algebra.Group.Nat.Even
import Mathlib.Data.List.Forall2

/-!
# String constants

The string constants of a statement stand between single quotes: of the sections into which the
quotes cut a text, every second one is a constant, and the last of them only if a quote closes it
(`constants`). The facts about them go through a text from constant to constant (`constantWalk`).

A function that treats a text section by section (`Sectionwise`) treats each constant on its own.
The functions that also drop blanks at the ends of a text, or of its lines, do not treat the
outermost sections like the others; what is left is that they *act inside* (`ActsInside`): each
constant becomes what it becomes when it is all there is, in quotes. This property passes to
compositions.

* `Recogniser.StopsAtQuotes.sectionwise`: a replacement is sectionwise if its recogniser never looks
  past a quote;
* `constants_append_of_even`, `constants_joinWith`: a text that is cut outside of its constants;
* `constants_essence`: the essence of a text has the essence of its constants.
-/

namespace SqlInventory

namespace Text

/-! ### Reading the constants of a text -/

/-- Of sections between quotes, those that stand inside and are closed. -/
def closedSections : List Text → List Text
  | _ :: inside :: outside :: rest => inside :: closedSections (outside :: rest)
  | _ => []

/-- The string constants of a text, from left to right, without their quotes. -/
def constants (t : Text) : List Text :=
  closedSections (splitAtChar '\'' t)

/-- The text of one constant: a text in quotes. -/
def inQuotes (t : Text) : Text :=
  '\'' :: (t ++ ['\''])

theorem splitAtChar_of_notMem {sep : Char} {t : Text} (h : sep ∉ t) : splitAtChar sep t = [t] := by
  induction t with
  | nil => rfl
  | cons c t ih =>
    have hc : c ≠ sep := (List.ne_of_not_mem_cons h).symm
    rw [splitAtChar, if_neg hc, ih (List.not_mem_of_not_mem_cons h)]

theorem splitAtChar_append_cons {sep : Char} {s : Text} (h : sep ∉ s) (t : Text) :
    splitAtChar sep (s ++ sep :: t) = s :: splitAtChar sep t := by
  induction s with
  | nil => rw [List.nil_append, splitAtChar, if_pos rfl]
  | cons c s ih =>
    have hc : c ≠ sep := (List.ne_of_not_mem_cons h).symm
    rw [List.cons_append, splitAtChar, if_neg hc, ih (List.not_mem_of_not_mem_cons h)]

/-- A text without quotes has no constants. -/
theorem constants_of_notMem {t : Text} (h : '\'' ∉ t) : constants t = [] := by
  unfold constants
  rw [splitAtChar_of_notMem h]
  rfl

/-- A quote that nothing closes starts no constant. -/
theorem constants_unclosed {s k : Text} (hs : '\'' ∉ s) (hk : '\'' ∉ k) :
    constants (s ++ '\'' :: k) = [] := by
  unfold constants
  rw [splitAtChar_append_cons hs, splitAtChar_of_notMem hk]
  rfl

/-- The first constant stands between the first quote and the second. -/
theorem constants_closed {s k : Text} (hs : '\'' ∉ s) (hk : '\'' ∉ k) (t : Text) :
    constants (s ++ '\'' :: (k ++ '\'' :: t)) = k :: constants t := by
  obtain ⟨first, others, hsections⟩ := List.exists_cons_of_ne_nil (splitAtChar_ne_nil '\'' t)
  unfold constants
  rw [splitAtChar_append_cons hs, splitAtChar_append_cons hk, hsections, closedSections]

/-- **Induction from constant to constant**: a text has no quotes, or one that nothing closes, or
starts with a stretch without quotes and a constant. -/
theorem constantWalk {motive : Text → Prop} (plain : ∀ s, '\'' ∉ s → motive s)
    (unclosed : ∀ s k, '\'' ∉ s → '\'' ∉ k → motive (s ++ '\'' :: k))
    (closed : ∀ s k t, '\'' ∉ s → '\'' ∉ k → motive t → motive (s ++ '\'' :: (k ++ '\'' :: t)))
    (t : Text) : motive t := by
  induction hlength : t.length using Nat.strongRecOn generalizing t with
  | ind n ih =>
    by_cases hfirst : '\'' ∈ t
    · obtain ⟨s, rest, rfl, hs⟩ := List.eq_append_cons_of_mem hfirst
      by_cases hsecond : '\'' ∈ rest
      · obtain ⟨k, rest, rfl, hk⟩ := List.eq_append_cons_of_mem hsecond
        refine closed s k rest hs hk (ih rest.length ?_ rest rfl)
        simp only [List.length_append, List.length_cons] at hlength
        omega
      · exact unclosed s rest hs hsecond
    · exact plain t hfirst

theorem notMem_of_mem_constants {t k : Text} (h : k ∈ constants t) : '\'' ∉ k := by
  induction t using constantWalk with
  | plain s hs =>
    rw [constants_of_notMem hs] at h
    cases h
  | unclosed s k' hs hk' =>
    rw [constants_unclosed hs hk'] at h
    cases h
  | closed s k' t hs hk' ih =>
    rw [constants_closed hs hk'] at h
    rcases List.mem_cons.mp h with rfl | hrest
    · exact hk'
    · exact ih hrest

/-- There are half as many constants as quotes. -/
theorem length_constants (t : Text) : (constants t).length = t.count '\'' / 2 := by
  induction t using constantWalk with
  | plain s hs =>
    rw [constants_of_notMem hs, List.count_eq_zero.mpr hs]
    rfl
  | unclosed s k hs hk =>
    rw [constants_unclosed hs hk, List.count_append, List.count_cons_self,
      List.count_eq_zero.mpr hs, List.count_eq_zero.mpr hk]
    rfl
  | closed s k t hs hk ih =>
    rw [constants_closed hs hk, List.length_cons, ih, List.count_append, List.count_cons_self,
      List.count_append, List.count_cons_self, List.count_eq_zero.mpr hs, List.count_eq_zero.mpr hk]
    omega

theorem inQuotes_injective {k k' : Text} (h : inQuotes k = inQuotes k') : k = k' :=
  List.append_cancel_right (List.cons.inj h).2

/-! ### Cutting a text outside of its constants -/

/-- What stands before the first quote does not matter. -/
theorem constants_append_of_notMem {s : Text} (hs : '\'' ∉ s) (t : Text) :
    constants (s ++ t) = constants t := by
  have hjoin : ∀ s', '\'' ∉ s' → '\'' ∉ s ++ s' := fun s' hs' hmem =>
    (List.mem_append.mp hmem).elim hs hs'
  induction t using constantWalk with
  | plain s' hs' => rw [constants_of_notMem (hjoin s' hs'), constants_of_notMem hs']
  | unclosed s' k hs' hk =>
    rw [← List.append_assoc, constants_unclosed (hjoin s' hs') hk, constants_unclosed hs' hk]
  | closed s' k t hs' hk _ =>
    rw [← List.append_assoc, constants_closed (hjoin s' hs') hk, constants_closed hs' hk]

/-- A front with an even number of quotes can be cut off. -/
theorem constants_append_of_even {x : Text} (heven : Even (x.count '\'')) (y : Text) :
    constants (x ++ y) = constants x ++ constants y := by
  induction x using constantWalk with
  | plain s hs => rw [constants_append_of_notMem hs, constants_of_notMem hs, List.nil_append]
  | unclosed s k hs hk =>
    -- One quote is an odd number of them.
    rw [List.count_append, List.count_cons_self, List.count_eq_zero.mpr hs,
      List.count_eq_zero.mpr hk] at heven
    exact absurd heven (by decide)
  | closed s k x hs hk ih =>
    have hrest : Even (x.count '\'') := by
      rw [List.count_append, List.count_cons_self, List.count_append, List.count_cons_self,
        List.count_eq_zero.mpr hs, List.count_eq_zero.mpr hk] at heven
      grind
    rw [List.append_assoc, List.cons_append, List.append_assoc, List.cons_append,
      constants_closed hs hk, constants_closed hs hk, ih hrest, List.cons_append]

/-- An end without quotes does not matter. -/
theorem constants_append_of_notMem_end {s : Text} (hs : '\'' ∉ s) (t : Text) :
    constants (t ++ s) = constants t := by
  induction t using constantWalk with
  | plain s' hs' =>
    rw [constants_append_of_notMem hs', constants_of_notMem hs, constants_of_notMem hs']
  | unclosed s' k hs' hk =>
    have hend : '\'' ∉ k ++ s := fun hmem => (List.mem_append.mp hmem).elim hk hs
    rw [List.append_assoc, List.cons_append, constants_unclosed hs' hend, constants_unclosed hs' hk]
  | closed s' k t hs' hk ih =>
    rw [List.append_assoc, List.cons_append, List.append_assoc, List.cons_append,
      constants_closed hs' hk, constants_closed hs' hk, ih]

/-- Parts with an even number of quotes each have an even number of them together. -/
theorem even_count_joinWith {sep : Text} (hsep : '\'' ∉ sep) {parts : List Text}
    (hparts : ∀ part ∈ parts, Even (part.count '\'')) :
    Even ((joinWith sep parts).count '\'') := by
  induction parts with
  | nil => exact ⟨0, rfl⟩
  | cons a rest ih =>
    obtain ⟨ha, hrest⟩ := List.forall_mem_cons.mp hparts
    cases rest with
    | nil => simpa [joinWith] using ha
    | cons b rest =>
      rw [joinWith_cons_cons, List.count_append, List.count_append, List.count_eq_zero.mpr hsep]
      exact (ha.add Even.zero).add (ih hrest)

/-- Parts that are cut outside of the constants have the constants of the whole. -/
theorem constants_joinWith {sep : Text} (hsep : '\'' ∉ sep) {parts : List Text}
    (hparts : ∀ part ∈ parts, Even (part.count '\'')) :
    constants (joinWith sep parts) = parts.flatMap constants := by
  induction parts with
  | nil => rfl
  | cons a rest ih =>
    obtain ⟨ha, hrest⟩ := List.forall_mem_cons.mp hparts
    cases rest with
    | nil => simp [joinWith]
    | cons b rest =>
      rw [joinWith_cons_cons, List.append_assoc, constants_append_of_even ha,
        constants_append_of_notMem hsep, ih hrest]
      rfl

/-! ### Section by section -/

/-- A function treats a text section by section: what it makes of a section does not depend on the
other sections, and it makes no quotes. -/
structure Sectionwise (f : Text → Text) : Prop where
  /-- Nothing becomes a quote. -/
  free : ∀ s, '\'' ∉ s → '\'' ∉ f s
  /-- A quote stays a quote, and the sections before it and behind it are treated apart. -/
  cut : ∀ s t, '\'' ∉ s → f (s ++ '\'' :: t) = f s ++ '\'' :: f t

theorem Sectionwise.comp {f g : Text → Text} (hg : Sectionwise g) (hf : Sectionwise f) :
    Sectionwise fun t => g (f t) where
  free := fun s hs => hg.free _ (hf.free s hs)
  cut := by
    intro s t hs
    show g (f (s ++ '\'' :: t)) = g (f s) ++ '\'' :: g (f t)
    rw [hf.cut s t hs, hg.cut _ _ (hf.free s hs)]

/-- A function that acts inside: whatever the text is, each of its constants becomes what `inner`
makes of it, and so it does when it is all there is. -/
structure ActsInside (f inner : Text → Text) : Prop where
  /-- What `inner` makes of a constant is one. -/
  free : ∀ k, '\'' ∉ k → '\'' ∉ inner k
  /-- Each constant of a text is treated on its own. -/
  within : ∀ t, constants (f t) = (constants t).map inner
  /-- A lone constant is treated in the same way. -/
  alone : ∀ k, '\'' ∉ k → f (inQuotes k) = inQuotes (inner k)

theorem ActsInside.comp {f g inner outer : Text → Text} (hg : ActsInside g outer)
    (hf : ActsInside f inner) : ActsInside (fun t => g (f t)) (fun k => outer (inner k)) where
  free := fun k hk => hg.free _ (hf.free k hk)
  within := by
    intro t
    rw [hg.within, hf.within, List.map_map]
    rfl
  alone := by
    intro k hk
    show g (f (inQuotes k)) = inQuotes (outer (inner k))
    rw [hf.alone k hk, hg.alone _ (hf.free k hk)]

theorem Sectionwise.within {f : Text → Text} (hf : Sectionwise f) (t : Text) :
    constants (f t) = (constants t).map f := by
  induction t using constantWalk with
  | plain s hs =>
    rw [constants_of_notMem hs, constants_of_notMem (hf.free s hs)]
    rfl
  | unclosed s k hs hk =>
    rw [hf.cut s k hs, constants_unclosed (hf.free s hs) (hf.free k hk), constants_unclosed hs hk]
    rfl
  | closed s k t hs hk ih =>
    rw [hf.cut s _ hs, hf.cut k t hk, constants_closed (hf.free s hs) (hf.free k hk), ih,
      constants_closed hs hk, List.map_cons]

/-- There are as many quotes as before. -/
theorem Sectionwise.count_quote {f : Text → Text} (hf : Sectionwise f) (t : Text) :
    (f t).count '\'' = t.count '\'' := by
  induction hcount : t.count '\'' generalizing t with
  | zero =>
    have hplain : '\'' ∉ t := List.count_eq_zero.mp hcount
    exact List.count_eq_zero.mpr (hf.free t hplain)
  | succ n ih =>
    have hquote : '\'' ∈ t := List.count_pos_iff.mp (by omega)
    obtain ⟨s, rest, rfl, hs⟩ := List.eq_append_cons_of_mem hquote
    rw [List.count_append, List.count_cons_self, List.count_eq_zero.mpr hs] at hcount
    rw [hf.cut s rest hs, List.count_append, List.count_cons_self,
      List.count_eq_zero.mpr (hf.free s hs), ih rest (by omega)]
    omega

/-- A function acts inside if only what stands before the first quote is treated in another way. -/
theorem ActsInside.of_front {f inner : Text → Text} (hinner : Sectionwise inner)
    (hnil : inner [] = []) (hfnil : f [] = []) (hfree : ∀ s, '\'' ∉ s → '\'' ∉ f s)
    (hcut : ∀ s t, '\'' ∉ s → f (s ++ '\'' :: t) = f s ++ '\'' :: inner t) :
    ActsInside f inner where
  free := hinner.free
  within := by
    intro t
    by_cases hquote : '\'' ∈ t
    · obtain ⟨s, rest, rfl, hs⟩ := List.eq_append_cons_of_mem hquote
      -- From the first quote on the two functions do the same.
      have hfirst := hinner.cut [] rest List.not_mem_nil
      rw [hnil, List.nil_append, List.nil_append] at hfirst
      rw [hcut s rest hs, constants_append_of_notMem (hfree s hs), ← hfirst, hinner.within,
        constants_append_of_notMem hs]
    · rw [constants_of_notMem hquote, constants_of_notMem (hfree t hquote)]
      rfl
  alone := by
    intro k hk
    have hfront := hcut [] (k ++ ['\'']) List.not_mem_nil
    rw [hfnil, hinner.cut k [] hk, hnil] at hfront
    exact hfront

/-- A function acts inside if only what stands behind the last quote is treated in another way. -/
theorem ActsInside.of_end {f inner : Text → Text} (hinner : ∀ s, '\'' ∉ s → '\'' ∉ inner s)
    (hnil : inner [] = []) (hfnil : f [] = []) (hfree : ∀ s, '\'' ∉ s → '\'' ∉ f s)
    (hcut : ∀ s t, '\'' ∉ s → f (s ++ '\'' :: t) = inner s ++ '\'' :: f t) :
    ActsInside f inner where
  free := hinner
  within := by
    intro t
    induction t using constantWalk with
    | plain s hs =>
      rw [constants_of_notMem hs, constants_of_notMem (hfree s hs)]
      rfl
    | unclosed s k hs hk =>
      rw [hcut s k hs, constants_unclosed (hinner s hs) (hfree k hk), constants_unclosed hs hk]
      rfl
    | closed s k t hs hk ih =>
      rw [hcut s _ hs, hcut k t hk, constants_closed (hinner s hs) (hinner k hk), ih,
        constants_closed hs hk, List.map_cons]
  alone := by
    intro k hk
    have hfront := hcut [] (k ++ ['\'']) List.not_mem_nil
    rw [hnil, hcut k [] hk, hfnil] at hfront
    exact hfront

/-- A function that treats a text section by section acts inside. -/
theorem Sectionwise.actsInside {f : Text → Text} (hf : Sectionwise f) (hnil : f [] = []) :
    ActsInside f f :=
  ActsInside.of_end hf.free hnil hnil hf.free hf.cut

/-- The constants that come out are those of `kept` exactly if each constant, in quotes and alone,
becomes the one in its place. -/
theorem ActsInside.constants_eq_iff {f inner : Text → Text} (hf : ActsInside f inner) {t : Text}
    {kept : List Text} :
    constants (f t) = kept ↔
      List.Forall₂ (fun k k' => f (inQuotes k) = inQuotes k') (constants t) kept := by
  have halone : ∀ k ∈ constants t, ∀ k', f (inQuotes k) = inQuotes k' ↔ inner k = k' := by
    intro k hk k'
    rw [hf.alone k (notMem_of_mem_constants hk)]
    exact ⟨inQuotes_injective, fun h => by rw [h]⟩
  rw [hf.within]
  generalize constants t = ks at halone
  induction ks generalizing kept with
  | nil => rw [List.map_nil, List.forall₂_nil_left_iff, eq_comm]
  | cons k ks ih =>
    obtain ⟨hfirst, hothers⟩ := List.forall_mem_cons.mp halone
    cases kept with
    | nil => simp
    | cons k' kept =>
      rw [List.map_cons, List.cons.injEq, List.forall₂_cons, hfirst k']
      exact and_congr Iff.rfl (ih hothers)

end Text

/-! ### Replacements -/

namespace Recogniser

open Text

/-- A recogniser never looks past a quote, and a place behind a quote is to it like the front of a
text. -/
structure StopsAtQuotes (rule : Recogniser Char Text) : Prop where
  /-- There is nothing to recognise at the end of a text. -/
  atEnd : ∀ before, rule before [] = none
  /-- A quote before a place counts as nothing. -/
  behind : ∀ t, rule (some '\'') t = rule none t
  /-- A quote ahead counts as the end of the text. -/
  ahead : ∀ before s t, '\'' ∉ s → rule before (s ++ '\'' :: t) = rule before s
  /-- A match lies within the text. -/
  fits : ∀ before s n out, '\'' ∉ s → rule before s = some (n, out) → n ≤ s.length ∧ '\'' ∉ out

variable {rule : Recogniser Char Text}

theorem StopsAtQuotes.replaceFrom_behind (hrule : rule.StopsAtQuotes) (t : Text) :
    rule.replaceFrom (some '\'') 0 t = rule.replaceAll t := by
  unfold replaceAll
  cases t with
  | nil => rfl
  | cons c t => rw [replaceFrom, replaceFrom, hrule.behind]

/-- **A replacement goes through the sections one by one.** The match that is being passed ends
before the quote. -/
theorem StopsAtQuotes.replaceFrom_cut (hrule : rule.StopsAtQuotes) {s : Text} (hs : '\'' ∉ s)
    (before : Option Char) {skip : Nat} (hskip : skip ≤ s.length) (t : Text) :
    rule.replaceFrom before skip (s ++ '\'' :: t) =
      rule.replaceFrom before skip s ++ '\'' :: rule.replaceAll t := by
  induction s generalizing before skip with
  | nil =>
    obtain rfl := Nat.le_zero.mp hskip
    have hnone := hrule.ahead before [] t List.not_mem_nil
    rw [hrule.atEnd] at hnone
    rw [List.nil_append] at hnone ⊢
    rw [replaceFrom, replaceFrom, hnone, List.nil_append, ← hrule.replaceFrom_behind]
  | cons c s ih =>
    have hs' := List.not_mem_of_not_mem_cons hs
    have hahead := hrule.ahead before (c :: s) t hs
    rw [List.cons_append] at hahead ⊢
    cases skip with
    | succ skip =>
      rw [replaceFrom, replaceFrom]
      exact ih hs' (some c) (Nat.le_of_succ_le_succ hskip)
    | zero =>
      rw [replaceFrom, replaceFrom, hahead]
      -- The same match is found with the quote and without it, if there is one.
      split
      · next n out hmatch =>
        have hfits := (hrule.fits before (c :: s) _ _ hs hmatch).1
        rw [ih hs' (some c) (Nat.le_of_succ_le_succ hfits), List.append_assoc]
      · rw [ih hs' (some c) (Nat.zero_le _), List.cons_append]

theorem StopsAtQuotes.replaceAll_free (hrule : rule.StopsAtQuotes) {s : Text} (hs : '\'' ∉ s) :
    '\'' ∉ rule.replaceAll s := by
  refine List.forall_mem_ne'.mp (forall_mem_replaceFrom ?_ (List.forall_mem_ne'.mpr hs) none 0)
  intro before t n out ht hmatch
  exact List.forall_mem_ne'.mpr (hrule.fits before t n out (List.forall_mem_ne'.mp ht) hmatch).2

/-- A replacement is sectionwise, if its recogniser never looks past a quote. -/
theorem StopsAtQuotes.sectionwise (hrule : rule.StopsAtQuotes) : Sectionwise rule.replaceAll where
  free := fun _ hs => hrule.replaceAll_free hs
  cut := fun _ t hs => hrule.replaceFrom_cut hs none (Nat.zero_le _) t

end Recogniser

namespace Text

/-! ### What is dropped at the ends -/

theorem isBlank_quote : isBlank '\'' = false := rfl

theorem notMem_of_isBlank {s : Text} (h : ∀ c ∈ s, isBlank c = true) : '\'' ∉ s := by
  intro hmem
  have := h '\'' hmem
  rw [isBlank_quote] at this
  cases this

/-- There are no quotes in the blanks that surround a text. -/
theorem exists_strip_append (t : Text) :
    ∃ front behind, t = front ++ strip t ++ behind ∧ '\'' ∉ front ∧ '\'' ∉ behind := by
  obtain ⟨front, behind, hsplit, hfront, hbehind⟩ := exists_blanks_around_strip t
  exact ⟨front, behind, hsplit, notMem_of_isBlank hfront, notMem_of_isBlank hbehind⟩

theorem constants_strip (t : Text) : constants (strip t) = constants t := by
  obtain ⟨front, behind, hsplit, hfront, hbehind⟩ := exists_strip_append t
  conv_rhs => rw [hsplit, constants_append_of_notMem_end hbehind, constants_append_of_notMem hfront]

theorem count_quote_strip (t : Text) : (strip t).count '\'' = t.count '\'' := by
  obtain ⟨front, behind, hsplit, hfront, hbehind⟩ := exists_strip_append t
  conv_rhs => rw [hsplit, List.count_append, List.count_append, List.count_eq_zero.mpr hfront,
    List.count_eq_zero.mpr hbehind]
  omega

/-! ### Blanks and capitals -/

/-- Runs of blanks end at quotes. -/
theorem collapseFrom_cut {s : Text} (hs : '\'' ∉ s) (inRun : Bool) (t : Text) :
    collapseFrom inRun (s ++ '\'' :: t) = collapseFrom inRun s ++ '\'' :: collapse t := by
  induction s generalizing inRun with
  | nil => rfl
  | cons c s ih =>
    have hs' := List.not_mem_of_not_mem_cons hs
    rw [List.cons_append, collapseFrom, collapseFrom]
    by_cases hc : isBlank c = true
    · cases inRun <;> simp [hc, ih hs']
    · simp [hc, ih hs']

theorem collapseFrom_free {s : Text} (hs : '\'' ∉ s) (inRun : Bool) :
    '\'' ∉ collapseFrom inRun s := by
  induction s generalizing inRun with
  | nil => exact List.not_mem_nil
  | cons c s ih =>
    have hs' := List.not_mem_of_not_mem_cons hs
    have hc := List.ne_of_not_mem_cons hs
    have hspace : '\'' ≠ ' ' := by decide
    rw [collapseFrom]
    by_cases hblank : isBlank c = true
    · cases inRun <;> simp [hblank, ih hs', hspace]
    · simp [hblank, ih hs', hc]

theorem sectionwise_collapse : Sectionwise collapse where
  free := fun _ hs => collapseFrom_free hs false
  cut := fun _ t hs => collapseFrom_cut hs false t

/-- A code point that is the capital form of no other character, nor a part of one. No run of the
table of capitals leads to it, and no long capital form has it. -/
def IsNoCapital (code : Nat) : Prop :=
  code ≠ 0 ∧ (code < 65 ∨ 90 < code) ∧
    (∀ run ∈ upperRuns, code < run.first + run.shift ∨ run.last + run.shift < code) ∧
      ∀ entry ∈ longUppers, code ∉ entry.2

instance (code : Nat) : Decidable (IsNoCapital code) :=
  inferInstanceAs (Decidable (_ ∧ _ ∧ _ ∧ _))

/-- A code point other than zero is that of the character made from it. -/
theorem eq_toNat_of_ofNat {n : Nat} {d : Char} (hd : d.toNat ≠ 0) (h : Char.ofNat n = d) :
    n = d.toNat := by
  subst h
  by_cases hvalid : n.isValidChar
  · rw [Char.ofNat, dif_pos hvalid]
    rfl
  · rw [Char.ofNat, dif_neg hvalid] at hd
    exact absurd rfl hd

/-- What is no capital comes from nothing else. -/
theorem eq_of_mem_upperChar {c d : Char} (hd : IsNoCapital d.toNat) (h : d ∈ upperChar c) :
    c = d := by
  obtain ⟨hzero, hletter, hruns, hlong⟩ := hd
  unfold upperChar at h
  split at h
  · split at h
    · next hsmall =>
      have := eq_toNat_of_ofNat hzero (List.mem_singleton.mp h).symm
      omega
    · exact (List.mem_singleton.mp h).symm
  · split at h
    · next codes hfind =>
      obtain ⟨n, hn, hchar⟩ := List.mem_map.mp h
      rw [eq_toNat_of_ofNat hzero hchar] at hn
      exact absurd hn (hlong _ (List.mem_of_find?_eq_some hfind))
    · split at h
      · next n hfind =>
        obtain ⟨run, hrun, happly⟩ := List.exists_of_findSome?_eq_some hfind
        obtain ⟨hfirst, hlast, hn⟩ := CaseRun.apply?_eq_some happly
        have hlead := hruns run hrun
        have := eq_toNat_of_ofNat hzero (List.mem_singleton.mp h).symm
        omega
      · exact (List.mem_singleton.mp h).symm

/-- **What is no capital is in the capital form of a text only if it is in the text.** -/
theorem mem_of_mem_upper {d : Char} (hd : IsNoCapital d.toNat) {s : Text} (h : d ∈ upper s) :
    d ∈ s := by
  obtain ⟨c, hc, hmem⟩ := List.mem_flatMap.mp h
  rwa [eq_of_mem_upperChar hd hmem] at hc

/-- Neither the quote nor a blank is a capital. -/
theorem isNoCapital_quote_blanks : IsNoCapital 39 ∧ ∀ code ∈ blankCodes, IsNoCapital code := by
  decide +kernel

theorem isNoCapital_of_isBlank {d : Char} (h : isBlank d = true) : IsNoCapital d.toNat :=
  isNoCapital_quote_blanks.2 d.toNat (mem_blankCodes_of_isBlank h)

theorem notMem_upper {s : Text} (hs : '\'' ∉ s) : '\'' ∉ upper s := fun hmem =>
  hs (mem_of_mem_upper (d := '\'') isNoCapital_quote_blanks.1 hmem)

theorem sectionwise_essence : Sectionwise essence where
  free := fun _ hs hmem => notMem_upper hs (List.mem_filter.mp hmem).1
  cut := by
    intro s t _
    rw [essence_append, essence_cons]
    rfl

/-- The essence of a text has the essence of its constants. -/
theorem constants_essence (t : Text) : constants (essence t) = (constants t).map essence :=
  sectionwise_essence.within t

end Text

end SqlInventory
