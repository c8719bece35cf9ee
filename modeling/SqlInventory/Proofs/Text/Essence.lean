import SqlInventory.Text.Case
import Mathlib.Data.List.Basic
import Mathlib.Data.List.TakeWhile

/-!
# What a text says apart from case and blanks

The `essence` of a text is its capital form without the blanks. It reads a text piece by piece
(`essence_append`), and each way in which texts are laid out is blind to it:

* blanks may be dropped, added or collapsed (`essence_of_isBlank`, `essence_strip`,
  `essence_collapse`). What dropping them asks of a reading is `IgnoresBlanks`, and the essence is not
  the only one to have it;
* a stretch may be put in capitals, if doing so twice changes no more than doing so once
  (`essence_upper`);
* a text may be cut into parts and joined again (`IgnoresBlanks.apply_joinWith`,
  `joinWith_splitAtChar`).
-/

namespace SqlInventory

namespace Text

/-- What is left of a text when neither case nor blanks count. -/
def essence (t : Text) : Text :=
  (upper t).filter fun c => !isBlank c

@[simp] theorem essence_nil : essence [] = [] := rfl

@[simp] theorem essence_append (s t : Text) : essence (s ++ t) = essence s ++ essence t := by
  unfold essence
  rw [upper_append, List.filter_append]

theorem essence_cons (c : Char) (t : Text) : essence (c :: t) = essence [c] ++ essence t := by
  rw [← List.singleton_append, essence_append]

/-! ### Blanks -/

/-- The code points of the blanks. -/
def blankCodes : List Nat :=
  [9, 10, 11, 12, 13, 28, 29, 30, 31, 32, 0x85, 0xA0, 0x1680, 0x2000, 0x2001, 0x2002, 0x2003, 0x2004,
    0x2005, 0x2006, 0x2007, 0x2008, 0x2009, 0x200A, 0x2028, 0x2029, 0x202F, 0x205F, 0x3000]

theorem mem_blankCodes_of_isBlank {c : Char} (h : isBlank c = true) : c.toNat ∈ blankCodes := by
  simp only [isBlank, Bool.or_eq_true, Bool.and_eq_true, decide_eq_true_eq, beq_iff_eq] at h
  simp only [blankCodes, List.mem_cons, List.not_mem_nil, or_false]
  omega

/-- A blank is its own capital form. -/
theorem upperChar_of_isBlank {c : Char} (h : isBlank c = true) : upperChar c = [c] := by
  have htable : ∀ n ∈ blankCodes, upperChar (Char.ofNat n) = [Char.ofNat n] := by decide +kernel
  have := htable c.toNat (mem_blankCodes_of_isBlank h)
  rwa [Char.ofNat_toNat] at this

theorem essence_singleton_of_isBlank {c : Char} (h : isBlank c = true) : essence [c] = [] := by
  simp [essence, upper, upperChar_of_isBlank h, h]

/-- Blanks have no essence. -/
theorem essence_of_isBlank {t : Text} (h : ∀ c ∈ t, isBlank c = true) : essence t = [] := by
  induction t with
  | nil => rfl
  | cons c t ih =>
    rw [essence_cons, essence_singleton_of_isBlank (h c List.mem_cons_self),
      ih fun c' hc' => h c' (List.mem_cons_of_mem c hc'), List.nil_append]

/-- What is dropped at the end of a text is a run of its end. -/
theorem exists_dropTrailing_append (p : Char → Bool) (t : Text) :
    ∃ dropped, t = dropTrailing p t ++ dropped ∧ ∀ c ∈ dropped, p c = true := by
  refine ⟨(t.reverse.takeWhile p).reverse, ?_, ?_⟩
  · unfold dropTrailing
    rw [← List.reverse_append, List.takeWhile_append_dropWhile, List.reverse_reverse]
  · intro c hc
    exact List.mem_takeWhile_imp (List.mem_reverse.mp hc)

/-- A text is what is left of it without surrounding blanks, and these blanks. -/
theorem exists_blanks_around_strip (t : Text) :
    ∃ front behind, t = front ++ strip t ++ behind ∧
      (∀ c ∈ front, isBlank c = true) ∧ ∀ c ∈ behind, isBlank c = true := by
  obtain ⟨behind, hsplit, hbehind⟩ := exists_dropTrailing_append isBlank (t.dropWhile isBlank)
  refine ⟨t.takeWhile isBlank, behind, ?_, fun c hc => List.mem_takeWhile_imp hc, hbehind⟩
  unfold strip stripBy
  rw [List.append_assoc, ← hsplit, List.takeWhile_append_dropWhile]

/-- A text is read piece by piece, and there is nothing to read in blanks. -/
structure IgnoresBlanks (f : Text → Text) : Prop where
  append : ∀ s t, f (s ++ t) = f s ++ f t
  blanks : ∀ s : Text, (∀ c ∈ s, isBlank c = true) → f s = []

theorem IgnoresBlanks.apply_strip {f : Text → Text} (hf : IgnoresBlanks f) (t : Text) :
    f (strip t) = f t := by
  obtain ⟨front, behind, hsplit, hfront, hbehind⟩ := exists_blanks_around_strip t
  conv_rhs => rw [hsplit, hf.append, hf.append, hf.blanks front hfront, hf.blanks behind hbehind,
    List.append_nil, List.nil_append]

theorem ignoresBlanks_essence : IgnoresBlanks essence where
  append := essence_append
  blanks _ h := essence_of_isBlank h

theorem essence_strip (t : Text) : essence (strip t) = essence t :=
  ignoresBlanks_essence.apply_strip t

theorem essence_collapseFrom (inRun : Bool) (t : Text) :
    essence (collapseFrom inRun t) = essence t := by
  induction t generalizing inRun with
  | nil => rfl
  | cons c t ih =>
    have hspace : essence [' '] = [] := essence_singleton_of_isBlank rfl
    by_cases hc : isBlank c = true
    · -- A blank is left out within a run, and written as a space where a run starts.
      rw [essence_cons c t, essence_singleton_of_isBlank hc, List.nil_append]
      cases inRun with
      | true => simp only [collapseFrom, hc, if_true, ih]
      | false =>
        simp only [collapseFrom, hc, if_true, Bool.false_eq_true, if_false]
        rw [essence_cons, hspace, ih, List.nil_append]
    · simp only [collapseFrom, hc, Bool.false_eq_true, if_false]
      rw [essence_cons, ih, ← essence_cons]

theorem essence_collapse (t : Text) : essence (collapse t) = essence t :=
  essence_collapseFrom false t

/-! ### Capitals -/

/-- A stretch can be put in capitals, if the capital form of each of its characters stays as it is when
put in capitals again. -/
theorem essence_upper {t : Text} (h : ∀ c ∈ t, upper (upperChar c) = upperChar c) :
    essence (upper t) = essence t := by
  have hfixed : upper (upper t) = upper t := by
    unfold upper at h ⊢
    rw [List.flatMap_assoc]
    exact List.flatMap_congr h
  unfold essence
  rw [hfixed]

/-! ### Parts -/

theorem joinWith_cons_cons (sep a b : Text) (rest : List Text) :
    joinWith sep (a :: b :: rest) = a ++ sep ++ joinWith sep (b :: rest) :=
  List.intercalate_cons_cons

/-- What is read piece by piece is read part by part. -/
theorem IgnoresBlanks.apply_joinWith {f : Text → Text} (hf : IgnoresBlanks f) (sep : Text)
    (parts : List Text) : f (joinWith sep parts) = joinWith (f sep) (parts.map f) := by
  induction parts with
  | nil => exact hf.blanks [] fun c hc => absurd hc List.not_mem_nil
  | cons a rest ih =>
    cases rest with
    | nil => simp [joinWith]
    | cons b rest =>
      rw [joinWith_cons_cons, hf.append, hf.append, ih]
      exact (joinWith_cons_cons _ _ _ _).symm

/-- Blanks around the parts of a text and within the separator do not count. -/
theorem IgnoresBlanks.apply_joinWith_map_strip {f : Text → Text} (hf : IgnoresBlanks f)
    {sep sep' : Text} (hsep : f sep = f sep') (parts : List Text) :
    f (joinWith sep (parts.map strip)) = f (joinWith sep' parts) := by
  have hparts : (parts.map strip).map f = parts.map f := by
    rw [List.map_map]
    exact List.map_congr_left fun part _ => hf.apply_strip part
  rw [hf.apply_joinWith, hf.apply_joinWith, hparts, hsep]

theorem splitAtChar_ne_nil (sep : Char) (t : Text) : splitAtChar sep t ≠ [] := by
  cases t with
  | nil => exact List.cons_ne_nil _ _
  | cons c t =>
    rw [splitAtChar]
    split
    · exact List.cons_ne_nil _ _
    · split <;> exact List.cons_ne_nil _ _

/-- Putting a character in front of the first part puts it in front of the whole. -/
theorem joinWith_cons_head (sep : Text) (c : Char) (a : Text) (rest : List Text) :
    joinWith sep ((c :: a) :: rest) = c :: joinWith sep (a :: rest) := by
  cases rest with
  | nil => simp [joinWith]
  | cons b rest => rw [joinWith_cons_cons, joinWith_cons_cons]; rfl

/-- Joining the parts between separators gives the text back. -/
theorem joinWith_splitAtChar (sep : Char) (t : Text) :
    joinWith [sep] (splitAtChar sep t) = t := by
  induction t with
  | nil => rfl
  | cons c t ih =>
    obtain ⟨first, others, hparts⟩ := List.exists_cons_of_ne_nil (splitAtChar_ne_nil sep t)
    rw [splitAtChar]
    split
    · next hc =>
      rw [hparts, joinWith_cons_cons, ← hparts, ih, hc]
      rfl
    · rw [hparts] at ih ⊢
      rw [joinWith_cons_head, ih]

end Text

end SqlInventory
