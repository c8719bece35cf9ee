import SqlInventory.Text.WholeWord
import Mathlib.Data.List.Basic

/-!
# What a search for words finds

A search for words answers with the stretch that it found, in the letter case of the text. Whatever
the search (`endingWord?` at one place, `wholeWord?` between boundaries, `firstWord?` through a whole
text), the stretch is one of the listed words when case is ignored, and so has its length.

* `takeWhile_isWord_append`, `isWordAt_dropWhile`: where a run of word characters ends;
* `IsStretch`: what all of them promise of the stretch;
* `isStretch_of_endingWord?`, `isStretch_of_wholeWord?`, `exists_isStretch_of_firstWordFrom?`;
* `mem_or_eq_nil_of_mem_trialOrder`: the words that are tried are the words that are listed.
-/

namespace SqlInventory

namespace Text

/-! ### Runs of word characters -/

/-- The run of word characters in front of a text that goes on with something else. -/
theorem takeWhile_isWord_append {more rest : Text} (hmore : ∀ c ∈ more, isWord c = true)
    (hrest : isWordAt rest.head? = false) :
    (more ++ rest).takeWhile isWord = more := by
  rw [List.takeWhile_append_of_pos hmore]
  cases rest with
  | nil => simp
  | cons c rest =>
    have hc : isWord c = false := hrest
    simp [hc]

/-- Behind the run of word characters of a text there is no word character. -/
theorem isWordAt_dropWhile (t : Text) : isWordAt (t.dropWhile isWord).head? = false := by
  have hhead := List.head?_dropWhile_not isWord t
  cases hfirst : (t.dropWhile isWord).head? with
  | none => rfl
  | some c =>
    rw [hfirst] at hhead
    exact hhead

theorem isWordAt_drop_takeWhile (t : Text) :
    isWordAt (t.drop (t.takeWhile isWord).length).head? = false := by
  have hdrop : t.drop (t.takeWhile isWord).length = t.dropWhile isWord := by
    calc t.drop (t.takeWhile isWord).length
        = (t.takeWhile isWord ++ t.dropWhile isWord).drop (t.takeWhile isWord).length := by
          rw [List.takeWhile_append_dropWhile]
      _ = t.dropWhile isWord := List.drop_left
  rw [hdrop]
  exact isWordAt_dropWhile t

/-! ### Stretches that are found -/

/-- The stretch `found` is the front of `t`, and one of `words` when case is ignored. -/
def IsStretch (words : List Text) (t found : Text) : Prop :=
  ∃ word ∈ words, isFrontOf word t = true ∧ found = t.take word.length

/-- A word at the front of a text is not longer than the text. -/
theorem length_le_of_isFrontOf {word t : Text} (h : isFrontOf word t = true) :
    word.length ≤ t.length := by
  induction word generalizing t with
  | nil => exact Nat.zero_le _
  | cons a word ih =>
    cases t with
    | nil => cases h
    | cons b t => exact Nat.succ_le_succ (ih (Bool.and_eq_true_iff.mp h).2)

/-- A stretch has the length of its word. -/
theorem IsStretch.exists_length {words : List Text} {t found : Text}
    (h : IsStretch words t found) :
    ∃ word ∈ words, isFrontOf word t = true ∧ found = t.take word.length ∧
      found.length = word.length := by
  obtain ⟨word, hword, hfront, rfl⟩ := h
  refine ⟨word, hword, hfront, rfl, ?_⟩
  rw [List.length_take, Nat.min_eq_left (length_le_of_isFrontOf hfront)]

/-- A stretch is what its length cuts off the text. -/
theorem IsStretch.take_length {words : List Text} {t found : Text} (h : IsStretch words t found) :
    t.take found.length = found := by
  obtain ⟨word, -, -, rfl, hlength⟩ := h.exists_length
  rw [hlength]

theorem isStretch_of_endingWord? {ordered : List Text} {before : Option Char} {t found : Text}
    (h : endingWord? ordered before t = some found) : IsStretch ordered t found := by
  obtain ⟨word, hfind, rfl⟩ := Option.map_eq_some_iff.mp h
  have hends := List.find?_some hfind
  exact ⟨word, List.mem_of_find?_eq_some hfind, (Bool.and_eq_true_iff.mp hends).1, rfl⟩

theorem isStretch_of_wholeWord? {ordered : List Text} {before : Option Char} {t found : Text}
    (h : wholeWord? ordered before t = some found) : IsStretch ordered t found := by
  unfold wholeWord? at h
  split at h
  · exact isStretch_of_endingWord? h
  · cases h

theorem exists_isStretch_of_firstWordFrom? {ordered : List Text} {before : Option Char}
    {t found : Text} (h : firstWordFrom? ordered before t = some found) :
    ∃ rest, IsStretch ordered rest found := by
  induction t generalizing before with
  | nil => exact ⟨[], isStretch_of_wholeWord? h⟩
  | cons c t ih =>
    rw [firstWordFrom?] at h
    split at h
    · next word hword =>
      cases h
      exact ⟨c :: t, isStretch_of_wholeWord? hword⟩
    · exact ih h

/-- The words that are tried are those listed, or the empty word in the place of an empty list. -/
theorem mem_or_eq_nil_of_mem_trialOrder {words : List Text} {word : Text}
    (h : word ∈ trialOrder words) : word ∈ words ∨ word = [] := by
  unfold trialOrder at h
  split at h
  · exact Or.inr (List.mem_singleton.mp h)
  · exact Or.inl (List.mem_eraseDups.mp (List.mem_mergeSort.mp h))

/-- If any words are listed, only listed words are tried. -/
theorem mem_of_mem_trialOrder {words : List Text} (hwords : words ≠ []) {word : Text}
    (h : word ∈ trialOrder words) : word ∈ words := by
  unfold trialOrder at h
  split at h
  · next hsorted =>
    obtain ⟨first, hfirst⟩ := List.exists_mem_of_ne_nil words hwords
    have hmem : first ∈ words.eraseDups.mergeSort triedBefore :=
      List.mem_mergeSort.mpr (List.mem_eraseDups.mpr hfirst)
    rw [hsorted] at hmem
    cases hmem
  · exact List.mem_eraseDups.mp (List.mem_mergeSort.mp h)

end Text

end SqlInventory
