import SqlInventory.Text.Case
import Mathlib.Tactic.ByContra

/-!
# Which characters count as an ASCII letter

Keywords are written in ASCII and are looked for with case ignored. Through the tables of letter case
a character beyond ASCII may count as one of their letters, and a proof about keywords has to know
which. The answer is short: the four of `strayLetters`. A fact about the letters of a keyword is then
a fact about the list `asciiLikes`, and is settled by evaluation.

* `mem_asciiLikes_of_sameLetter`: no other character counts as an ASCII character. The table of small
  letters is gone through once, run by run and not letter by letter: what a run leads to lies in an
  interval, and only two runs beyond ASCII lead back into it;
* `lowerChar_eq_of_sameLetter`: among ASCII characters only the small forms matter;
* `forall_mem_take_of_isFrontOf`, `upper_take_of_isFrontOf`: what is known of the letters of a word
  is known of a stretch that is this word when case is ignored.
-/

namespace SqlInventory

/-- A run moves the code points between its ends, all by one distance. -/
theorem CaseRun.apply?_eq_some {run : CaseRun} {n m : Nat} (h : run.apply? n = some m) :
    run.first ≤ n ∧ n ≤ run.last ∧ m = (n + run.shift).toNat := by
  unfold CaseRun.apply? at h
  split at h
  · next hin => exact ⟨hin.1, hin.2.1, (Option.some.inj h).symm⟩
  · cases h

namespace Text

/-- Whether the characters of a text all have a property is decided by going through the text. The
priority keeps the search for an instance from going through all characters there are. -/
instance (priority := 2000) decidableForallMem (p : Char → Prop) [DecidablePred p] (t : Text) :
    Decidable (∀ c ∈ t, p c) :=
  List.decidableBAll p t

/-- The characters beyond ASCII that count as an ASCII letter: the capital i with a dot, the small i
without one, the long s, and the sign for kelvin. -/
def strayLetters : List Char :=
  [Char.ofNat 304, Char.ofNat 305, Char.ofNat 383, Char.ofNat 8490]

/-- The characters that may count as an ASCII character. -/
def asciiLikes : List Char :=
  (List.range 128).map Char.ofNat ++ strayLetters

theorem mem_strayLetters_iff {c : Char} :
    c ∈ strayLetters ↔ c.toNat = 304 ∨ c.toNat = 305 ∨ c.toNat = 383 ∨ c.toNat = 8490 := by
  simp only [strayLetters, List.mem_cons, List.not_mem_nil, or_false, ← Char.toNat_inj]
  rfl

/-- Where the runs to small letters lead: those beyond ASCII stay there and keep clear of the dotless
i and of the long s, but for the capital i with a dot and the sign for kelvin. -/
theorem lowerRuns_lead : ∀ run ∈ lowerRuns,
    run.last < 128 ∨ (run.first = 304 ∧ run.last = 304) ∨ (run.first = 8490 ∧ run.last = 8490) ∨
      (128 ≤ run.first + run.shift ∧
        (run.last + run.shift < 0xD800 ∨
          0xDFFF < run.first + run.shift ∧ run.last + run.shift < 0x110000) ∧
        (run.last + run.shift < 305 ∨ 305 < run.first + run.shift) ∧
        (run.last + run.shift < 383 ∨ 383 < run.first + run.shift)) := by
  decide +kernel

/-- The small form of another character beyond ASCII is beyond ASCII, and neither the dotless i nor
the long s. -/
theorem lowerChar_of_notMem_strayLetters {c : Char} (hc : 128 ≤ c.toNat)
    (hstray : c ∉ strayLetters) :
    128 ≤ (lowerChar c).toNat ∧ (lowerChar c).toNat ≠ 305 ∧ (lowerChar c).toNat ≠ 383 := by
  rw [mem_strayLetters_iff] at hstray
  unfold lowerChar
  rw [if_neg (by omega)]
  cases hfind : lowerRuns.findSome? fun run => run.apply? c.toNat with
  | none =>
    change 128 ≤ c.toNat ∧ c.toNat ≠ 305 ∧ c.toNat ≠ 383
    omega
  | some m =>
    obtain ⟨run, hrun, happly⟩ := List.exists_of_findSome?_eq_some hfind
    obtain ⟨hfirst, hlast, rfl⟩ := CaseRun.apply?_eq_some happly
    rcases lowerRuns_lead run hrun with hascii | hdotted | hkelvin | ⟨hfar, hvalid, hdotless, hlong⟩
    · omega
    · omega
    · omega
    · have hchar : ((c.toNat : Int) + run.shift).toNat.isValidChar := by
        unfold Nat.isValidChar
        omega
      have hcode : (Char.ofNat ((c.toNat : Int) + run.shift).toNat).toNat =
          ((c.toNat : Int) + run.shift).toNat := by
        rw [Char.ofNat, dif_pos hchar]
        rfl
      change 128 ≤ (Char.ofNat _).toNat ∧ (Char.ofNat _).toNat ≠ 305 ∧ (Char.ofNat _).toNat ≠ 383
      rw [hcode]
      omega

/-- The small form of an ASCII character is one. -/
theorem lowerChar_lt {a : Char} (ha : a.toNat < 128) : (lowerChar a).toNat < 128 := by
  have htable : ∀ n < 128, (lowerChar (Char.ofNat n)).toNat < 128 := by decide +kernel
  have := htable a.toNat ha
  rwa [Char.ofNat_toNat] at this

/-- ASCII characters are the same letter only through their small forms. -/
theorem lowerChar_eq_of_sameLetter {a c : Char} (ha : a.toNat < 128) (hc : c.toNat < 128)
    (h : sameLetter a c = true) : lowerChar a = lowerChar c := by
  unfold sameLetter at h
  rcases Bool.or_eq_true_iff.mp h with heq | hkin
  · exact beq_iff_eq.mp heq
  · -- No kin has two ASCII members.
    have htable : ∀ kin ∈ letterKin, ∀ x ∈ kin, x < 128 → ∀ y ∈ kin, y < 128 → x = y := by decide
    obtain ⟨kin, hmem, hboth⟩ := List.any_eq_true.mp hkin
    obtain ⟨hx, hy⟩ := Bool.and_eq_true_iff.mp hboth
    exact Char.toNat_inj.mp (htable kin hmem _ (List.contains_iff_mem.mp hx) (lowerChar_lt ha) _
      (List.contains_iff_mem.mp hy) (lowerChar_lt hc))

/-- A character beyond ASCII that counts as an ASCII character is a stray letter. -/
theorem mem_strayLetters_of_sameLetter {a c : Char} (ha : a.toNat < 128) (hc : ¬c.toNat < 128)
    (h : sameLetter a c = true) : c ∈ strayLetters := by
  by_contra hstray
  obtain ⟨hfar, hdotless, hlong⟩ := lowerChar_of_notMem_strayLetters (by omega) hstray
  have hsmall := lowerChar_lt ha
  unfold sameLetter at h
  rcases Bool.or_eq_true_iff.mp h with heq | hkin
  · rw [← beq_iff_eq.mp heq] at hfar
    omega
  · -- A kin with an ASCII member has no members but those that were excluded.
    have htable : ∀ kin ∈ letterKin, ∀ x ∈ kin, x < 128 → ∀ y ∈ kin,
        y < 128 ∨ y = 305 ∨ y = 383 := by decide
    obtain ⟨kin, hmem, hboth⟩ := List.any_eq_true.mp hkin
    obtain ⟨hx, hy⟩ := Bool.and_eq_true_iff.mp hboth
    have := htable kin hmem _ (List.contains_iff_mem.mp hx) hsmall _ (List.contains_iff_mem.mp hy)
    omega

/-- **What counts as an ASCII character** is one itself, or one of four stray letters. -/
theorem mem_asciiLikes_of_sameLetter {a c : Char} (ha : a.toNat < 128)
    (h : sameLetter a c = true) : c ∈ asciiLikes := by
  refine List.mem_append.mpr ?_
  by_cases hc : c.toNat < 128
  · exact Or.inl (List.mem_map.mpr ⟨c.toNat, List.mem_range.mpr hc, Char.ofNat_toNat c⟩)
  · exact Or.inr (mem_strayLetters_of_sameLetter ha hc h)

/-- What counts as an ASCII character that is no digit is no digit. -/
theorem isDigit_eq_false_of_sameLetter {a c : Char} (ha : a.toNat < 128)
    (hdigit : a.isDigit = false) (h : sameLetter a c = true) : c.isDigit = false := by
  by_contra hne
  have hcode : 48 ≤ c.toNat ∧ c.toNat ≤ 57 := by
    simpa [Char.isDigit, UInt32.le_iff_toNat_le] using hne
  have hc : lowerChar c = c := by
    unfold lowerChar
    rw [if_pos (by omega), if_neg (by omega)]
  unfold sameLetter at h
  rw [hc] at h
  rcases Bool.or_eq_true_iff.mp h with heq | hkin
  · -- The small form of an ASCII character is a digit only if the character is.
    have htable : ∀ n < 128, (lowerChar (Char.ofNat n)).isDigit = (Char.ofNat n).isDigit := by
      decide +kernel
    have := htable a.toNat ha
    rw [Char.ofNat_toNat, beq_iff_eq.mp heq, hdigit] at this
    exact hne this
  · have htable : ∀ kin ∈ letterKin, ∀ y ∈ kin, 57 < y := by decide
    obtain ⟨kin, hmem, hboth⟩ := List.any_eq_true.mp hkin
    have := htable kin hmem _ (List.contains_iff_mem.mp (Bool.and_eq_true_iff.mp hboth).2)
    omega

/-! ### Words with case ignored -/

/-- What is known of everything that counts as a letter of `word` is known of a stretch that is this
word when case is ignored. -/
theorem forall_mem_take_of_isFrontOf {p : Char → Prop} {word t : Text}
    (hword : ∀ a ∈ word, ∀ c, sameLetter a c = true → p c) (h : isFrontOf word t = true) :
    ∀ c ∈ t.take word.length, p c := by
  induction word generalizing t with
  | nil => simp
  | cons a word ih =>
    cases t with
    | nil => simp
    | cons b t =>
      obtain ⟨hsame, hrest⟩ := Bool.and_eq_true_iff.mp h
      intro c hc
      rcases List.mem_cons.mp hc with rfl | hc
      · exact hword a List.mem_cons_self _ hsame
      · exact ih (fun a' ha' => hword a' (List.mem_cons_of_mem a ha')) hrest c hc

/-- A stretch that is `word` when case is ignored has `word` as its capital form, if that is so for
each letter. -/
theorem upper_take_of_isFrontOf {word t : Text}
    (hword : ∀ a ∈ word, ∀ c, sameLetter a c = true → upperChar c = [a])
    (h : isFrontOf word t = true) : upper (t.take word.length) = word := by
  induction word generalizing t with
  | nil => simp
  | cons a word ih =>
    cases t with
    | nil => cases h
    | cons b t =>
      obtain ⟨hsame, hrest⟩ := Bool.and_eq_true_iff.mp h
      have hb := hword a List.mem_cons_self b hsame
      have htail := ih (fun a' ha' => hword a' (List.mem_cons_of_mem a ha')) hrest
      rw [List.length_cons, List.take_succ_cons, ← List.singleton_append, upper_append, htail]
      simp [upper, hb]

end Text

end SqlInventory
