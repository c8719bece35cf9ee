import Mathlib.Data.List.DropRight
import Mathlib.Data.List.Forall2
import SqlInventory.Proofs.Text.Essence
import SqlInventory.Proofs.Text.LetterCase
import SqlInventory.Proofs.Text.WholeWord

/-!
# The words of a text, and a search for listed ones

The words of a text are its longest stretches of word characters (`wordsIn`). A search for listed
words never takes less than such a stretch: it asks for a boundary behind the word that it finds,
and the words of a list that is in ASCII (`IsWordList`) are found only where all characters are word
characters. So it looks through the words of the text and nothing else.

* `wordsIn_append_break`: a text falls apart at a character that is no word character. The other
  equations for `wordsIn` come from this one;
* `wordsIn_prefix_or_cutsWord`: a cut takes words off the end of a text, unless it goes through one;
* `endingWord?_eq`: the search at one place looks at the run of word characters there, and it does
  not matter in which order the list is tried;
* `firstWord?_eq_find?`: the search through a text finds the first of its words that is listed.

What a text is shown as has the same words: blanks may be written as one space (`wordsIn_collapse`),
and a character that is no word character as another one (`wordsIn_replaceChar`).
-/

namespace SqlInventory

namespace Text

/-! ### The words of a text -/

/-- The words of a text: its longest stretches of word characters, from left to right. -/
def wordsIn (t : Text) : List Text :=
  (t.splitOnP fun c => !isWord c).filter (· ≠ [])

@[simp] theorem wordsIn_nil : wordsIn [] = [] := by
  simp [wordsIn, List.splitOnP_nil]

/-- **A text falls apart where there is no word character.** -/
theorem wordsIn_append_break {c : Char} (hc : isWord c = false) (s t : Text) :
    wordsIn (s ++ c :: t) = wordsIn s ++ wordsIn t := by
  unfold wordsIn
  rw [List.splitOnP_append_cons s t (by simp [hc]), List.filter_append]

theorem wordsIn_cons_break {c : Char} (hc : isWord c = false) (t : Text) :
    wordsIn (c :: t) = wordsIn t := by
  have := wordsIn_append_break hc [] t
  rwa [List.nil_append, wordsIn_nil, List.nil_append] at this

theorem wordsIn_of_forall_break {t : Text} (ht : ∀ c ∈ t, isWord c = false) : wordsIn t = [] := by
  induction t with
  | nil => exact wordsIn_nil
  | cons c t ih =>
    obtain ⟨hc, ht⟩ := List.forall_mem_cons.mp ht
    rw [wordsIn_cons_break hc, ih ht]

/-- What has no word character at its front adds no letter to the words before it. -/
theorem wordsIn_append {t : Text} (ht : isWordAt t.head? = false) (s : Text) :
    wordsIn (s ++ t) = wordsIn s ++ wordsIn t := by
  cases t with
  | nil => rw [List.append_nil, wordsIn_nil, List.append_nil]
  | cons c t => rw [wordsIn_append_break ht, wordsIn_cons_break ht]

/-- What has no word character at its end adds no letter to the words behind it. -/
theorem wordsIn_append_of_getLast? {s : Text} (hs : isWordAt s.getLast? = false) (t : Text) :
    wordsIn (s ++ t) = wordsIn s ++ wordsIn t := by
  rcases List.eq_nil_or_concat' s with rfl | ⟨s, c, rfl⟩
  · rw [List.nil_append, wordsIn_nil, List.nil_append]
  · rw [List.getLast?_concat] at hs
    rw [List.append_assoc, List.singleton_append, wordsIn_append_break hs, wordsIn_append_break hs,
      wordsIn_nil, List.append_nil]

theorem wordsIn_of_forall_isWord {run : Text} (hne : run ≠ []) (hrun : ∀ c ∈ run, isWord c = true) :
    wordsIn run = [run] := by
  unfold wordsIn
  rw [List.splitOnP_eq_singleton fun c hc => by simp [hrun c hc]]
  simp [hne]

/-- A run of word characters that comes to its end is a word. -/
theorem wordsIn_run_append {run rest : Text} (hne : run ≠ []) (hrun : ∀ c ∈ run, isWord c = true)
    (hrest : isWordAt rest.head? = false) : wordsIn (run ++ rest) = run :: wordsIn rest := by
  rw [wordsIn_append hrest, wordsIn_of_forall_isWord hne hrun, List.singleton_append]

/-- The first word of a text that starts with a word character, and the words behind it. -/
theorem wordsIn_cons_isWord {c : Char} (hc : isWord c = true) (t : Text) :
    wordsIn (c :: t) = (c :: t.takeWhile isWord) :: wordsIn (t.dropWhile isWord) := by
  have hrun : ∀ d ∈ c :: t.takeWhile isWord, isWord d = true :=
    List.forall_mem_cons.mpr ⟨hc, fun d hd => List.mem_takeWhile_imp hd⟩
  rw [← wordsIn_run_append (List.cons_ne_nil _ _) hrun (isWordAt_dropWhile t), List.cons_append,
    List.takeWhile_append_dropWhile]

/-! ### Texts with the same words -/

theorem isWord_eq_false_of_isBlank {c : Char} (h : isBlank c = true) : isWord c = false := by
  have htable : ∀ n ∈ blankCodes, isWord (Char.ofNat n) = false := by decide +kernel
  have := htable c.toNat (mem_blankCodes_of_isBlank h)
  rwa [Char.ofNat_toNat] at this

/-- Behind a text `s`, of which a run of blanks is the end if `inRun`, collapsed blanks leave the
words as they are. -/
theorem wordsIn_append_collapseFrom (inRun : Bool) (s t : Text)
    (hs : inRun = true → isWordAt s.getLast? = false) :
    wordsIn (s ++ collapseFrom inRun t) = wordsIn (s ++ t) := by
  induction t generalizing inRun s with
  | nil => rfl
  | cons c t ih =>
    rw [collapseFrom]
    by_cases hblank : isBlank c = true
    · have hc := isWord_eq_false_of_isBlank hblank
      rw [if_pos hblank, wordsIn_append_break hc]
      cases inRun with
      | true =>
        -- The blank is left out; the words before it have ended already.
        rw [if_pos rfl, ih true s hs, wordsIn_append_of_getLast? (hs rfl)]
      | false =>
        have hspace : isWord ' ' = false := by decide
        have hrest := ih true [' '] (fun _ => hspace)
        rw [List.singleton_append, List.singleton_append, wordsIn_cons_break hspace,
          wordsIn_cons_break hspace] at hrest
        rw [if_neg Bool.false_ne_true, wordsIn_append_break hspace, hrest]
    · rw [if_neg hblank, List.append_cons, List.append_cons s c t]
      exact ih false (s ++ [c]) (fun h => absurd h Bool.false_ne_true)

@[simp] theorem wordsIn_collapse (t : Text) : wordsIn (collapse t) = wordsIn t :=
  wordsIn_append_collapseFrom false [] t (fun h => absurd h Bool.false_ne_true)

/-- A character that belongs to no word may be written as another one. -/
theorem wordsIn_replaceChar {old new : Char} (hold : isWord old = false) (hnew : isWord new = false)
    (t : Text) : wordsIn (replaceChar old new t) = wordsIn t := by
  have happend : ∀ s, wordsIn (s ++ replaceChar old new t) = wordsIn (s ++ t) := by
    induction t with
    | nil => exact fun s => rfl
    | cons c t ih =>
      intro s
      by_cases hc : c = old
      · have hrest := ih []
        rw [List.nil_append, List.nil_append] at hrest
        have hcons : replaceChar old new (c :: t) = new :: replaceChar old new t := by
          simp [replaceChar, hc]
        rw [hcons, wordsIn_append_break hnew, hc, wordsIn_append_break hold, hrest]
      · have hcons : replaceChar old new (c :: t) = c :: replaceChar old new t := by
          simp [replaceChar, hc]
        rw [hcons, List.append_cons, ih, ← List.append_cons]
  exact happend []

/-! ### Texts that are cut -/

/-- **A cut through a word.** A text is cut behind `front ++ part`, the word that is cut starts with
`part`, and it goes on in what is cut off. -/
structure CutsWord (front part behind : Text) : Prop where
  starts : isWordAt front.getLast? = false
  letters : ∀ c ∈ part, isWord c = true
  goesOn : isWordAt behind.head? = true

/-- What is left of the word that is cut is a word. -/
theorem CutsWord.wordsIn_kept {front part behind : Text} (h : CutsWord front part behind)
    (hne : part ≠ []) : wordsIn (front ++ part) = wordsIn front ++ [part] := by
  rw [wordsIn_append_of_getLast? h.starts, wordsIn_of_forall_isWord hne h.letters]

theorem isWordAt_getLast?_rdropWhile (t : Text) :
    isWordAt (t.rdropWhile isWord).getLast? = false := by
  by_cases hne : t.rdropWhile isWord = []
  · rw [hne]
    rfl
  · rw [List.getLast?_eq_getLast_of_ne_nil hne]
    exact Bool.eq_false_iff.mpr (List.rdropWhile_last_not isWord t hne)

/-- **A cut takes words off the end, unless it goes through one.** -/
theorem wordsIn_prefix_or_cutsWord (kept behind : Text) :
    wordsIn kept <+: wordsIn (kept ++ behind) ∨
      ∃ front part, kept = front ++ part ∧ part ≠ [] ∧ CutsWord front part behind := by
  have hkept : kept.rdropWhile isWord ++ kept.rtakeWhile isWord = kept :=
    List.rdropWhile_append_rtakeWhile
  have hstarts := isWordAt_getLast?_rdropWhile kept
  by_cases hpart : kept.rtakeWhile isWord = []
  · -- No word reaches the cut from the front.
    left
    rw [hpart, List.append_nil] at hkept
    rw [hkept] at hstarts
    rw [wordsIn_append_of_getLast? hstarts]
    exact List.prefix_append _ _
  · cases hgoesOn : isWordAt behind.head? with
    | false =>
      left
      rw [wordsIn_append hgoesOn]
      exact List.prefix_append _ _
    | true =>
      right
      exact ⟨_, _, hkept.symm, hpart, hstarts, fun c hc => List.mem_rtakeWhile_imp hc, hgoesOn⟩

/-! ### Lists of words -/

/-- **A list of words in ASCII**: there are some, and each is made of letters, digits and
underscores, of which it has at least one. -/
def IsWordList (words : List Text) : Prop :=
  words ≠ [] ∧ ∀ word ∈ words, word ≠ [] ∧
    ∀ c ∈ word, (isAsciiLetter c || isAsciiDigit c || c == '_') = true

instance (words : List Text) : Decidable (IsWordList words) :=
  inferInstanceAs (Decidable (_ ∧ _))

/-- A word is one of those listed when case is ignored. -/
def IsListed (words : List Text) (w : Text) : Prop :=
  ∃ word ∈ words, List.Forall₂ (fun a c => sameLetter a c = true) word w

instance (words : List Text) (w : Text) : Decidable (IsListed words w) :=
  inferInstanceAs (Decidable (∃ word ∈ words, _))

/-- What counts as a letter of a listed word is a word character. -/
theorem isWord_of_sameLetter {a c : Char}
    (ha : (isAsciiLetter a || isAsciiDigit a || a == '_') = true) (h : sameLetter a c = true) :
    isWord c = true := by
  have hascii : a.toNat < 128 := by
    have hle : a ≤ 'z' := by
      simp only [isAsciiLetter, isAsciiDigit, Bool.or_eq_true, Bool.and_eq_true, decide_eq_true_eq,
        beq_iff_eq] at ha
      rcases ha with ((ha | ha) | ha) | rfl
      · exact ha.2
      · exact Char.le_trans ha.2 (by decide)
      · exact Char.le_trans ha.2 (by decide)
      · decide
    exact Nat.lt_of_le_of_lt hle (by decide)
  by_cases hc : c.toNat < 128
  · -- Small and capital form are both letters or none is.
    have htable : ∀ n < 128, isWord (lowerChar (Char.ofNat n)) = isWord (Char.ofNat n) := by
      decide +kernel
    have hcase : ∀ d : Char, d.toNat < 128 → isWord (lowerChar d) = isWord d := by
      intro d hd
      have := htable d.toNat hd
      rwa [Char.ofNat_toNat] at this
    have hword : isWord a = true := by
      rw [isWord, isAlphanumeric, if_pos hascii]
      exact ha
    rw [← hcase c hc, ← lowerChar_eq_of_sameLetter hascii hc h, hcase a hascii, hword]
  · have htable : ∀ d ∈ strayLetters, isWord d = true := by decide +kernel
    exact htable c (mem_strayLetters_of_sameLetter hascii hc h)

theorem IsWordList.ne_nil {words : List Text} (h : IsWordList words) {w : Text}
    (hw : IsListed words w) : w ≠ [] := by
  rintro rfl
  obtain ⟨word, hword, hsame⟩ := hw
  exact (h.2 word hword).1 (List.forall₂_nil_right_iff.mp hsame)

/-- The words that are tried are those listed. -/
theorem mem_trialOrder_iff {words : List Text} (hwords : words ≠ []) {word : Text} :
    word ∈ trialOrder words ↔ word ∈ words := by
  refine ⟨mem_of_mem_trialOrder hwords, fun h => ?_⟩
  have hmem : word ∈ words.eraseDups.mergeSort triedBefore :=
    List.mem_mergeSort.mpr (List.mem_eraseDups.mpr h)
  unfold trialOrder
  split
  · next hsorted =>
    rw [hsorted] at hmem
    cases hmem
  · exact hmem

theorem IsWordList.trialOrder {words : List Text} (h : IsWordList words) :
    IsWordList (Text.trialOrder words) := by
  have hmem : ∀ word, word ∈ Text.trialOrder words ↔ word ∈ words :=
    fun word => mem_trialOrder_iff h.1
  obtain ⟨word, hword⟩ := List.exists_mem_of_ne_nil words h.1
  exact ⟨List.ne_nil_of_mem ((hmem word).mpr hword), fun w hw => h.2 w ((hmem w).mp hw)⟩

theorem isListed_trialOrder_iff {words : List Text} (hwords : words ≠ []) {w : Text} :
    IsListed (trialOrder words) w ↔ IsListed words w := by
  unfold IsListed
  simp only [mem_trialOrder_iff hwords]

/-! ### The search for listed words -/

theorem isFrontOf_iff {word t : Text} :
    isFrontOf word t = true ↔
      List.Forall₂ (fun a c => sameLetter a c = true) word (t.take word.length) := by
  induction word generalizing t with
  | nil => simp [isFrontOf]
  | cons a word ih =>
    cases t with
    | nil => simp [isFrontOf]
    | cons c t => simp [isFrontOf, ih]

/-- **A word ends at a boundary if and only if it is the run of word characters at its place.** -/
theorem endsHere_iff {words : List Text} (hwords : IsWordList words) {word : Text}
    (hword : word ∈ words) (before : Option Char) (t : Text) :
    endsHere before t word = true ↔
      List.Forall₂ (fun a c => sameLetter a c = true) word (t.takeWhile isWord) := by
  obtain ⟨hne, hletters⟩ := hwords.2 word hword
  constructor
  · intro h
    obtain ⟨hfront, hboundary⟩ := Bool.and_eq_true_iff.mp h
    have hrun : ∀ c ∈ t.take word.length, isWord c = true :=
      forall_mem_take_of_isFrontOf (fun a ha c => isWord_of_sameLetter (hletters a ha)) hfront
    have hlength : (t.take word.length).length = word.length := by
      rw [List.length_take, Nat.min_eq_left (length_le_of_isFrontOf hfront)]
    obtain ⟨last, hlast⟩ : ∃ last, (t.take word.length).getLast? = some last := by
      refine Option.ne_none_iff_exists'.mp fun hnone => hne ?_
      rw [List.getLast?_eq_none_iff.mp hnone] at hlength
      exact List.length_eq_zero_iff.mp hlength.symm
    -- The last character is a word character, so the next one is none.
    have hnext : isWordAt (t.drop word.length).head? = false := by
      have hlastWord : isWordAt (some last) = true := hrun last (List.mem_of_getLast? hlast)
      rw [hlast, Option.some_or, isBoundary, hlastWord] at hboundary
      simpa using hboundary
    have htake : t.takeWhile isWord = t.take word.length := by
      have := takeWhile_isWord_append hrun hnext
      rwa [List.take_append_drop] at this
    rw [htake]
    exact isFrontOf_iff.mp hfront
  · intro h
    have hlength := h.length_eq
    have htake : t.take word.length = t.takeWhile isWord := by
      rw [hlength]
      exact (List.prefix_iff_eq_take.mp (List.takeWhile_prefix isWord)).symm
    have hfront : isFrontOf word t = true := by
      rw [isFrontOf_iff, htake]
      exact h
    obtain ⟨last, hlast⟩ : ∃ last, (t.takeWhile isWord).getLast? = some last := by
      refine Option.ne_none_iff_exists'.mp fun hnone => hne ?_
      rw [List.getLast?_eq_none_iff.mp hnone] at hlength
      exact List.length_eq_zero_iff.mp hlength
    have hlastWord : isWord last = true := List.mem_takeWhile_imp (List.mem_of_getLast? hlast)
    have hnext := isWordAt_drop_takeWhile t
    rw [← hlength] at hnext
    have hboundary : isBoundary (some last) (t.drop word.length).head? = true := by
      rw [isBoundary, hnext]
      exact bne_iff_ne.mpr (ne_false_of_eq_true hlastWord)
    rw [endsHere, hfront, htake, hlast, Option.some_or, hboundary]
    rfl

/-- **The search at one place** finds the run of word characters there, if that is listed. -/
theorem endingWord?_eq {ordered : List Text} (hordered : IsWordList ordered)
    (before : Option Char) (t : Text) :
    endingWord? ordered before t =
      if IsListed ordered (t.takeWhile isWord) then some (t.takeWhile isWord) else none := by
  unfold endingWord?
  cases hfind : ordered.find? (endsHere before t) with
  | none =>
    rw [Option.map_none, if_neg]
    rintro ⟨word, hword, hsame⟩
    exact List.find?_eq_none.mp hfind word hword
      ((endsHere_iff hordered hword before t).mpr hsame)
  | some word =>
    have hword := List.mem_of_find?_eq_some hfind
    have hsame := (endsHere_iff hordered hword before t).mp (List.find?_some hfind)
    rw [Option.map_some, if_pos ⟨word, hword, hsame⟩, hsame.length_eq,
      ← List.prefix_iff_eq_take.mp (List.takeWhile_prefix isWord)]

/-- No listed word starts with a character that is no word character. -/
theorem endingWord?_eq_none {ordered : List Text} (hordered : IsWordList ordered)
    (before : Option Char) {t : Text} (ht : isWordAt t.head? = false) :
    endingWord? ordered before t = none := by
  have hrun : t.takeWhile isWord = [] := by
    cases t with
    | nil => rfl
    | cons c t => exact List.takeWhile_cons_of_neg (ne_true_of_eq_false ht)
  rw [endingWord?_eq hordered, hrun, if_neg]
  exact fun hlisted => hordered.ne_nil hlisted rfl

/-- The search from a place on; behind a word character the rest of its run is passed over. -/
theorem firstWordFrom?_eq {ordered : List Text} (hordered : IsWordList ordered)
    (before : Option Char) (t : Text) :
    firstWordFrom? ordered before t =
      (wordsIn (if isWordAt before then t.dropWhile isWord else t)).find?
        fun w => IsListed ordered w := by
  induction t generalizing before with
  | nil =>
    have hnone : endingWord? ordered before [] = none := endingWord?_eq_none hordered before rfl
    simp [firstWordFrom?, wholeWord?, hnone]
  | cons c t ih =>
    rw [firstWordFrom?, wholeWord?, ih (some c)]
    cases hc : isWord c with
    | false =>
      -- No word starts here, and the words behind `c` are all there are.
      have hnone : endingWord? ordered before (c :: t) = none :=
        endingWord?_eq_none hordered before hc
      have hrest : (if isWordAt before then (c :: t).dropWhile isWord else c :: t) = c :: t := by
        rw [List.dropWhile_cons_of_neg (by simp [hc]), ite_self]
      rw [hnone, ite_self, hrest, wordsIn_cons_break hc]
      simp [isWordAt, hc]
    | true =>
      have hcAt : isWordAt (some c) = true := hc
      cases hbefore : isWordAt before with
      | true =>
        -- A run goes on here, so there is no boundary.
        have hno : isBoundary before (c :: t).head? = false := by
          rw [isBoundary, hbefore, List.head?_cons, hcAt]
          rfl
        rw [hno, hcAt]
        simp [hc]
      | false =>
        have hyes : isBoundary before (c :: t).head? = true := by
          rw [isBoundary, hbefore, List.head?_cons, hcAt]
          rfl
        rw [hyes, hcAt, if_pos rfl, if_pos rfl, if_neg Bool.false_ne_true, wordsIn_cons_isWord hc,
          endingWord?_eq hordered, List.takeWhile_cons_of_pos hc]
        by_cases hlisted : IsListed ordered (c :: t.takeWhile isWord)
        · rw [if_pos hlisted, List.find?_cons_of_pos (by simpa using hlisted)]
        · rw [if_neg hlisted, List.find?_cons_of_neg (by simpa using hlisted)]

/-- **The search through a text** finds the first of its words that is listed. -/
theorem firstWord?_eq_find? {words : List Text} (hwords : IsWordList words) (t : Text) :
    firstWord? words t = (wordsIn t).find? fun w => IsListed words w := by
  rw [firstWord?, firstWordFrom?_eq hwords.trialOrder]
  simp [isWordAt, isListed_trialOrder_iff hwords.1]

end Text

end SqlInventory
