import SqlInventory.Proofs.Audit.SnippetVerb

/-!
# Listed words as runs of the text

Whether a text reads like SQL, and what its statement does, is decided by a search for listed words.
The search goes from place to place and tries the words of a list in a fixed order, between two
boundaries. None of that can be seen in the result: a listed word counts exactly where it is a
longest run of word characters (`IsRunOf`), and the run that counts is the first one that is listed
(`FirstListed`).

* `IsRunOf.wordsIn_eq`, `exists_isRunOf`: the words of a text are its runs, each with the words
  before it and behind it;
* `IsRunOf.mem_wordsIn_front`: a run that starts before another one is a run of what stands before
  that other one, so that the order of words is the order of places;
* `keywords_are_whole_words` says what the search decides.
-/

namespace SqlInventory

namespace Text

/-! ### Runs of word characters -/

/-- **A longest run of word characters**: between `front` and `back` the text has word characters
only, at least one, and it has none on either side of them. -/
structure IsRunOf (t front run back : Text) : Prop where
  split : t = front ++ (run ++ back)
  ne_nil : run ≠ []
  letters : ∀ c ∈ run, isWord c = true
  starts : isWordAt front.getLast? = false
  ends : isWordAt back.head? = false

/-- A run is a word of the text, and the other words stand before it or behind it. -/
theorem IsRunOf.wordsIn_eq {t front run back : Text} (h : IsRunOf t front run back) :
    wordsIn t = wordsIn front ++ run :: wordsIn back := by
  rw [h.split, wordsIn_append_of_getLast? h.starts, wordsIn_run_append h.ne_nil h.letters h.ends]

/-- A run stays one when text comes before it, if no word goes on from there. -/
theorem IsRunOf.append_left {t front run back : Text} (h : IsRunOf t front run back) {s : Text}
    (hs : front = [] → isWordAt s.getLast? = false) : IsRunOf (s ++ t) (s ++ front) run back := by
  refine ⟨?_, h.ne_nil, h.letters, ?_, h.ends⟩
  · rw [h.split, List.append_assoc]
  · by_cases hfront : front = []
    · rw [hfront, List.append_nil]
      exact hs hfront
    · rw [List.getLast?_append_of_ne_nil s hfront]
      exact h.starts

/-- What starts with a run starts with a word character. -/
theorem IsRunOf.isWordAt_head? {t run back : Text} (h : IsRunOf t [] run back) :
    isWordAt t.head? = true := by
  obtain ⟨c, rest, hrun⟩ := List.exists_cons_of_ne_nil h.ne_nil
  rw [h.split, hrun]
  exact h.letters c (hrun ▸ List.mem_cons_self)

/-- **A text read from the left**, a run of word characters or one other character at a time. -/
theorem wordWalk {motive : Text → Prop} (nil : motive [])
    (skip : ∀ c t, isWord c = false → motive t → motive (c :: t))
    (run : ∀ run rest, run ≠ [] → (∀ c ∈ run, isWord c = true) → isWordAt rest.head? = false →
      motive rest → motive (run ++ rest)) (t : Text) : motive t := by
  induction hlength : t.length using Nat.strong_induction_on generalizing t with
  | _ n ih =>
    subst hlength
    cases t with
    | nil => exact nil
    | cons c t =>
      cases hc : isWord c with
      | false => exact skip c t hc (ih t.length (Nat.lt_succ_self _) t rfl)
      | true =>
        have hletters : ∀ d ∈ c :: t.takeWhile isWord, isWord d = true :=
          List.forall_mem_cons.mpr ⟨hc, fun d hd => List.mem_takeWhile_imp hd⟩
        have hshorter : (t.dropWhile isWord).length < (c :: t).length :=
          Nat.lt_succ_of_le (List.dropWhile_suffix isWord).length_le
        rw [← List.takeWhile_append_dropWhile (p := isWord) (l := t), ← List.cons_append]
        exact run _ _ (List.cons_ne_nil _ _) hletters (isWordAt_dropWhile t)
          (ih _ hshorter _ rfl)

/-- **A word of a text is a run of it**, with the words before it in front and those behind it at
the back. -/
theorem exists_isRunOf {t w : Text} {before behind : List Text}
    (h : wordsIn t = before ++ w :: behind) :
    ∃ front back, IsRunOf t front w back ∧ wordsIn front = before ∧ wordsIn back = behind := by
  induction t using wordWalk generalizing before with
  | nil =>
    rw [wordsIn_nil] at h
    exact absurd h.symm (List.append_ne_nil_of_right_ne_nil _ (List.cons_ne_nil _ _))
  | skip c t hc ih =>
    rw [wordsIn_cons_break hc] at h
    obtain ⟨front, back, hrun, hfront, hback⟩ := ih h
    have hbehind : IsRunOf (c :: t) (c :: front) w back :=
      hrun.append_left (s := [c]) fun _ => hc
    exact ⟨c :: front, back, hbehind, (wordsIn_cons_break hc front).trans hfront, hback⟩
  | run run rest hne hletters hends ih =>
    rw [wordsIn_run_append hne hletters hends] at h
    cases before with
    | nil =>
      obtain ⟨rfl, hback⟩ := List.cons.inj h
      exact ⟨[], rest, ⟨rfl, hne, hletters, rfl, hends⟩, wordsIn_nil, hback⟩
    | cons first before =>
      obtain ⟨rfl, hrest⟩ := List.cons.inj h
      obtain ⟨front, back, hrun, hfront, hback⟩ := ih hrest
      -- The run has come to its end, so something stands between it and the next one.
      have hfrontNe : front ≠ [] := by
        rintro rfl
        rw [hrun.isWordAt_head?] at hends
        cases hends
      have hhead : isWordAt front.head? = false := by
        rwa [hrun.split, List.head?_append_of_ne_nil front hfrontNe] at hends
      refine ⟨_, back, hrun.append_left fun hnil => absurd hnil hfrontNe, ?_, hback⟩
      rw [wordsIn_run_append hne hletters hhead, hfront]

theorem mem_wordsIn_iff {t w : Text} : w ∈ wordsIn t ↔ ∃ front back, IsRunOf t front w back := by
  constructor
  · intro h
    obtain ⟨before, behind, hsplit⟩ := List.append_of_mem h
    obtain ⟨front, back, hrun, -⟩ := exists_isRunOf hsplit
    exact ⟨front, back, hrun⟩
  · rintro ⟨front, back, hrun⟩
    rw [hrun.wordsIn_eq]
    exact List.mem_append_right _ List.mem_cons_self

/-- **A run that starts earlier is a word of what stands before the later one.** It cannot reach
into the later run, since there is no word character before that. -/
theorem IsRunOf.mem_wordsIn_front {t front run back front' run' back' : Text}
    (h : IsRunOf t front run back) (h' : IsRunOf t front' run' back')
    (hlt : front'.length < front.length) : run' ∈ wordsIn front := by
  obtain ⟨between, rfl⟩ : front' <+: front :=
    List.prefix_of_prefix_length_le (h'.split ▸ List.prefix_append _ _)
      (h.split ▸ List.prefix_append _ _) hlt.le
  have hbetween : between ≠ [] := by
    rintro rfl
    rw [List.append_nil] at hlt
    exact Nat.lt_irrefl _ hlt
  have hstarts := h.starts
  rw [List.getLast?_append_of_ne_nil front' hbetween] at hstarts
  have hsame : run' ++ back' = between ++ (run ++ back) := by
    have htext := h'.split.symm.trans h.split
    rwa [List.append_assoc, List.append_cancel_left_eq] at htext
  rcases List.append_eq_append_iff.mp hsame with ⟨gap, rfl, hback⟩ | ⟨rest, rfl, -⟩
  · refine mem_wordsIn_iff.mpr ⟨front', gap, ⟨rfl, h'.ne_nil, h'.letters, h'.starts, ?_⟩⟩
    cases gap with
    | nil => rfl
    | cons c gap =>
      have hends := h'.ends
      rwa [hback] at hends
  · -- The last character before the later run would be one of the earlier run.
    obtain ⟨c, hlast⟩ : ∃ c, between.getLast? = some c :=
      ⟨_, List.getLast?_eq_some_getLast hbetween⟩
    have hword := h'.letters c (List.mem_append_left _ (List.mem_of_getLast? hlast))
    have hnot : isWord c = false := by
      rwa [hlast] at hstarts
    rw [hword] at hnot
    cases hnot

/-! ### Runs that are listed -/

/-- **The first run that is listed**: no listed run starts before it. -/
structure FirstListed (words : List Text) (t front run back : Text) : Prop where
  isRun : IsRunOf t front run back
  isListed : IsListed words run
  first : ∀ front' run' back', IsRunOf t front' run' back' → IsListed words run' →
    front.length ≤ front'.length

/-- The first listed word of a text is its first listed run. -/
theorem exists_firstListed {words : List Text} {t w : Text}
    (h : ((wordsIn t).find? fun w => IsListed words w) = some w) :
    ∃ front back, FirstListed words t front w back := by
  obtain ⟨hlisted, before, behind, hsplit, hbefore⟩ := List.find?_eq_some_iff_append.mp h
  obtain ⟨front, back, hrun, hfront, -⟩ := exists_isRunOf hsplit
  refine ⟨front, back, hrun, by simpa using hlisted, fun front' run' back' hrun' hlisted' => ?_⟩
  by_contra hlt
  have hmem := hrun.mem_wordsIn_front hrun' (Nat.lt_of_not_le hlt)
  rw [hfront] at hmem
  simpa [hlisted'] using hbefore run' hmem

end Text

open Text (IsWordList IsListed IsRunOf FirstListed wordsIn)

variable {v : Vocabulary}

/-- A text reads like SQL if one of its words is a keyword. -/
theorem isSql_iff (hkeywords : IsWordList v.sqlKeywords) (t : Text) :
    v.isSql t = true ↔ ∃ w ∈ wordsIn t, IsListed v.sqlKeywords w := by
  rw [Vocabulary.isSql, Text.firstWord?_eq_find? hkeywords, List.find?_isSome]
  simp only [decide_eq_true_eq]

/-- **Listed words are whole words.** With lists of words in ASCII, a text reads like SQL if and
only if one of its longest runs of word characters is a keyword when case is ignored. Its verb is
the first of the runs that is a listed verb, in capitals, or `UNKNOWN` if there is none. -/
theorem keywords_are_whole_words (v : Vocabulary) (hkeywords : IsWordList v.sqlKeywords)
    (hverbs : IsWordList v.nameVerbs) (t : Text) :
    (v.isSql t = true ↔
      ∃ front run back, IsRunOf t front run back ∧ IsListed v.sqlKeywords run) ∧
    ((∃ front run back, FirstListed v.nameVerbs t front run back ∧
        v.verbOf t = Text.upper run) ∨
      (∀ front run back, IsRunOf t front run back → ¬IsListed v.nameVerbs run) ∧
        v.verbOf t = "UNKNOWN".toList) := by
  constructor
  · rw [isSql_iff hkeywords]
    constructor
    · rintro ⟨run, hmem, hlisted⟩
      obtain ⟨front, back, hrun⟩ := Text.mem_wordsIn_iff.mp hmem
      exact ⟨front, run, back, hrun, hlisted⟩
    · rintro ⟨front, run, back, hrun, hlisted⟩
      exact ⟨run, Text.mem_wordsIn_iff.mpr ⟨front, back, hrun⟩, hlisted⟩
  · rw [verbOf_eq hverbs, Vocabulary.firstVerb]
    cases hfind : (wordsIn t).find? fun w => IsListed v.nameVerbs w with
    | some run =>
      obtain ⟨front, back, hfirst⟩ := Text.exists_firstListed hfind
      exact Or.inl ⟨front, run, back, hfirst, rfl⟩
    | none =>
      refine Or.inr ⟨fun front run back hrun hlisted => ?_, rfl⟩
      have hmem := Text.mem_wordsIn_iff.mpr ⟨front, back, hrun⟩
      exact List.find?_eq_none.mp hfind run hmem (by simpa using hlisted)

/-- A vocabulary in which one word is the front of another. -/
def settingWords : Vocabulary :=
  { sqlKeywords := ["SET", "SETS"], nameVerbs := ["SET", "SETS"] }

/-- A text that has a listed word in the end of another word, one with a long s, and one in
capitals. -/
def settingText : Text :=
  "reset ſets; SET".toList

/-- The word with the long s is a run of `settingText`, and it makes the text read like SQL. -/
theorem settingText_whole_words :
    IsWordList settingWords.sqlKeywords ∧ IsWordList settingWords.nameVerbs ∧
      IsRunOf settingText "reset ".toList "ſets".toList "; SET".toList ∧
      settingWords.isSql settingText = true ∧
      ∃ front run back, FirstListed settingWords.nameVerbs settingText front run back ∧
        settingWords.verbOf settingText = Text.upper run := by
  have hkeywords : IsWordList settingWords.sqlKeywords := by decide
  have hverbs : IsWordList settingWords.nameVerbs := by decide
  have hrun : IsRunOf settingText "reset ".toList "ſets".toList "; SET".toList :=
    ⟨by decide, by decide, by decide +kernel, by decide, by decide⟩
  have hlisted : IsListed settingWords.nameVerbs "ſets".toList := by decide +kernel
  obtain ⟨hsql, hverb⟩ := keywords_are_whole_words settingWords hkeywords hverbs settingText
  refine ⟨hkeywords, hverbs, hrun, hsql.mpr ⟨_, _, _, hrun, hlisted⟩, hverb.resolve_right ?_⟩
  rintro ⟨hnone, -⟩
  exact hnone _ _ _ hrun hlisted

end SqlInventory
