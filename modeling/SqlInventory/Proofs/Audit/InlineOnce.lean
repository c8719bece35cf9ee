import SqlInventory.Proofs.Audit.Attribution
import SqlInventory.Proofs.Text.Matching
import SqlInventory.Proofs.Text.Substring
import SqlInventory.Proofs.Text.WholeWord

/-!
# Inline SQL is reported once

A literal that is passed to a call stands in the text around the call (`rawWindow`), and the call
shows that text. If the literal is assigned to nothing, reporting it as well would report it twice.

* `exists_of_mem_callMatches`: a call is an arrow, blanks and a verb, so however long the run of
  blanks is, a window is short once blanks are collapsed (`length_collapse_rawWindow_le`) and the
  context of a call is never cut, provided that the limits leave room (`Vocabulary.ShowsWindows`);
* `contextWindow_eq`: the context of a call is then its window, shown on one line;
* `shows_of_stands`: so a literal that stands in the window is shown by the context. The literal and
  the window are prepared apart from each other, and the comparison still succeeds
  (`infix_snippet`, `Text.infix_lower`);
* `isShown_eq_false_of_mem_scanArena`: what a context shows is not reported without a target.
-/

namespace SqlInventory

open Perl

/-! ### The text around a call -/

/-- The text from `radius` characters before a match to `radius` characters behind it, as far as
there is text. -/
def rawWindow (content : Text) (radius : Nat) (m : Match Text) : Text :=
  (content.take (m.stop + radius)).drop (m.start - radius)

/-- A window is the match with at most `radius` characters on either side. -/
theorem rawWindow_eq_append (content : Text) (radius : Nat) {m : Match Text}
    (h : m.start ≤ m.stop) :
    ∃ before behind, rawWindow content radius m =
        before ++ (content.drop m.start).take (m.stop - m.start) ++ behind ∧
      before.length ≤ radius ∧ behind.length ≤ radius := by
  refine ⟨(content.drop (m.start - radius)).take (m.start - (m.start - radius)),
    (content.drop m.stop).take radius, ?_, ?_, ?_⟩
  · -- What is taken has the length of the three parts together.
    have hlength : m.stop + radius - (m.start - radius) =
        (m.start - (m.start - radius)) + (m.stop - m.start) + radius := by omega
    have hstart : m.start - radius + (m.start - (m.start - radius)) = m.start := by omega
    have hstop : m.start + (m.stop - m.start) = m.stop := by omega
    unfold rawWindow
    rw [List.drop_take, hlength, List.take_add, List.take_add, List.drop_drop, List.drop_drop,
      ← Nat.add_assoc, hstart, hstop]
  · rw [List.length_take]
    omega
  · rw [List.length_take]
    exact Nat.min_le_left _ _

/-- The stretch `found` is blanks and a verb that is as long as one of `words`. -/
def IsBlanksAndVerb (words : List Text) (found : Text) : Prop :=
  ∃ blanks verb, found = blanks ++ verb ∧ (∀ c ∈ blanks, Text.isBlank c = true) ∧
    ∃ word ∈ words, verb.length = word.length

theorem isBlanksAndVerb_of_endingWord? {ordered : List Text} {before : Option Char} {t : Text}
    {answer : Nat × Text}
    (h : (Text.endingWord? ordered before t).map (fun verb => (verb.length, verb)) =
      some answer) : IsBlanksAndVerb ordered (t.take answer.1) := by
  obtain ⟨verb, hverb, rfl⟩ := Option.map_eq_some_iff.mp h
  have hstretch := Text.isStretch_of_endingWord? hverb
  obtain ⟨word, hword, -, -, hlength⟩ := hstretch.exists_length
  exact ⟨[], verb, hstretch.take_length, by simp, word, hword, hlength⟩

/-- What is taken for a verb behind blanks is that. -/
theorem isBlanksAndVerb_of_verbBehindBlanks? {ordered : List Text} {before : Option Char}
    {t : Text} {answer : Nat × Text} (h : verbBehindBlanks? ordered before t = some answer) :
    IsBlanksAndVerb ordered (t.take answer.1) := by
  induction t generalizing before answer with
  | nil => exact isBlanksAndVerb_of_endingWord? h
  | cons c t ih =>
    rw [verbBehindBlanks?] at h
    split at h
    · next hblank =>
      -- The blank is taken if a verb follows behind it, and else the verb has to start here.
      split at h
      · next length verb hrest =>
        obtain rfl := Option.some.inj h
        obtain ⟨blanks, verb', htake, hblanks, hword⟩ := ih hrest
        refine ⟨c :: blanks, verb', congrArg (c :: ·) htake, ?_, hword⟩
        intro d hd
        rcases List.mem_cons.mp hd with rfl | hd
        · exact hblank
        · exact hblanks d hd
      · exact isBlanksAndVerb_of_endingWord? h
    · exact isBlanksAndVerb_of_endingWord? h

/-- **A call is an arrow, blanks and a verb.** -/
theorem exists_of_mem_callMatches {v : Vocabulary} {content : Text} {m : Match Text}
    (h : m ∈ callMatches v content) :
    m.start < content.length ∧ m.start < m.stop ∧
      ∃ found, (content.drop m.start).take (m.stop - m.start) = '-' :: '>' :: found ∧
        IsBlanksAndVerb (Text.trialOrder v.callVerbs) found := by
  obtain ⟨hstart, hstop, hanswer⟩ := Recogniser.answerAt_of_mem_findAll h
  obtain ⟨rest, length, hrest, htaken, hverb⟩ := callRule_eq_some_iff.mp hanswer
  refine ⟨hstart, hstop, rest.take length, ?_, isBlanksAndVerb_of_verbBehindBlanks? hverb⟩
  rw [hrest, htaken]
  rfl

/-! ### Windows that are shown whole -/

/-- **The limits leave room for the windows of calls**: with `radius` characters on either side, an
arrow, a space and a verb are not longer than what is shown. -/
structure Vocabulary.ShowsWindows (v : Vocabulary) (radius limit : Nat) : Prop where
  /-- Windows reach `radius` characters beyond a call. -/
  radius_eq : v.contextRadius = radius
  /-- At most `limit` characters are shown. -/
  limit_eq : v.snippetLimit = limit
  /-- There is room without a verb. -/
  room : 2 * radius + 3 ≤ limit
  /-- There is room for each verb. -/
  room_verb : ∀ verb ∈ v.callVerbs, 2 * radius + 3 + verb.length ≤ limit

theorem showsWindows_default : Vocabulary.ShowsWindows {} 40 200 where
  radius_eq := rfl
  limit_eq := rfl
  room := by decide
  room_verb := by decide

variable {v : Vocabulary} {radius limit : Nat} {content : Text} {m : Match Text}

/-- **Blanks in a call take no room**: a window with its blanks collapsed is within the limit, whatever
the number of blanks between arrow and verb. -/
theorem length_collapse_rawWindow_le (hv : v.ShowsWindows radius limit)
    (hm : m ∈ callMatches v content) :
    (Text.collapse (rawWindow content radius m)).length ≤ limit := by
  obtain ⟨-, hstop, found, htake, blanks, verb, rfl, hblanks, word, hword, hlength⟩ :=
    exists_of_mem_callMatches hm
  obtain ⟨before, behind, hwindow, hbefore, hbehind⟩ :=
    rawWindow_eq_append content radius hstop.le
  -- Where the vocabulary has no verbs, the empty word is tried as one.
  have hverb : 2 * radius + 3 + verb.length ≤ limit := by
    rcases Text.mem_or_eq_nil_of_mem_trialOrder hword with hlisted | rfl
    · rw [hlength]
      exact hv.room_verb word hlisted
    · rw [hlength, List.length_nil, Nat.add_zero]
      exact hv.room
  rw [hwindow, htake]
  calc (Text.collapse (before ++ '-' :: '>' :: (blanks ++ verb) ++ behind)).length
      = (Text.collapse (before ++ (['-', '>'] ++ (blanks ++ (verb ++ behind))))).length := by simp
    _ ≤ (Text.collapse before).length + ((Text.collapse ['-', '>']).length +
          ((Text.collapse blanks).length + ((Text.collapse verb).length +
            (Text.collapse behind).length))) := by
        refine (Text.length_collapse_append_le _ _).trans (Nat.add_le_add_left ?_ _)
        refine (Text.length_collapse_append_le _ _).trans (Nat.add_le_add_left ?_ _)
        refine (Text.length_collapse_append_le _ _).trans (Nat.add_le_add_left ?_ _)
        exact Text.length_collapse_append_le _ _
    _ ≤ radius + (2 + (1 + (verb.length + radius))) := by
        refine Nat.add_le_add ((Text.length_collapse_le _).trans hbefore) ?_
        refine Nat.add_le_add (Text.length_collapse_le _) ?_
        refine Nat.add_le_add (Text.length_collapse_of_isBlank hblanks) ?_
        exact Nat.add_le_add (Text.length_collapse_le _)
          ((Text.length_collapse_le _).trans hbehind)
    _ ≤ limit := by omega

/-- The context of a call is its window as shown. -/
theorem contextWindow_eq (hv : v.ShowsWindows radius limit) (hm : m ∈ callMatches v content) :
    contextWindow v content m.start m.stop = snippet (rawWindow content radius m) limit := by
  obtain ⟨hstart, hstop, -⟩ := exists_of_mem_callMatches hm
  -- Both ends are within the text, so that neither counts from the back.
  have hlow : Text.position content (max ((m.start : Int) - radius) 0) = m.start - radius := by
    unfold Text.position
    rw [if_neg (by omega)]
    omega
  have hhigh : Text.position content (min ((m.stop : Int) + radius) content.length) =
      min (m.stop + radius) content.length := by
    unfold Text.position
    rw [if_neg (by omega)]
    omega
  unfold contextWindow Text.between rawWindow
  simp only [hv.radius_eq, hv.limit_eq, hlow, hhigh]
  rw [← List.drop_take, ← List.take_eq_take_min]

/-- The window of a call is not empty, and so the call is among those that are searched. -/
theorem contextWindow_mem_callContexts (hv : v.ShowsWindows radius limit)
    (hm : m ∈ callMatches v content) (arena : Arena) :
    snippet (rawWindow content radius m) limit ∈ callContexts (located v content arena) := by
  have hne : snippet (rawWindow content radius m) limit ≠ [] := by
    obtain ⟨-, hstop, found, htake, -⟩ := exists_of_mem_callMatches hm
    obtain ⟨before, behind, hwindow, -, -⟩ := rawWindow_eq_append content radius hstop.le
    have harrow : ['-'] <:+: rawWindow content radius m := by
      rw [hwindow, htake]
      exact ⟨before, '>' :: found ++ behind, by simp⟩
    rw [snippet_of_length_le (length_collapse_rawWindow_le hv hm)]
    intro hnil
    have hshown := Text.infix_collapse harrow
    rw [List.map_eq_nil_iff.mp hnil] at hshown
    exact absurd (List.infix_nil.mp hshown) (by decide)
  have hcall : Finding.call (callFinding v content m) ∈ located v content arena :=
    List.mem_append_right _ (List.mem_map_of_mem (List.mem_map_of_mem hm))
  refine List.mem_filterMap.mpr ⟨_, hcall, ?_⟩
  have hcontext : (callFinding v content m).context = snippet (rawWindow content radius m) limit :=
    contextWindow_eq hv hm
  simp only [hcontext, List.isEmpty_iff, hne, if_false]

/-! ### Literals that are shown -/

/-- **A literal that stands in the window of a call is shown by its context**, if there is no capital
sigma in it. -/
theorem shows_of_stands (hv : v.ShowsWindows radius limit) (hm : m ∈ callMatches v content)
    {statement : Text} (hsigma : 'Σ' ∉ statement)
    (hin : statement <:+: rawWindow content radius m) :
    shows (snippet statement limit) (snippet (rawWindow content radius m) limit) = true := by
  -- Neither text is cut: the window fits, and the literal is not longer than the window.
  have hfits := length_collapse_rawWindow_le hv hm
  have hshort := (Text.infix_collapse hin).length_le.trans hfits
  unfold shows
  rw [Bool.or_eq_true_iff, Text.occursIn_iff]
  right
  exact Text.infix_lower (sigma_notMem_snippet hsigma hshort) (infix_snippet hin hfits)

/-- A literal that is located is that of a token. -/
theorem exists_token_of_mem_sqlLiterals {arena : Arena} {l : LiteralFinding}
    (h : l ∈ sqlLiterals v arena) :
    ∃ t ∈ arena, l.statement = t.text ∧ l.snippet = snippet t.text v.snippetLimit := by
  have hform : ∀ kind form, l ∈ literalsOf v arena kind form →
      ∃ t ∈ arena, l.statement = t.text ∧ l.snippet = snippet t.text v.snippetLimit := by
    intro kind form hmem
    obtain ⟨⟨t, i⟩, hplace, hl⟩ := List.mem_filterMap.mp hmem
    have ht : t ∈ arena := List.fst_mem_of_mem_zipIdx (List.mem_of_mem_filter hplace)
    simp only [Option.ite_none_right_eq_some, Option.some.injEq] at hl
    rw [← hl.2]
    exact ⟨t, ht, rfl, rfl⟩
  rcases List.mem_append.mp h with h | h
  · exact hform _ _ h
  · exact hform _ _ h

/-- Of an arena with one quoted literal, which reads like SQL, that literal is located. -/
theorem sqlLiterals_of_single {arena : Arena} {t : Token} {i : Nat}
    (htokens : arena.ofKind .literal = [(t, i)]) (hheredocs : arena.ofKind .heredoc = [])
    (hsql : v.isSql t.text = true) :
    sqlLiterals v arena = [literalFinding v arena .string t i] := by
  unfold sqlLiterals literalsOf
  rw [htokens, hheredocs]
  simp [hsql]

/-- Whether a context shows a finding does not depend on its name. -/
theorem isShown_named (contexts : List Text) (v : Vocabulary) (f : Finding) :
    isShown contexts (f.named v) = isShown contexts f := by
  cases f with
  | literal l => simp only [Finding.named, isShown, target_named, snippet_named]
  | call c => rfl
  | undeclared u => rfl
  | foreign kind => rfl

/-- **What is shown is not reported**: of the findings of a file, none is a literal without a target
that the context of a call shows. -/
theorem isShown_eq_false_of_mem_scanArena {arena : Arena} {f : Finding}
    (h : f ∈ scanArena v content arena) :
    isShown (callContexts (located v content arena)) f = false := by
  rw [scanArena_eq] at h
  rcases List.mem_append.mp h with h | h
  · unfold keptFindings at h
    rw [nameFindings_eq_map] at h
    obtain ⟨kept, hkept, rfl⟩ := List.mem_map.mp h
    have hnot := (List.mem_filter.mp hkept).2
    rw [isShown_named]
    simpa using hnot
  · obtain ⟨u, -, rfl⟩ := List.mem_map.mp h
    rfl

/-- **Inline SQL is reported once.** With the usual vocabulary, a literal without a target among the
findings of a file does not stand in the text around any call, from forty characters before the call
to forty characters behind it, if no token has a capital sigma in its text. -/
theorem inline_sql_reported_once (content : Text) (arena : Arena)
    (hsigma : ∀ t ∈ arena, 'Σ' ∉ t.text) (l : LiteralFinding)
    (hl : Finding.literal l ∈ scanArena {} content arena) (htarget : l.target = none)
    (m : Match Text) (hm : m ∈ callMatches {} content) :
    ¬l.statement <:+: rawWindow content 40 m := by
  intro hin
  -- The literal was located at a token and then named, and a name does not change what it says.
  obtain ⟨l₀, hl₀, rfl⟩ := exists_of_literal_mem_scanArena hl
  obtain ⟨t, ht, hstatement, hsnippet⟩ := exists_token_of_mem_sqlLiterals hl₀
  rw [statement_named, hstatement] at hin
  have hshows : shows (l₀.named {}).snippet (snippet (rawWindow content 40 m) 200) = true := by
    rw [snippet_named, hsnippet]
    exact shows_of_stands showsWindows_default hm (hsigma t ht) hin
  have hshown : isShown (callContexts (located {} content arena)) (.literal (l₀.named {})) =
      true := by
    simp only [isShown, htarget, Option.isNone_none, Bool.true_and]
    exact List.any_eq_true.mpr
      ⟨_, contextWindow_mem_callContexts showsWindows_default hm arena, hshows⟩
  rw [isShown_eq_false_of_mem_scanArena hl] at hshown
  cases hshown

/-- A literal that is assigned to nothing, and a call that is too far behind it to show it. -/
def farCall : Text :=
  "warn 'SELECT 1';".toList ++ Text.fill 40 ' ' ++ "$dbh-> do($q);".toList

/-- The token of the literal in `farCall`. -/
def farToken : Token :=
  { kind := .literal, content := "'SELECT 1'", value := some "SELECT 1" }

/-- The tokens of the first statement of `farCall`. -/
def farCallArena : Arena :=
  [{ kind := .word, content := "warn" }, farToken, { kind := .delimiter, content := ";" }]

/-- What is reported for `farToken`. -/
def farLiteral : LiteralFinding :=
  { form := .string, line := some 1, snippet := "SELECT 1", statement := "SELECT 1" }

theorem callMatches_farCall : callMatches {} farCall = [⟨60, 65, "do".toList⟩] := by
  unfold callMatches
  rw [trialOrder_callVerbs_default]
  decide +kernel

theorem sqlLiterals_farCallArena : sqlLiterals {} farCallArena = [farLiteral] := by
  have hsql : Vocabulary.isSql {} farToken.text = true := by
    unfold Vocabulary.isSql Text.firstWord?
    rw [trialOrder_sqlKeywords_default]
    decide +kernel
  have htokens : farCallArena.ofKind .literal = [(farToken, 1)] := by decide
  rw [sqlLiterals_of_single htokens (by decide) hsql]
  rfl

theorem farLiteral_mem_scanArena :
    Finding.literal farLiteral ∈ scanArena {} farCall farCallArena := by
  rw [scanArena_eq]
  refine List.mem_append_left _ ?_
  unfold keptFindings located callSites
  rw [sqlLiterals_farCallArena, callMatches_farCall]
  decide

/-- The literal of `farCall` is reported, and it is not in the text around the call. -/
theorem farCall_reported_once :
    (∀ t ∈ farCallArena, 'Σ' ∉ t.text) ∧
      Finding.literal farLiteral ∈ scanArena {} farCall farCallArena ∧ farLiteral.target = none ∧
      ⟨60, 65, "do".toList⟩ ∈ callMatches {} farCall ∧
      ¬farLiteral.statement <:+: rawWindow farCall 40 ⟨60, 65, "do".toList⟩ := by
  have hsigma : ∀ t ∈ farCallArena, 'Σ' ∉ t.text := by decide
  have hcall : ⟨60, 65, "do".toList⟩ ∈ callMatches {} farCall := by
    rw [callMatches_farCall]
    exact List.mem_singleton_self _
  exact ⟨hsigma, farLiteral_mem_scanArena, rfl, hcall,
    inline_sql_reported_once farCall farCallArena hsigma farLiteral farLiteral_mem_scanArena rfl _
      hcall⟩

end SqlInventory
