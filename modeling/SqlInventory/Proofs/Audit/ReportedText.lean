import Mathlib.Data.List.Chain
import SqlInventory.Proofs.Audit.SnippetVerb

/-!
# What is reported of a text

A finding shows a piece of text: a literal its snippet, a call its context, an undeclared variable
the context of a call. Whatever was read from the file, such a piece is on one line, has no double
quotes, is hardly longer than the limit, and would be shown as it is if it were itself read from a
file (`FitsReport`).

* `OnOneLine`, `collapse_eq_self_iff`: the texts that collapsing leaves alone are those whose only
  blanks are spaces, none of them beside another;
* `truncate_truncate`: a cut text is cut again, at the same place and with the same mark in its end;
* `fitsReport_snippet`: so a snippet is left alone by what made it. Collapsing, cutting and
  replacing quotes are done in this order, and each of the later steps keeps what an earlier one has
  brought about;
* `exists_snippet_of_mem_scanArena`: all that is shown are snippets.
-/

namespace SqlInventory

namespace Text

/-! ### Texts on one line -/

/-- **A text on one line**: its only blanks are spaces, and no two of them stand side by side. -/
structure OnOneLine (t : Text) : Prop where
  onlySpaces : ∀ c ∈ t, isBlank c = true → c = ' '
  apart : t.IsChain fun a b => ¬(a = ' ' ∧ b = ' ')

theorem onOneLine_nil : OnOneLine [] :=
  ⟨fun _ hc => absurd hc List.not_mem_nil, .nil⟩

theorem onOneLine_cons_iff {c : Char} {t : Text} :
    OnOneLine (c :: t) ↔
      (isBlank c = true → c = ' ') ∧ (c = ' ' → t.head? ≠ some ' ') ∧ OnOneLine t := by
  constructor
  · rintro ⟨honly, hapart⟩
    obtain ⟨hc, ht⟩ := List.forall_mem_cons.mp honly
    obtain ⟨hnext, hrest⟩ := List.isChain_cons.mp hapart
    exact ⟨hc, fun hspace hhead => hnext ' ' hhead ⟨hspace, rfl⟩, ht, hrest⟩
  · rintro ⟨hc, hnext, ht⟩
    refine ⟨List.forall_mem_cons.mpr ⟨hc, ht.onlySpaces⟩, List.isChain_cons.mpr ⟨?_, ht.apart⟩⟩
    rintro d hd ⟨hspace, rfl⟩
    exact hnext hspace hd

/-- Collapsing gives a text on one line, which does not start with a space if it goes on a run whose
space is written. -/
theorem onOneLine_collapseFrom (inRun : Bool) (t : Text) :
    OnOneLine (collapseFrom inRun t) ∧
      (inRun = true → (collapseFrom inRun t).head? ≠ some ' ') := by
  induction t generalizing inRun with
  | nil => exact ⟨onOneLine_nil, fun _ => (Option.some_ne_none ' ').symm⟩
  | cons c t ih =>
    rw [collapseFrom]
    by_cases hblank : isBlank c = true
    · obtain ⟨hline, hhead⟩ := ih true
      rw [if_pos hblank]
      cases inRun with
      | true => exact ⟨hline, hhead⟩
      | false =>
        exact ⟨onOneLine_cons_iff.mpr ⟨fun _ => rfl, fun _ => hhead rfl, hline⟩,
          fun h => absurd h Bool.false_ne_true⟩
    · have hspace : c ≠ ' ' := by
        rintro rfl
        exact hblank rfl
      rw [if_neg hblank]
      refine ⟨onOneLine_cons_iff.mpr ⟨fun h => absurd h hblank, fun h => absurd h hspace,
        (ih false).1⟩, fun _ h => hspace (Option.some.inj h)⟩

theorem onOneLine_collapse (t : Text) : OnOneLine (collapse t) :=
  (onOneLine_collapseFrom false t).1

theorem OnOneLine.collapseFrom_eq {t : Text} (h : OnOneLine t) (inRun : Bool)
    (hrun : inRun = true → t.head? ≠ some ' ') : collapseFrom inRun t = t := by
  induction t generalizing inRun with
  | nil => rfl
  | cons c t ih =>
    obtain ⟨hc, hnext, ht⟩ := onOneLine_cons_iff.mp h
    rw [collapseFrom]
    by_cases hblank : isBlank c = true
    · -- The blank is a space, it starts a run, and the run is over behind it.
      obtain rfl := hc hblank
      have hstarts : ¬inRun = true := fun hin => hrun hin rfl
      rw [if_pos hblank, if_neg hstarts, ih ht true fun _ => hnext rfl]
    · rw [if_neg hblank, ih ht false fun hin => absurd hin Bool.false_ne_true]

/-- **Collapsing leaves alone exactly the texts on one line.** -/
theorem collapse_eq_self_iff {t : Text} : collapse t = t ↔ OnOneLine t := by
  constructor
  · intro h
    exact h ▸ onOneLine_collapse t
  · intro h
    exact h.collapseFrom_eq false fun hin => absurd hin Bool.false_ne_true

theorem OnOneLine.take {t : Text} (h : OnOneLine t) (n : Nat) : OnOneLine (t.take n) :=
  ⟨fun c hc => h.onlySpaces c (List.mem_of_mem_take hc), h.apart.take n⟩

theorem OnOneLine.append {s t : Text} (hs : OnOneLine s) (ht : OnOneLine t)
    (hfront : t.head? ≠ some ' ') : OnOneLine (s ++ t) := by
  refine ⟨List.forall_mem_append.mpr ⟨hs.onlySpaces, ht.onlySpaces⟩,
    hs.apart.append ht.apart ?_⟩
  rintro a - b hb ⟨-, rfl⟩
  exact hfront hb

/-- A character may be replaced by one that is no blank. -/
theorem OnOneLine.replaceChar {t : Text} (h : OnOneLine t) (old : Char) {new : Char}
    (hnew : isBlank new = false) : OnOneLine (Text.replaceChar old new t) := by
  have hkept : ∀ c : Char, isBlank (if c = old then new else c) = true →
      (if c = old then new else c) = c := by
    intro c hblank
    by_cases hc : c = old
    · rw [if_pos hc, hnew] at hblank
      exact absurd hblank Bool.false_ne_true
    · exact if_neg hc
  constructor
  · intro c hc hblank
    obtain ⟨d, hd, rfl⟩ := List.mem_map.mp hc
    have hsame := hkept d hblank
    rw [hsame] at hblank ⊢
    exact h.onlySpaces d hd hblank
  · refine List.isChain_map_of_isChain _ (fun a b hab => ?_) h.apart
    rintro ⟨ha, hb⟩
    have hspace : isBlank ' ' = true := rfl
    have hsame := hkept a (ha ▸ hspace)
    have hsame' := hkept b (hb ▸ hspace)
    exact hab ⟨hsame.symm.trans ha, hsame'.symm.trans hb⟩

theorem notMem_replaceChar {old new : Char} (h : old ≠ new) (t : Text) :
    old ∉ replaceChar old new t := by
  intro hmem
  obtain ⟨c, -, hc⟩ := List.mem_map.mp hmem
  split at hc
  · exact h hc.symm
  · next hne => exact hne hc

end Text

open Text (OnOneLine)

/-! ### Texts that are cut -/

theorem truncate_natCast (t : Text) (m : Nat) :
    truncate t m = t.take m ++ if m < t.length then cutMark else [] := by
  unfold truncate
  rw [Text.upTo_natCast]
  simp only [Int.ofNat_lt]

theorem length_truncate_le (t : Text) (m : Nat) : (truncate t m).length ≤ m + 3 := by
  have hmark : (if m < t.length then cutMark else []).length ≤ 3 := by
    split
    · exact Nat.le_refl 3
    · exact Nat.zero_le 3
  rw [truncate_natCast, List.length_append]
  exact Nat.add_le_add (List.length_take_le m t) hmark

/-- **A cut text stays as it is when it is cut again.** With its mark it is longer than the limit,
so the mark is what is cut off, and it is put there anew. -/
theorem truncate_truncate (t : Text) (m : Nat) : truncate (truncate t m) m = truncate t m := by
  by_cases hcut : m < t.length
  · have hkept : (t.take m).length = m := by
      rw [List.length_take, Nat.min_eq_left hcut.le]
    have hcut' : m < (t.take m ++ cutMark).length := by
      rw [List.length_append, hkept]
      exact Nat.lt_add_of_pos_right (by decide)
    rw [truncate_natCast t, if_pos hcut, truncate_natCast, if_pos hcut', List.take_left' hkept]
  · have hshort := Nat.le_of_not_lt hcut
    have hwhole : truncate t m = t := by
      rw [truncate_natCast, if_neg hcut, List.append_nil, List.take_of_length_le hshort]
    rw [hwhole, hwhole]

/-- It does not matter whether a text is cut before or after a character is replaced that is not in
the mark. -/
theorem truncate_replaceChar {old : Char} (new : Char) (hold : old ∉ cutMark) (t : Text) (m : Nat) :
    truncate (Text.replaceChar old new t) m = Text.replaceChar old new (truncate t m) := by
  have hmark : Text.replaceChar old new cutMark = cutMark := Text.replaceChar_of_notMem hold
  rw [truncate_natCast, truncate_natCast]
  unfold Text.replaceChar at hmark ⊢
  rw [List.length_map, List.map_append, List.map_take]
  split
  · rw [hmark]
  · rfl

theorem Text.OnOneLine.truncate {t : Text} (h : OnOneLine t) (m : Nat) :
    OnOneLine (SqlInventory.truncate t m) := by
  rw [truncate_natCast]
  split
  · exact (h.take m).append ⟨by decide, by decide⟩ (by decide)
  · rw [List.append_nil]
    exact h.take m

/-! ### Snippets -/

/-- **A text that fits a report** in which `m` characters of a text are shown. -/
structure FitsReport (m : Nat) (s : Text) : Prop where
  /-- It is not longer than the limit and the mark of a cut. -/
  length_le : s.length ≤ m + 3
  /-- It has no double quote. -/
  noDoubleQuote : '"' ∉ s
  /-- Its only blanks are single spaces. -/
  onOneLine : OnOneLine s
  /-- It is shown as it is. -/
  snippet_eq : snippet s m = s

/-- **A snippet fits the report.** -/
theorem fitsReport_snippet (t : Text) (m : Nat) : FitsReport m (snippet t m) := by
  have hline : OnOneLine (snippet t m) :=
    ((Text.onOneLine_collapse t).truncate m).replaceChar '"' (by decide)
  have hquote : '"' ∉ snippet t m := Text.notMem_replaceChar (by decide) _
  have hlength : (snippet t m).length ≤ m + 3 := by
    unfold snippet Text.replaceChar
    rw [List.length_map]
    exact length_truncate_le _ m
  have hcut : truncate (snippet t m) m = snippet t m := by
    unfold snippet
    rw [truncate_replaceChar _ (by decide), truncate_truncate]
  refine ⟨hlength, hquote, hline, ?_⟩
  calc snippet (snippet t m) m
      = Text.replaceChar '"' '\'' (truncate (Text.collapse (snippet t m)) m) := rfl
    _ = Text.replaceChar '"' '\'' (truncate (snippet t m) m) := by
        rw [Text.collapse_eq_self_iff.mpr hline]
    _ = Text.replaceChar '"' '\'' (snippet t m) := by rw [hcut]
    _ = snippet t m := Text.replaceChar_of_notMem hquote

/-! ### The findings of a file -/

/-- The text that a finding shows: the snippet of a literal, or the context of a call. -/
def Finding.shownText? : Finding → Option Text
  | .literal l => some l.snippet
  | .call c => some c.context
  | .undeclared u => some u.context
  | .foreign _ => none

theorem exists_snippet_of_mem_callSites {v : Vocabulary} {content : Text} {c : CallFinding}
    (h : c ∈ callSites v content) : ∃ t, c.context = snippet t v.snippetLimit := by
  obtain ⟨m, -, rfl⟩ := List.mem_map.mp h
  exact ⟨_, rfl⟩

/-- **All that the findings of a file show are snippets**: of statements, and of the text around
calls. -/
theorem exists_snippet_of_mem_scanArena {v : Vocabulary} {content : Text} {arena : Perl.Arena}
    {f : Finding} (h : f ∈ scanArena v content arena) {s : Text} (hs : f.shownText? = some s) :
    ∃ t, s = snippet t v.snippetLimit := by
  cases f with
  | literal l =>
    obtain rfl := Option.some.inj hs
    exact ⟨l.statement, snippet_of_mem_scanArena h⟩
  | call c =>
    obtain rfl := Option.some.inj hs
    have hcall : c ∈ (scanArena v content arena).filterMap Finding.call? :=
      List.mem_filterMap.mpr ⟨_, h, rfl⟩
    rw [filterMap_call_scanArena] at hcall
    exact exists_snippet_of_mem_callSites hcall
  | undeclared u =>
    obtain rfl := Option.some.inj hs
    have hlisted : u ∈ (scanArena v content arena).filterMap Finding.undeclared? :=
      List.mem_filterMap.mpr ⟨_, h, rfl⟩
    rw [filterMap_undeclared_scanArena] at hlisted
    -- The variable is listed with the context of the first call that uses it.
    obtain ⟨use, huse, rfl⟩ := List.mem_map.mp hlisted
    have hplaced := (firstPlaced_sublist _ _).subset huse
    have hcall := ((mem_placedUses_iff _ use).mp hplaced).1
    exact exists_snippet_of_mem_callSites (List.mem_of_getElem? hcall)
  | foreign kind => cases hs

/-- **What is reported is normal and short.** Where at most `m` characters of a text are shown,
every snippet and every context among the findings of a file has at most `m + 3` characters and no
double quote, its only blanks are single spaces, and it is itself what is shown of it. -/
theorem reported_text_fits (v : Vocabulary) (m : Nat) (hm : v.snippetLimit = m) (content : Text)
    (arena : Perl.Arena) :
    ∀ f ∈ scanArena v content arena, ∀ s, f.shownText? = some s → FitsReport m s := by
  intro f hf s hs
  obtain ⟨t, rfl⟩ := exists_snippet_of_mem_scanArena hf hs
  rw [hm]
  exact fitsReport_snippet t m

/-- A vocabulary by which eight characters of a text are shown. -/
def narrowVocabulary : Vocabulary :=
  { snippetLimit := 8, contextRadius := 4 }

/-- The token of a literal with a tab, several spaces and double quotes in it. -/
def spacedToken : Perl.Token :=
  { kind := .literal, content := "'SELECT \t \"a\"'", value := some "SELECT \t \"a\"" }

/-- The tokens of an assignment of `spacedToken`. -/
def spacedArena : Perl.Arena :=
  [{ kind := .var, content := "$q" }, { kind := .operator, content := "=" }, spacedToken,
    { kind := .delimiter, content := ";" }]

/-- The file of `spacedArena`, with a call behind the assignment. -/
def spacedFile : Text :=
  "$q = ".toList ++ spacedToken.content ++ ";\n\n$h->do($q);".toList

/-- What the findings of `spacedFile` show: a literal, a call and the undeclared handle of the call,
each of them cut. -/
theorem scanArena_spacedFile :
    (scanArena narrowVocabulary spacedFile spacedArena).map Finding.shownText? =
      [some "SELECT '...".toList, some " $h->do(...".toList, some " $h->do(...".toList] := by
  have hcalls : Text.trialOrder narrowVocabulary.callVerbs = _ := trialOrder_callVerbs_default
  have hkeywords : Text.trialOrder narrowVocabulary.sqlKeywords = _ :=
    trialOrder_sqlKeywords_default
  unfold scanArena located callSites callMatches sqlLiterals literalsOf Vocabulary.isSql
  simp only [Text.firstWord?, hcalls, hkeywords]
  decide +kernel

/-- Snippet and contexts of `spacedFile` fit the report. -/
theorem spacedFile_fits :
    narrowVocabulary.snippetLimit = (8 : Nat) ∧
      (scanArena narrowVocabulary spacedFile spacedArena).map Finding.shownText? =
        [some "SELECT '...".toList, some " $h->do(...".toList, some " $h->do(...".toList] ∧
      FitsReport 8 "SELECT '...".toList ∧ FitsReport 8 " $h->do(...".toList := by
  have hfits : ∀ s, some s ∈ (scanArena narrowVocabulary spacedFile spacedArena).map
      Finding.shownText? → FitsReport 8 s := by
    intro s hs
    obtain ⟨f, hf, hshown⟩ := List.mem_map.mp hs
    exact reported_text_fits narrowVocabulary 8 rfl spacedFile spacedArena f hf s hshown
  rw [scanArena_spacedFile] at hfits ⊢
  exact ⟨rfl, rfl, hfits _ (by decide), hfits _ (by decide)⟩

end SqlInventory
