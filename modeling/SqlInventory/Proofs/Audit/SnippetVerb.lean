import SqlInventory.Proofs.Audit.InlineOnce
import SqlInventory.Proofs.Audit.ListedVerbs
import SqlInventory.Proofs.Text.Words

/-!
# The verb of a snippet and the verb of its statement

A name tells the first verb of a snippet, and a snippet may be cut. What is shown has the words of
what is kept (`wordsIn_snippet`): the mark of a cut and the quotes that are replaced belong to no
word. So a cut takes verbs off the end and brings in none, with one exception: it may go through a
word that starts with a verb, and then the verb is all that is left of the word (`CutLeavesVerb`).

* `verbOf_eq`: the verb of a text is the first of its words that is listed;
* `verbOf_snippet_of_cutLeavesVerb` and `verbOf_snippet_of_not_cutLeavesVerb`: the verb of a snippet
  in the two cases;
* `snippet_keeps_verb_or_cuts_word` says it of snippets and of the names in a file.

`cut_brings_in_verb` is a file with a statement of no verb and a verb in its name.
-/

namespace SqlInventory

open Text (wordsIn IsWordList IsListed CutsWord)

variable {v : Vocabulary}

/-! ### The words of a snippet -/

theorem wordsIn_append_cutMark (t : Text) : wordsIn (t ++ cutMark) = wordsIn t := by
  have hnone : wordsIn cutMark = [] := Text.wordsIn_of_forall_break (by decide)
  rw [Text.wordsIn_append (by decide), hnone, List.append_nil]

/-- **A snippet has the words of what is kept of the text.** -/
theorem wordsIn_snippet (t : Text) (limit : Nat) :
    wordsIn (snippet t limit) = wordsIn ((Text.collapse t).take limit) := by
  unfold snippet truncate
  rw [Text.wordsIn_replaceChar (by decide) (by decide), Text.upTo_natCast]
  split
  · exact wordsIn_append_cutMark _
  · rw [List.append_nil]

theorem wordsIn_snippet_of_length_le {t : Text} {limit : Nat}
    (h : (Text.collapse t).length ≤ limit) : wordsIn (snippet t limit) = wordsIn t := by
  rw [wordsIn_snippet, List.take_of_length_le h, Text.wordsIn_collapse]

/-! ### The verb of a text -/

/-- The first of some words that is listed, in capitals, or `UNKNOWN`. -/
def Vocabulary.firstVerb (v : Vocabulary) (words : List Text) : Text :=
  (words.find? fun w => IsListed v.nameVerbs w).elim "UNKNOWN" Text.upper

/-- **The verb of a text** is the first of its words that is listed. -/
theorem verbOf_eq (hverbs : IsWordList v.nameVerbs) (t : Text) :
    v.verbOf t = v.firstVerb (wordsIn t) := by
  unfold Vocabulary.verbOf Vocabulary.firstVerb
  rw [Text.firstWord?_eq_find? hverbs]
  cases (wordsIn t).find? fun w => IsListed v.nameVerbs w with
  | none => rfl
  | some w => rfl

/-- Words behind a listed one do not matter. -/
theorem firstVerb_append_of_exists {words : List Text} (h : ∃ w ∈ words, IsListed v.nameVerbs w)
    (more : List Text) : v.firstVerb (words ++ more) = v.firstVerb words := by
  obtain ⟨w, hw, hlisted⟩ := h
  have hsome : (words.find? fun w => IsListed v.nameVerbs w).isSome = true :=
    List.find?_isSome.mpr ⟨w, hw, by simpa using hlisted⟩
  obtain ⟨first, hfirst⟩ := Option.isSome_iff_exists.mp hsome
  rw [Vocabulary.firstVerb, Vocabulary.firstVerb, List.find?_append, hfirst, Option.some_or]

/-- Words that are not listed do not matter. -/
theorem firstVerb_append_of_forall_not {words : List Text}
    (h : ∀ w ∈ words, ¬IsListed v.nameVerbs w) (more : List Text) :
    v.firstVerb (words ++ more) = v.firstVerb more := by
  have hnone : (words.find? fun w => IsListed v.nameVerbs w) = none :=
    List.find?_eq_none.mpr fun w hw => by simpa using h w hw
  rw [Vocabulary.firstVerb, Vocabulary.firstVerb, List.find?_append, hnone, Option.none_or]

theorem firstVerb_of_forall_not {words : List Text} (h : ∀ w ∈ words, ¬IsListed v.nameVerbs w) :
    v.firstVerb words = "UNKNOWN".toList := by
  have hrest := firstVerb_append_of_forall_not h []
  rw [List.append_nil] at hrest
  exact hrest

/-- Without the last words, the first verb stays or there is none. -/
theorem firstVerb_of_prefix {kept words : List Text} (h : kept <+: words) :
    v.firstVerb kept = v.firstVerb words ∨ v.firstVerb kept = "UNKNOWN".toList := by
  obtain ⟨more, rfl⟩ := h
  by_cases hlisted : ∃ w ∈ kept, IsListed v.nameVerbs w
  · exact Or.inl (firstVerb_append_of_exists hlisted more).symm
  · push Not at hlisted
    exact Or.inr (firstVerb_of_forall_not hlisted)

/-! ### The verb of a snippet -/

/-- **A cut leaves a verb of a longer word**: with its blanks collapsed the text is cut to `limit`
characters within a word, what is left of the word is the verb `part`, and there is no verb before
it. -/
def CutLeavesVerb (verbs : List Text) (t : Text) (limit : Nat) (part : Text) : Prop :=
  ∃ front behind, Text.collapse t = front ++ part ++ behind ∧ (front ++ part).length = limit ∧
    CutsWord front part behind ∧ IsListed verbs part ∧ ∀ w ∈ wordsIn front, ¬IsListed verbs w

theorem verbOf_snippet_of_length_le (hverbs : IsWordList v.nameVerbs) {t : Text} {limit : Nat}
    (h : (Text.collapse t).length ≤ limit) : v.verbOf (snippet t limit) = v.verbOf t := by
  rw [verbOf_eq hverbs, verbOf_eq hverbs, wordsIn_snippet_of_length_le h]

/-- Where a cut leaves a verb of a longer word, that is the verb of the snippet. -/
theorem verbOf_snippet_of_cutLeavesVerb (hverbs : IsWordList v.nameVerbs) {t part : Text}
    {limit : Nat} (h : CutLeavesVerb v.nameVerbs t limit part) :
    v.verbOf (snippet t limit) = Text.upper part := by
  obtain ⟨front, behind, hsplit, hlength, hcut, hlisted, hfront⟩ := h
  have hkept : (Text.collapse t).take limit = front ++ part := by
    rw [hsplit, ← hlength, List.take_left]
  have hfirst : ([part].find? fun w => IsListed v.nameVerbs w) = some part :=
    List.find?_cons_of_pos (by simpa using hlisted)
  rw [verbOf_eq hverbs, wordsIn_snippet, hkept, hcut.wordsIn_kept (hverbs.ne_nil hlisted),
    firstVerb_append_of_forall_not hfront, Vocabulary.firstVerb, hfirst]
  rfl

/-- **Otherwise the verb is kept or lost.** -/
theorem verbOf_snippet_of_not_cutLeavesVerb (hverbs : IsWordList v.nameVerbs) {t : Text}
    {limit : Nat} (h : ∀ part, ¬CutLeavesVerb v.nameVerbs t limit part) :
    v.verbOf (snippet t limit) = v.verbOf t ∨ v.verbOf (snippet t limit) = "UNKNOWN".toList := by
  have hsplit := List.take_append_drop limit (Text.collapse t)
  rw [verbOf_eq hverbs, verbOf_eq hverbs, wordsIn_snippet, ← Text.wordsIn_collapse t]
  rcases Text.wordsIn_prefix_or_cutsWord ((Text.collapse t).take limit)
    ((Text.collapse t).drop limit) with hprefix | ⟨front, part, hkept, hne, hcut⟩
  · rw [hsplit] at hprefix
    exact firstVerb_of_prefix hprefix
  · rw [hkept] at hsplit
    -- There is something behind the cut, so what is kept has `limit` characters.
    have hlength : (front ++ part).length = limit := by
      rw [← hkept, List.length_take, Nat.min_eq_left]
      refine Nat.le_of_not_lt fun hshort => ?_
      have hgoesOn := hcut.goesOn
      rw [List.drop_of_length_le hshort.le] at hgoesOn
      cases hgoesOn
    rw [hkept, hcut.wordsIn_kept hne]
    by_cases hfront : ∃ w ∈ wordsIn front, IsListed v.nameVerbs w
    · left
      rw [← hsplit, List.append_assoc, Text.wordsIn_append_of_getLast? hcut.starts,
        firstVerb_append_of_exists hfront, firstVerb_append_of_exists hfront]
    · right
      push Not at hfront
      rw [firstVerb_append_of_forall_not hfront]
      refine firstVerb_of_forall_not fun w hw hlisted => ?_
      obtain rfl := List.mem_singleton.mp hw
      exact h w ⟨front, _, hsplit.symm, hlength, hcut, hlisted, hfront⟩

/-! ### Names -/

theorem snippet_of_mem_scanArena {content : Text} {arena : Perl.Arena} {l : LiteralFinding}
    (h : Finding.literal l ∈ scanArena v content arena) :
    l.snippet = snippet l.statement v.snippetLimit := by
  obtain ⟨l₀, hl₀, rfl⟩ := exists_of_literal_mem_scanArena h
  obtain ⟨t, -, hstatement, hsnippet⟩ := exists_token_of_mem_sqlLiterals hl₀
  rw [snippet_named, statement_named, hstatement, hsnippet]

theorem isWordList_nameVerbs_default : IsWordList ({} : Vocabulary).nameVerbs := by
  decide

/-- **A cut keeps the verb, loses it, or leaves one of a longer word**, with the default verbs. A
text that fits the limit when its blanks are collapsed keeps its verb. If the cut leaves a verb of a
longer word, and no verb comes before it, then that is the verb of the snippet; in all other cases
the verb is that of the text or there is none. So the verb in a name, which is that of the snippet,
is that of the whole statement, or `UNKNOWN`, or what such a cut leaves. -/
theorem snippet_keeps_verb_or_cuts_word (limit : Nat) :
    (∀ t : Text,
      ((Text.collapse t).length ≤ limit →
        Vocabulary.verbOf {} (snippet t limit) = Vocabulary.verbOf {} t) ∧
      (∀ part, CutLeavesVerb ({} : Vocabulary).nameVerbs t limit part →
        Vocabulary.verbOf {} (snippet t limit) = Text.upper part) ∧
      ((∀ part, ¬CutLeavesVerb ({} : Vocabulary).nameVerbs t limit part) →
        Vocabulary.verbOf {} (snippet t limit) = Vocabulary.verbOf {} t ∨
          Vocabulary.verbOf {} (snippet t limit) = "UNKNOWN".toList)) ∧
    ∀ content arena l name,
      Finding.literal l ∈ scanArena { snippetLimit := limit } content arena → l.name = some name →
      ∃ target verb, l.target = some target ∧
        name = bareVariable target ++ '_' :: (linePart l.line ++ '_' :: verb) ∧
        verb = Vocabulary.verbOf {} (snippet l.statement limit) ∧
        (verb = Vocabulary.verbOf {} l.statement ∨ verb = "UNKNOWN".toList ∨
          ∃ part, CutLeavesVerb ({} : Vocabulary).nameVerbs l.statement limit part ∧
            verb = Text.upper part) := by
  have hverbs := isWordList_nameVerbs_default
  constructor
  · intro t
    exact ⟨verbOf_snippet_of_length_le hverbs,
      fun part hcut => verbOf_snippet_of_cutLeavesVerb hverbs hcut,
      verbOf_snippet_of_not_cutLeavesVerb hverbs⟩
  · intro content arena l name hl hname
    obtain ⟨target, htarget, rfl⟩ := name_of_mem_scanArena hl hname
    rw [snippet_of_mem_scanArena hl]
    refine ⟨target, _, htarget, rfl, rfl, ?_⟩
    by_cases hcut : ∃ part, CutLeavesVerb ({} : Vocabulary).nameVerbs l.statement limit part
    · obtain ⟨part, hpart⟩ := hcut
      exact Or.inr (Or.inr ⟨part, hpart, verbOf_snippet_of_cutLeavesVerb hverbs hpart⟩)
    · push Not at hcut
      rcases verbOf_snippet_of_not_cutLeavesVerb hverbs hcut with hkept | hlost
      · exact Or.inl hkept
      · exact Or.inr (Or.inl hlost)

/-- A statement that has no verb, and a longer word in the place where a snippet of it is cut. -/
def longStatement : Text :=
  Text.fill 195 'x' ++ " DROPPED FROM t".toList

/-- What is shown of `longStatement`. -/
def longSnippet : Text :=
  Text.fill 195 'x' ++ " DROP...".toList

/-- The token of a literal that says `longStatement`. -/
def longToken : Perl.Token :=
  { kind := .literal, content := '"' :: longStatement ++ ['"'], value := some longStatement }

/-- The tokens of an assignment of `longToken`. -/
def longArena : Perl.Arena :=
  [{ kind := .var, content := "$q" }, { kind := .operator, content := "=" }, longToken,
    { kind := .delimiter, content := ";" }]

/-- What is reported for `longToken`, before it has a name. -/
def longLiteral : LiteralFinding :=
  { form := .string, line := some 1, snippet := longSnippet, target := some "$q"
    statement := longStatement }

/-- The file of `longArena`. -/
def longFile : Text :=
  "$q = ".toList ++ longToken.content ++ [';']

/-- What is looked for in `longFile` and what is found. -/
theorem longFile_searched :
    callMatches {} longFile = [] ∧ Vocabulary.isSql {} longToken.text = true ∧
      snippet longStatement 200 = longSnippet ∧
      Vocabulary.verbOf {} longSnippet = "DROP".toList ∧
      Vocabulary.verbOf {} longStatement = "UNKNOWN".toList ∧
      literalFinding {} longArena .string longToken 2 = longLiteral := by
  unfold callMatches Vocabulary.isSql Vocabulary.verbOf Text.firstWord?
  rw [trialOrder_callVerbs_default, trialOrder_sqlKeywords_default, trialOrder_nameVerbs_default]
  decide +kernel

theorem sqlLiterals_longArena : sqlLiterals {} longArena = [longLiteral] := by
  obtain ⟨-, hsql, -, -, -, hliteral⟩ := longFile_searched
  have htokens : longArena.ofKind .literal = [(longToken, 2)] := by decide +kernel
  rw [sqlLiterals_of_single htokens (by decide +kernel) hsql, hliteral]

/-- **A cut brings in a verb.** The statement has none, and the name of its literal ends in one. -/
theorem cut_brings_in_verb :
    ∃ l, Finding.literal l ∈ scanArena {} longFile longArena ∧ l.statement = longStatement ∧
      Vocabulary.verbOf {} l.statement = "UNKNOWN".toList ∧
      Vocabulary.verbOf {} (snippet l.statement 200) = "DROP".toList ∧
      l.name = some "q_1_DROP".toList := by
  obtain ⟨hcalls, -, hsnippet, hshown, hstatement, -⟩ := longFile_searched
  have hkept : keptFindings {} longFile longArena = [.literal (longLiteral.named {})] := by
    unfold keptFindings located callSites
    rw [sqlLiterals_longArena, hcalls]
    rfl
  refine ⟨longLiteral.named {}, ?_, ?_, ?_, ?_, ?_⟩
  · rw [scanArena_eq, hkept]
    exact List.mem_append_left _ List.mem_cons_self
  · rw [statement_named]
    rfl
  · rw [statement_named]
    exact hstatement
  · rw [statement_named]
    exact (congrArg _ hsnippet).trans hshown
  · change some (nameOf {} "$q" (some 1) longSnippet) = _
    unfold nameOf
    rw [hshown]
    decide

end SqlInventory
