import SqlInventory.Proofs.Audit.InlineOnce
import SqlInventory.Proofs.Audit.UndeclaredUses
import SqlInventory.Proofs.Catalog.DistinctIds

/-!
# Verbs and the lists they come from

A verb is looked for with case ignored and reported in one case: the method of a call in small
letters, the verb in a name in capitals. The report is the listed verb again, unless a letter of the
text counts as a letter of the verb and yet does not become that letter. For the default lists there is
one such letter in each case: the long s stays as it is in small letters, and the capital i with a dot
stays as it is in capitals.

* `KeepsLetter`, `IsStretch.flatMap_listed`: if every letter of the listed words comes out as itself but
  for one stray letter, then so does every word that is found;
* `verb_of_mem_callMatches`, `verbOf_default`: what is reported for calls and in names;
* `verbs_listed_iff` says it of the findings of a file.

`stray_letters_leave_lists` is a file in which both letters occur.
-/

namespace SqlInventory

namespace Text

/-! ### Words in one case -/

/-- **Under `f` a letter comes out as itself**, however it is written, unless it is written as the stray
letter, which stays as it is and stands for the letter `plain`. -/
def KeepsLetter (f : Char → Text) (stray plain a : Char) : Prop :=
  a ≠ stray ∧ ∀ c, sameLetter a c = true →
    (c ≠ stray ∧ f c = [a]) ∨ (c = stray ∧ a = plain ∧ f c = [stray])

/-- For words in ASCII there is little to look at: that `f` does not see the case of ASCII letters,
and, once for each letter of the words, the letter itself and the stray letters that count as it. -/
theorem keepsLetter_of_table {f : Char → Text} {stray plain : Char} {words : List Text}
    (hcase : ∀ n < 128, f (lowerChar (Char.ofNat n)) = f (Char.ofNat n))
    (hfar : 128 ≤ stray.toNat)
    (htable : ∀ a ∈ words.flatten.eraseDups, a.toNat < 128 ∧ f a = [a] ∧
      ∀ c ∈ strayLetters, sameLetter a c = true →
        (c ≠ stray ∧ f c = [a]) ∨ (c = stray ∧ a = plain ∧ f c = [stray]))
    {word : Text} (hword : word ∈ words) {a : Char} (ha : a ∈ word) :
    a.toNat < 128 ∧ KeepsLetter f stray plain a := by
  have hmem : a ∈ words.flatten.eraseDups :=
    List.mem_eraseDups.mpr (List.mem_flatten.mpr ⟨word, hword, ha⟩)
  obtain ⟨hascii, hself, hstray⟩ := htable a hmem
  have hne : ∀ d : Char, d.toNat < 128 → d ≠ stray := by
    rintro d hd rfl
    omega
  refine ⟨hascii, hne a hascii, fun c hsame => ?_⟩
  have hsmall : ∀ d : Char, d.toNat < 128 → f (lowerChar d) = f d := by
    intro d hd
    have := hcase d.toNat hd
    rwa [Char.ofNat_toNat] at this
  by_cases hc : c.toNat < 128
  · refine Or.inl ⟨hne c hc, ?_⟩
    calc f c = f (lowerChar c) := (hsmall c hc).symm
      _ = f (lowerChar a) := by rw [lowerChar_eq_of_sameLetter hascii hc hsame]
      _ = f a := hsmall a hascii
      _ = [a] := hself
  · exact hstray c (mem_strayLetters_of_sameLetter hascii hc hsame) hsame

/-- A stretch that is `word` when case is ignored comes out as `word`, but for stray letters. -/
theorem replaceChar_flatMap_take {f : Char → Text} {stray plain : Char} {word t : Text}
    (hword : ∀ a ∈ word, KeepsLetter f stray plain a) (h : isFrontOf word t = true) :
    replaceChar stray plain ((t.take word.length).flatMap f) = word := by
  induction word generalizing t with
  | nil => rfl
  | cons a word ih =>
    cases t with
    | nil => cases h
    | cons c t =>
      obtain ⟨hsame, hrest⟩ := Bool.and_eq_true_iff.mp h
      obtain ⟨hne, hletter⟩ := hword a List.mem_cons_self
      -- Whichever way the first letter is written, it is the listed one after the replacement.
      have hfirst : replaceChar stray plain (f c) = [a] := by
        rcases hletter c hsame with ⟨-, heq⟩ | ⟨-, rfl, heq⟩
        · rw [heq]
          exact congrArg (fun x => [x]) (if_neg hne)
        · rw [heq]
          exact congrArg (fun x => [x]) (if_pos rfl)
      have htail := ih (fun b hb => hword b (List.mem_cons_of_mem a hb)) hrest
      unfold replaceChar at hfirst htail ⊢
      rw [List.length_cons, List.take_succ_cons, List.flatMap_cons, List.map_append, hfirst, htail]
      rfl

/-- The stray letter comes out if and only if it is there. -/
theorem mem_flatMap_take_iff {f : Char → Text} {stray plain : Char} {word t : Text}
    (hword : ∀ a ∈ word, KeepsLetter f stray plain a) (h : isFrontOf word t = true) :
    stray ∈ (t.take word.length).flatMap f ↔ stray ∈ t.take word.length := by
  have hletters : ∀ c ∈ t.take word.length, (stray ∈ f c ↔ stray = c) := by
    refine forall_mem_take_of_isFrontOf (fun a ha c hsame => ?_) h
    obtain ⟨hne, hletter⟩ := hword a ha
    rcases hletter c hsame with ⟨hother, heq⟩ | ⟨rfl, -, heq⟩
    · rw [heq, List.mem_singleton]
      exact iff_of_false (Ne.symm hne) (Ne.symm hother)
    · rw [heq, List.mem_singleton]
  rw [List.mem_flatMap]
  constructor
  · rintro ⟨c, hc, hmem⟩
    rwa [(hletters c hc).mp hmem]
  · intro hmem
    exact ⟨stray, hmem, (hletters stray hmem).mpr rfl⟩

theorem replaceChar_of_notMem {old new : Char} {t : Text} (h : old ∉ t) :
    replaceChar old new t = t := by
  unfold replaceChar
  refine (List.map_congr_left fun c hc => if_neg ?_).trans (List.map_id t)
  rintro rfl
  exact h hc

/-- A text that is listed but for stray letters is listed if and only if it has none. -/
theorem mem_iff_of_replaceChar_mem {stray plain : Char} {words : List Text} {s : Text}
    (hwords : ∀ word ∈ words, stray ∉ word) (h : replaceChar stray plain s ∈ words) :
    s ∈ words ↔ stray ∉ s := by
  refine ⟨hwords s, fun hstray => ?_⟩
  rwa [replaceChar_of_notMem hstray] at h

/-- **What is found of a list comes out listed, but for stray letters**, and a stray letter comes out if
and only if it was there. -/
theorem IsStretch.flatMap_listed {f : Char → Text} {stray plain : Char} {words : List Text}
    (hwords : words ≠ []) (hletters : ∀ word ∈ words, ∀ a ∈ word, KeepsLetter f stray plain a)
    {t found : Text} (h : IsStretch (trialOrder words) t found) :
    replaceChar stray plain (found.flatMap f) ∈ words ∧
      (stray ∈ found.flatMap f ↔ stray ∈ found) := by
  obtain ⟨word, htried, hfront, rfl⟩ := h
  have hword := mem_of_mem_trialOrder hwords htried
  rw [replaceChar_flatMap_take (hletters word hword) hfront]
  exact ⟨hword, mem_flatMap_take_iff (hletters word hword) hfront⟩

/-- A stretch of an end of a text is a stretch of the text. -/
theorem IsStretch.isInfix {words : List Text} {t rest found : Text} (h : IsStretch words rest found)
    (hrest : rest <:+ t) : found <:+: t := by
  obtain ⟨word, -, -, rfl⟩ := h
  exact (List.take_prefix _ rest).isInfix.trans hrest.isInfix

/-- A stretch that is an ASCII word has no sigma, which is no letter of such a word in any case. -/
theorem IsStretch.sigma_notMem {words : List Text} (hwords : words ≠ [])
    (hascii : ∀ word ∈ words, ∀ a ∈ word, a.toNat < 128) {t found : Text}
    (h : IsStretch (trialOrder words) t found) : 'Σ' ∉ found := by
  obtain ⟨word, htried, hfront, rfl⟩ := h
  have hword := mem_of_mem_trialOrder hwords htried
  have hletters : ∀ c ∈ t.take word.length, c ∈ asciiLikes :=
    forall_mem_take_of_isFrontOf
      (fun a ha c hsame => mem_asciiLikes_of_sameLetter (hascii word hword a ha) hsame) hfront
  intro hmem
  exact absurd (hletters 'Σ' hmem) (by decide)

end Text

/-- **The letters of the default verbs.** Those of call verbs come out in small letters, but for the long
s, and those of name verbs in capitals, but for the capital i with a dot. -/
theorem keepsLetter_default :
    (∀ word ∈ ({} : Vocabulary).callVerbs, ∀ a ∈ word,
      a.toNat < 128 ∧ Text.KeepsLetter Text.smallForm 'ſ' 's' a) ∧
    ∀ word ∈ ({} : Vocabulary).nameVerbs, ∀ a ∈ word,
      a.toNat < 128 ∧ Text.KeepsLetter Text.upperChar 'İ' 'I' a := by
  constructor
  · intro word hword a ha
    exact Text.keepsLetter_of_table (by decide +kernel) (by decide) (by decide +kernel) hword ha
  · intro word hword a ha
    exact Text.keepsLetter_of_table (by decide +kernel) (by decide) (by decide +kernel) hword ha

/-! ### Calls -/

theorem isStretch_of_map_endingWord? {ordered : List Text} {before : Option Char} {t : Text}
    {answer : Nat × Text}
    (h : (Text.endingWord? ordered before t).map (fun verb => (verb.length, verb)) =
      some answer) : Text.IsStretch ordered t answer.2 := by
  obtain ⟨verb, hverb, rfl⟩ := Option.map_eq_some_iff.mp h
  exact Text.isStretch_of_endingWord? hverb

/-- The verb behind the blanks stands at the front of some end of the text. -/
theorem exists_isStretch_of_verbBehindBlanks? {ordered : List Text} {before : Option Char}
    {t : Text} {answer : Nat × Text} (h : verbBehindBlanks? ordered before t = some answer) :
    ∃ rest, rest <:+ t ∧ Text.IsStretch ordered rest answer.2 := by
  induction t generalizing before answer with
  | nil => exact ⟨[], List.suffix_refl [], isStretch_of_map_endingWord? h⟩
  | cons c t ih =>
    rw [verbBehindBlanks?] at h
    split at h
    · split at h
      · next length verb hrest =>
        obtain rfl := Option.some.inj h
        obtain ⟨rest, hsuffix, hstretch⟩ := ih hrest
        exact ⟨rest, hsuffix.trans (List.suffix_cons c t), hstretch⟩
      · exact ⟨c :: t, List.suffix_refl _, isStretch_of_map_endingWord? h⟩
    · exact ⟨c :: t, List.suffix_refl _, isStretch_of_map_endingWord? h⟩

theorem exists_isStretch_of_mem_callMatches {v : Vocabulary} {content : Text} {m : Match Text}
    (h : m ∈ callMatches v content) :
    ∃ rest, rest <:+ content ∧
      Text.IsStretch (Text.trialOrder v.callVerbs) rest m.value := by
  obtain ⟨-, -, hanswer⟩ := Recogniser.answerAt_of_mem_findAll h
  obtain ⟨behind, length, hbehind, -, hverb⟩ := callRule_eq_some_iff.mp hanswer
  obtain ⟨rest, hsuffix, hstretch⟩ := exists_isStretch_of_verbBehindBlanks? hverb
  refine ⟨rest, hsuffix.trans ?_, hstretch⟩
  have harrow : behind <:+ content.drop m.start := by
    rw [hbehind]
    exact List.suffix_append ['-', '>'] behind
  exact harrow.trans (List.drop_suffix _ _)

/-- **The verb of a call is a listed one but for the long s**, which it has if and only if it is written
with one. -/
theorem verb_of_mem_callMatches {content : Text} {m : Match Text}
    (h : m ∈ callMatches {} content) :
    m.value <:+: content ∧
      Text.replaceChar 'ſ' 's' (Text.lower m.value) ∈ ({} : Vocabulary).callVerbs ∧
      ('ſ' ∈ Text.lower m.value ↔ 'ſ' ∈ m.value) := by
  obtain ⟨rest, hsuffix, hstretch⟩ := exists_isStretch_of_mem_callMatches h
  have hsome : ({} : Vocabulary).callVerbs ≠ [] := List.cons_ne_nil _ _
  -- Without a sigma, small letters are made one by one.
  have hsigma := hstretch.sigma_notMem hsome
    fun word hword a ha => (keepsLetter_default.1 word hword a ha).1
  rw [Text.lower_eq_flatMap hsigma]
  exact ⟨hstretch.isInfix hsuffix, hstretch.flatMap_listed hsome
    fun word hword a ha => (keepsLetter_default.1 word hword a ha).2⟩

/-! ### Names -/

/-- What a name may end in: a verb, or the word for none. -/
def Vocabulary.nameEnds (v : Vocabulary) : List Text :=
  "UNKNOWN" :: v.nameVerbs

/-- **What a statement does is a listed verb but for a dotted i**, which it has if and only if its first
verb is written with one. -/
theorem verbOf_default (t : Text) :
    Text.replaceChar 'İ' 'I' (Vocabulary.verbOf {} t) ∈ Vocabulary.nameEnds {} ∧
      ('İ' ∉ Vocabulary.verbOf {} t ↔
        ∀ found, Text.firstWord? ({} : Vocabulary).nameVerbs t = some found → 'İ' ∉ found) := by
  unfold Vocabulary.verbOf
  cases hfound : Text.firstWord? ({} : Vocabulary).nameVerbs t with
  | none => exact ⟨by decide, iff_of_true (by decide) (fun _ h => by cases h)⟩
  | some verb =>
    obtain ⟨rest, hstretch⟩ := Text.exists_isStretch_of_firstWordFrom? hfound
    obtain ⟨hlisted, hwritten⟩ := hstretch.flatMap_listed (List.cons_ne_nil _ _)
      fun word hword a ha => (keepsLetter_default.2 word hword a ha).2
    refine ⟨List.mem_cons_of_mem _ hlisted, ?_⟩
    simp only [Option.some.injEq, forall_eq']
    exact not_congr hwritten

/-- A name ends in a listed verb, or in the word for none, behind an underscore. -/
def Vocabulary.EndsListed (v : Vocabulary) (name : Text) : Prop :=
  ∃ base, ∃ verb ∈ v.nameEnds, name = base ++ '_' :: verb

theorem endsListed_default_iff {base verb : Text}
    (h : Text.replaceChar 'İ' 'I' verb ∈ Vocabulary.nameEnds {}) :
    Vocabulary.EndsListed {} (base ++ '_' :: verb) ↔ 'İ' ∉ verb := by
  have hclear : ∀ word ∈ Vocabulary.nameEnds {}, 'İ' ∉ word ∧ '_' ∉ word := by decide
  -- The replacement concerns no underscore, so the verb has none, and a name is cut in one way only.
  have hunderscore : '_' ∉ verb := by
    intro hmem
    refine (hclear _ h).2 ?_
    exact List.mem_map.mpr ⟨'_', hmem, rfl⟩
  rw [← Text.mem_iff_of_replaceChar_mem (fun word hword => (hclear word hword).1) h]
  constructor
  · rintro ⟨base', verb', hverb', heq⟩
    obtain ⟨-, rfl⟩ := append_underscore_inj hunderscore (hclear verb' hverb').2 heq
    exact hverb'
  · intro hverb
    exact ⟨base, verb, hverb, rfl⟩

/-- A literal of a file has the name that its target, its line and its snippet give. -/
theorem name_of_mem_scanArena {v : Vocabulary} {content : Text} {arena : Perl.Arena}
    {l : LiteralFinding} (h : Finding.literal l ∈ scanArena v content arena) {name : Text}
    (hname : l.name = some name) :
    ∃ target, l.target = some target ∧ name = nameOf v target l.line l.snippet := by
  obtain ⟨l₀, hl₀, rfl⟩ := exists_of_literal_mem_scanArena h
  rw [target_named, line_named, snippet_named]
  unfold LiteralFinding.named at hname
  split at hname
  · next target htarget => exact ⟨target, htarget, (Option.some.inj hname).symm⟩
  · rw [name_eq_none_of_mem_sqlLiterals hl₀] at hname
    cases hname

theorem exists_name_of_mem_scanArena {v : Vocabulary} {content : Text} {arena : Perl.Arena}
    {l : LiteralFinding} (h : Finding.literal l ∈ scanArena v content arena) {name : Text}
    (hname : l.name = some name) : ∃ base, name = base ++ '_' :: v.verbOf l.snippet := by
  obtain ⟨target, -, rfl⟩ := name_of_mem_scanArena h hname
  refine ⟨bareVariable target ++ '_' :: linePart l.line, ?_⟩
  unfold nameOf
  rw [List.append_assoc, List.cons_append]

/-! ### The findings of a file -/

/-- **Which verbs are reported**, with the default lists. The verb of a call is a listed one, except
that a long s of the text stays in the place of an s; so it is listed if and only if it is written
without a long s. A name ends in a listed verb or the word for none, except that a dotted i of the
snippet stays in the place of an i; so its end is listed if and only if the first verb of the snippet, if
there is one, is written without a dotted i. -/
theorem verbs_listed_iff (content : Text) (arena : Perl.Arena) :
    (∀ c, Finding.call c ∈ scanArena {} content arena →
      ∃ m ∈ callMatches {} content, c = callFinding {} content m ∧ m.value <:+: content ∧
        Text.replaceChar 'ſ' 's' c.verb ∈ ({} : Vocabulary).callVerbs ∧
        (c.verb ∈ ({} : Vocabulary).callVerbs ↔ 'ſ' ∉ m.value)) ∧
    (∀ l name, Finding.literal l ∈ scanArena {} content arena → l.name = some name →
      (∃ base verb, name = base ++ '_' :: verb ∧
        Text.replaceChar 'İ' 'I' verb ∈ Vocabulary.nameEnds {}) ∧
      (Vocabulary.EndsListed {} name ↔
        ∀ found, Text.firstWord? ({} : Vocabulary).nameVerbs l.snippet = some found →
          'İ' ∉ found)) := by
  constructor
  · intro c hc
    have hsite : c ∈ callSites {} content := by
      rw [← filterMap_call_scanArena {} content arena]
      exact List.mem_filterMap.mpr ⟨_, hc, rfl⟩
    obtain ⟨m, hm, rfl⟩ := List.mem_map.mp hsite
    obtain ⟨hstands, hlisted, hwritten⟩ := verb_of_mem_callMatches hm
    have hclear : ∀ word ∈ ({} : Vocabulary).callVerbs, 'ſ' ∉ word := by decide
    have hverb := Text.mem_iff_of_replaceChar_mem hclear hlisted
    exact ⟨m, hm, rfl, hstands, hlisted, hverb.trans (not_congr hwritten)⟩
  · intro l name hl hname
    obtain ⟨base, rfl⟩ := exists_name_of_mem_scanArena hl hname
    obtain ⟨hlisted, hwritten⟩ := verbOf_default l.snippet
    exact ⟨⟨base, _, rfl, hlisted⟩, (endsListed_default_iff hlisted).trans hwritten⟩

/-- A statement that is written with a dotted i, and a call that is written with a long s. -/
def strayFile : Text :=
  "$q = \"İNSERT INTO t\"; $dbh->ſelectall_arrayref($q);"

/-- The token of the literal in `strayFile`. -/
def strayToken : Perl.Token :=
  { kind := .literal, content := "\"İNSERT INTO t\"", value := some "İNSERT INTO t" }

/-- The tokens of the first statement of `strayFile`. -/
def strayArena : Perl.Arena :=
  [{ kind := .var, content := "$q" }, { kind := .operator, content := "=" }, strayToken,
    { kind := .delimiter, content := ";" }]

/-- What is reported for `strayToken`, before it has a name. -/
def strayLiteral : LiteralFinding :=
  { form := .string, line := some 1, snippet := "İNSERT INTO t", target := some "$q"
    statement := "İNSERT INTO t" }

/-- What is looked for in `strayFile` and what is found. -/
theorem strayFile_searched :
    callMatches {} strayFile = [⟨26, 46, "ſelectall_arrayref".toList⟩] ∧
      Vocabulary.isSql {} strayToken.text = true ∧
      Vocabulary.verbOf {} strayLiteral.snippet = "İNSERT".toList ∧
      literalFinding {} strayArena .string strayToken 2 = strayLiteral ∧
      Text.lower "ſelectall_arrayref".toList = "ſelectall_arrayref".toList := by
  unfold callMatches Vocabulary.isSql Vocabulary.verbOf Text.firstWord?
  rw [trialOrder_callVerbs_default, trialOrder_sqlKeywords_default, trialOrder_nameVerbs_default]
  decide +kernel

theorem sqlLiterals_strayArena : sqlLiterals {} strayArena = [strayLiteral] := by
  obtain ⟨-, hsql, -, hliteral, -⟩ := strayFile_searched
  have htokens : strayArena.ofKind .literal = [(strayToken, 2)] := by decide
  rw [sqlLiterals_of_single htokens (by decide) hsql, hliteral]

/-- **Stray letters leave the lists.** The long s stays in the method that is reported, and the dotted i
in the name. -/
theorem stray_letters_leave_lists :
    (∃ c, Finding.call c ∈ scanArena {} strayFile strayArena ∧
      c.verb = "ſelectall_arrayref".toList ∧ c.verb ∉ ({} : Vocabulary).callVerbs) ∧
    ∃ l, Finding.literal l ∈ scanArena {} strayFile strayArena ∧
      l.name = some "q_1_İNSERT".toList ∧ ¬Vocabulary.EndsListed {} "q_1_İNSERT" := by
  obtain ⟨hcalls, -, hnamed, -, hlower⟩ := strayFile_searched
  have hkept : keptFindings {} strayFile strayArena =
      [.literal (strayLiteral.named {}),
        .call (callFinding {} strayFile ⟨26, 46, "ſelectall_arrayref".toList⟩)] := by
    unfold keptFindings located callSites
    rw [sqlLiterals_strayArena, hcalls]
    rfl
  have hmem : ∀ f ∈ keptFindings {} strayFile strayArena, f ∈ scanArena {} strayFile strayArena := by
    intro f hf
    rw [scanArena_eq]
    exact List.mem_append_left _ hf
  rw [hkept] at hmem
  constructor
  · refine ⟨_, hmem _ (List.mem_cons_of_mem _ List.mem_cons_self), hlower, ?_⟩
    rw [callFinding, hlower]
    decide
  · refine ⟨_, hmem _ List.mem_cons_self, ?_, ?_⟩
    · change some (nameOf {} "$q" (some 1) strayLiteral.snippet) = _
      unfold nameOf
      rw [hnamed]
      decide
    · have hlisted : Text.replaceChar 'İ' 'I' "İNSERT" ∈ Vocabulary.nameEnds {} := by decide
      rw [show ("q_1_İNSERT" : Text) = "q_1" ++ '_' :: "İNSERT".toList from rfl,
        endsListed_default_iff hlisted]
      decide

end SqlInventory
