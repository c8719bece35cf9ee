import SqlInventory.Audit.Call
import SqlInventory.Proofs.Audit.InlineOnce
import SqlInventory.Proofs.Text.Matching
import SqlInventory.Proofs.Text.Words

/-!
# Calls are reported where they stand

A call *stands* at a place of a text (`CallAt`) if there are an arrow, blanks, and a run of word
characters that is one of the call verbs when case is ignored. This is said of the text alone,
without a search; the findings for the calls of a text are then fixed (`CallsReported`).

* `verbBehindBlanks?_eq_some_iff`: a blank is never given back to a verb, and no verb is cut short
  by a shorter one, since it is the run of word characters that is looked up;
* `CallAt.le_start`: a call does not begin inside another, as there is no second arrow in it. So a
  search without overlap passes none by (`mem_callMatches_iff`);
* `call_sites_exact` reads line, verb and context off the places.
-/

namespace SqlInventory

open Text (IsListed IsWordList)

/-! ### Where a call stands -/

/-- **A call stands at `m.start`**: an arrow, blanks, and the whole run `m.value` of word
characters, which is one of the verbs when case is ignored. It ends at `m.stop` with the run. -/
def CallAt (verbs : List Text) (content : Text) (m : Match Text) : Prop :=
  ∃ blanks behind, content.drop m.start = '-' :: '>' :: (blanks ++ (m.value ++ behind)) ∧
    m.stop = m.start + (2 + blanks.length + m.value.length) ∧
    (∀ c ∈ blanks, Text.isBlank c = true) ∧ (∀ c ∈ m.value, Text.isWord c = true) ∧
    Text.isWordAt behind.head? = false ∧ IsListed verbs m.value

variable {ordered verbs : List Text} {content : Text} {m m' : Match Text}

/-- **The verb behind blanks is the run of word characters there**, if that is listed. -/
theorem verbBehindBlanks?_eq (hordered : IsWordList ordered) (before : Option Char) (t : Text) :
    verbBehindBlanks? ordered before t =
      if IsListed ordered ((t.dropWhile Text.isBlank).takeWhile Text.isWord) then
        some ((t.takeWhile Text.isBlank).length +
            ((t.dropWhile Text.isBlank).takeWhile Text.isWord).length,
          (t.dropWhile Text.isBlank).takeWhile Text.isWord)
      else none := by
  induction t generalizing before with
  | nil =>
    have hnone : Text.endingWord? ordered before [] = none :=
      Text.endingWord?_eq_none hordered before rfl
    have hempty : ¬IsListed ordered [] := fun hlisted => hordered.ne_nil hlisted rfl
    rw [verbBehindBlanks?, hnone]
    exact (if_neg hempty).symm
  | cons c t ih =>
    rw [verbBehindBlanks?]
    by_cases hblank : Text.isBlank c = true
    · -- A blank is no letter of a verb, so nothing is found if nothing follows behind it.
      have hnone : Text.endingWord? ordered before (c :: t) = none :=
        Text.endingWord?_eq_none hordered before (Text.isWord_eq_false_of_isBlank hblank)
      rw [if_pos hblank, ih, hnone, List.dropWhile_cons_of_pos hblank,
        List.takeWhile_cons_of_pos hblank, List.length_cons]
      split_ifs
      · rw [Nat.add_right_comm]
      · rfl
    · rw [if_neg hblank, Text.endingWord?_eq hordered, List.dropWhile_cons_of_neg hblank,
        List.takeWhile_cons_of_neg hblank, List.length_nil, Nat.zero_add]
      split_ifs
      · rfl
      · rfl

/-- What is found behind blanks, and what is around it. -/
theorem verbBehindBlanks?_eq_some_iff (hordered : IsWordList ordered) {before : Option Char}
    {t verb : Text} {length : Nat} :
    verbBehindBlanks? ordered before t = some (length, verb) ↔
      ∃ blanks behind, t = blanks ++ (verb ++ behind) ∧ length = blanks.length + verb.length ∧
        (∀ c ∈ blanks, Text.isBlank c = true) ∧ (∀ c ∈ verb, Text.isWord c = true) ∧
        Text.isWordAt behind.head? = false ∧ IsListed ordered verb := by
  rw [verbBehindBlanks?_eq hordered]
  constructor
  · intro h
    obtain ⟨hlisted, heq⟩ := Option.ite_none_right_eq_some.mp h
    obtain ⟨rfl, rfl⟩ := Prod.mk.inj (Option.some.inj heq)
    refine ⟨t.takeWhile Text.isBlank, (t.dropWhile Text.isBlank).dropWhile Text.isWord, ?_, rfl,
      fun c hc => List.mem_takeWhile_imp hc, fun c hc => List.mem_takeWhile_imp hc,
      Text.isWordAt_dropWhile _, hlisted⟩
    rw [List.takeWhile_append_dropWhile, List.takeWhile_append_dropWhile]
  · rintro ⟨blanks, behind, rfl, rfl, hblanks, hverb, hbehind, hlisted⟩
    obtain ⟨first, rest, rfl⟩ := List.exists_cons_of_ne_nil (hordered.ne_nil hlisted)
    -- The run starts with a word character, which is no blank.
    have hfirst : ¬Text.isBlank first = true := by
      intro hblank
      have := hverb first List.mem_cons_self
      rw [Text.isWord_eq_false_of_isBlank hblank] at this
      cases this
    rw [List.dropWhile_append_of_pos hblanks, List.takeWhile_append_of_pos hblanks,
      List.cons_append, List.dropWhile_cons_of_neg hfirst, List.takeWhile_cons_of_neg hfirst,
      List.append_nil, ← List.cons_append, Text.takeWhile_isWord_append hverb hbehind,
      if_pos hlisted]

/-- The recogniser of calls answers exactly where one stands. -/
theorem answerAt_callRule_iff (hverbs : IsWordList verbs) {p n : Nat} {verb : Text} :
    (callRule (Text.trialOrder verbs)).answerAt content p = some (n, verb) ↔
      CallAt verbs content ⟨p, p + n, verb⟩ := by
  rw [Recogniser.answerAt, callRule_eq_some_iff, CallAt]
  simp only [verbBehindBlanks?_eq_some_iff hverbs.trialOrder,
    Text.isListed_trialOrder_iff hverbs.1]
  constructor
  · rintro ⟨rest, length, hdrop, rfl, blanks, behind, rfl, rfl, h⟩
    exact ⟨blanks, behind, hdrop, by omega, h⟩
  · rintro ⟨blanks, behind, hdrop, hstop, h⟩
    exact ⟨_, blanks.length + verb.length, hdrop, by omega, blanks, behind, rfl, rfl, h⟩

theorem CallAt.start_lt (h : CallAt verbs content m) : m.start < content.length := by
  obtain ⟨blanks, behind, hdrop, -⟩ := h
  by_contra hge
  rw [List.drop_eq_nil_of_le (Nat.le_of_not_lt hge)] at hdrop
  cases hdrop

/-- **A call does not begin inside another**: behind its first character it has no hyphen. -/
theorem CallAt.le_start (h : CallAt verbs content m) (h' : CallAt verbs content m')
    (hlt : m.start < m'.start) : m.stop ≤ m'.start := by
  obtain ⟨blanks, behind, hdrop, hstop, hblanks, hvalue, -, -⟩ := h
  obtain ⟨blanks', behind', hdrop', -⟩ := h'
  by_contra hinside
  have hhyphen : content[m'.start]? = some '-' := by
    rw [← List.head?_drop, hdrop']
    rfl
  obtain ⟨k, hk⟩ := Nat.exists_eq_add_of_lt hlt
  -- Seen from the first call, the hyphen is among the blanks and the verb, or the end of the arrow.
  have hat : ('>' :: (blanks ++ m.value))[k]? = some '-' := by
    have hfront : content.drop m.start = '-' :: (('>' :: (blanks ++ m.value)) ++ behind) := by
      rw [hdrop, List.cons_append, List.append_assoc]
    rw [hk, Nat.add_assoc, ← List.getElem?_drop, hfront, List.getElem?_cons_succ,
      List.getElem?_append_left] at hhyphen
    · exact hhyphen
    · rw [List.length_cons, List.length_append]
      omega
  have hclear : ∀ c ∈ '>' :: (blanks ++ m.value), c ≠ '-' := by
    refine List.forall_mem_cons.mpr ⟨by decide, List.forall_mem_append.mpr ⟨?_, ?_⟩⟩
    · rintro c hc rfl
      exact absurd (hblanks '-' hc) (by decide)
    · rintro c hc rfl
      exact absurd (hvalue '-' hc) (by decide)
  exact hclear '-' (List.mem_of_getElem? hat) rfl

/-- **The search finds every call that stands in a text**, and nothing else. -/
theorem mem_callMatches_iff {v : Vocabulary} (hverbs : IsWordList v.callVerbs) :
    m ∈ callMatches v content ↔ CallAt v.callVerbs content m := by
  have hanswer : m.start < m.stop →
      ((callRule (Text.trialOrder v.callVerbs)).answerAt content m.start =
        some (m.stop - m.start, m.value) ↔ CallAt v.callVerbs content m) := by
    intro hlt
    rw [answerAt_callRule_iff hverbs, Nat.add_sub_cancel' (Nat.le_of_lt hlt)]
  rw [callMatches, Recogniser.mem_findAll_iff_of_apart]
  · constructor
    · rintro ⟨-, hlt, h⟩
      exact (hanswer hlt).mp h
    · intro h
      have hlt : m.start < m.stop := by
        obtain ⟨blanks, behind, -, hstop, -⟩ := h
        omega
      exact ⟨h.start_lt, hlt, (hanswer hlt).mpr h⟩
  · intro i j n k b d hi hj hij
    exact ((answerAt_callRule_iff hverbs).mp hi).le_start ((answerAt_callRule_iff hverbs).mp hj) hij

/-! ### What is reported of a call -/

/-- The text around a call, for a radius that is not negative. -/
theorem contextWindow_of_radius {v : Vocabulary} {radius : Nat} (hradius : v.contextRadius = radius)
    (content : Text) (start stop : Nat) :
    contextWindow v content start stop =
      snippet ((content.take (min content.length (stop + radius))).drop (start - radius))
        v.snippetLimit := by
  have hlow : Text.position content (max ((start : Int) - radius) 0) =
      min (start - radius) content.length := by
    unfold Text.position
    rw [if_neg (by omega)]
    congr 1
    omega
  have hhigh : Text.position content (min ((stop : Int) + radius) content.length) =
      min content.length (stop + radius) := by
    unfold Text.position
    rw [if_neg (by omega)]
    omega
  unfold contextWindow Text.between
  simp only [hradius, hlow, hhigh]
  congr 1
  rw [List.drop_take]
  rcases Nat.le_total (start - radius) content.length with hle | hle
  · rw [Nat.min_eq_left hle]
  · -- Behind the end of the text both sides are empty.
    rw [Nat.min_eq_right hle, List.drop_length, List.drop_eq_nil_of_le hle, List.take_nil,
      List.take_nil]

/-- **The calls of a text are reported where they stand**, from left to right and each once: with
the line of the arrow, the verb in small letters, and the text around. -/
def CallsReported (v : Vocabulary) (content : Text) (found : List CallFinding) : Prop :=
  ∃ calls : List (Match Text),
    calls.Pairwise (fun a b => a.start < b.start) ∧
    (∀ m, m ∈ calls ↔ CallAt v.callVerbs content m) ∧
    List.Forall₂ (fun (m : Match Text) (c : CallFinding) =>
      c.line = .number ((1 + (content.take m.start).count '\n' : Nat)) ∧
      c.verb = Text.lower m.value ∧
      ∀ radius : Nat, v.contextRadius = radius → c.context =
        snippet ((content.take (min content.length (m.stop + radius))).drop (m.start - radius))
          v.snippetLimit) calls found

/-- **No call is missed and none is made up**, for call verbs in ASCII. -/
theorem call_sites_exact (v : Vocabulary) (content : Text) (hverbs : IsWordList v.callVerbs) :
    CallsReported v content (callSites v content) := by
  refine ⟨callMatches v content, ?_, fun m => mem_callMatches_iff hverbs, ?_⟩
  · refine List.Pairwise.imp_of_mem ?_ (Recogniser.pairwise_findAll content)
    intro a b ha _ hab
    exact Nat.lt_of_lt_of_le (Recogniser.answerAt_of_mem_findAll ha).2.1 hab
  · rw [callSites, List.forall₂_map_right_iff, List.forall₂_same]
    intro m _
    refine ⟨?_, rfl, fun radius hradius => contextWindow_of_radius hradius content m.start m.stop⟩
    rw [callFinding, lineOfOffset_eq, Nat.add_comm]
    rfl

/-- A file with two calls. The first method only starts as a verb does, the first call is written
over two lines and has a verb that starts with another one, and the second call has no blanks. -/
def chainedCalls : Text :=
  "$h->do_it;\n$h->\n\tPrepare_Cached($q)->execute"

theorem chainedCalls_reported :
    IsWordList ({} : Vocabulary).callVerbs ∧
      callSites {} chainedCalls =
        [{ line := 2, verb := "prepare_cached"
           context := "$h->do_it; $h-> Prepare_Cached($q)->execute" },
         { line := 3, verb := "execute"
           context := "$h->do_it; $h-> Prepare_Cached($q)->execute" }] ∧
      CallsReported {} chainedCalls (callSites {} chainedCalls) := by
  have hverbs : IsWordList ({} : Vocabulary).callVerbs := by decide
  refine ⟨hverbs, ?_, call_sites_exact {} chainedCalls hverbs⟩
  unfold callSites callMatches
  rw [trialOrder_callVerbs_default]
  decide +kernel

end SqlInventory
