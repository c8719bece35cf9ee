import SqlInventory.Text.Matching
import Mathlib.Data.List.Basic

/-!
# Which stretches a search finds

`Recogniser.findAll` walks through a sequence and carries a count of elements to skip. What it finds
is said here without the walk, in terms of what the recogniser answers at each place of the whole
sequence (`answerAt`):

* `answerAt_of_mem_findAll`: a match stands where the recogniser answers, and is what it answers;
* `pairwise_findAll`: matches do not overlap and come from left to right;
* `exists_mem_findAll`: a place where the recogniser answers is taken by some match, its own or one
  that starts earlier. If no answer begins inside another, every answer is a match of its own
  (`mem_findAll_iff_of_apart`).

The three fix the list of matches. Of replacing, `additive_replaceAll` says that it keeps whatever
every single replacement keeps. For a recogniser that does not look back, the walk behind a match is
the walk over what is left of the sequence, which gives one equation per kind of step
(`replaceAll_of_some`, `replaceAll_of_none`, and the same for what matches mean). The walk itself is
opened only in the lemmas on `findAllFrom`, where the induction is on what is left of the sequence
and `passed` is what the walk has behind it.
-/

namespace SqlInventory

namespace Recogniser

variable {α β : Type} (rule : Recogniser α β)

/-- What the recogniser answers at place `i` of a sequence. -/
def answerAt (l : List α) (i : Nat) : Option (Nat × β) :=
  rule (l.take i).getLast? (l.drop i)

theorem answerAt_append (passed l : List α) :
    rule.answerAt (passed ++ l) passed.length = rule passed.getLast? l := by
  unfold answerAt
  rw [List.take_left, List.drop_left]

/-! ### The walk -/

/-- A match of the walk starts behind what is skipped. -/
theorem le_start_of_mem_findAllFrom {before : Option α} {skip place : Nat} {l : List α}
    {m : Match β} (h : m ∈ rule.findAllFrom before skip place l) : place + skip ≤ m.start := by
  induction l generalizing before skip place with
  | nil => simp [findAllFrom] at h
  | cons a rest ih =>
    cases skip with
    | succ skip =>
      have := ih h
      omega
    | zero =>
      rw [findAllFrom] at h
      split at h
      · rcases List.mem_cons.mp h with rfl | h
        · exact Nat.le_refl _
        · have := ih h
          omega
      · have := ih h
        omega

theorem pairwise_findAllFrom (before : Option α) (skip place : Nat) (l : List α) :
    (rule.findAllFrom before skip place l).Pairwise fun a b => a.stop ≤ b.start := by
  induction l generalizing before skip place with
  | nil => exact List.Pairwise.nil
  | cons a rest ih =>
    cases skip with
    | succ skip => exact ih _ _ _
    | zero =>
      rw [findAllFrom]
      split
      · refine List.Pairwise.cons (fun m hm => ?_) (ih _ _ _)
        -- The next match starts behind the elements that this one still takes.
        have hstart := rule.le_start_of_mem_findAllFrom hm
        change _ + _ + 1 ≤ m.start
        omega
      · exact ih _ _ _

/-- A match of the walk stands where the recogniser answers it. -/
theorem answerAt_of_mem_findAllFrom (passed : List α) (skip : Nat) {l : List α} {m : Match β}
    (h : m ∈ rule.findAllFrom passed.getLast? skip passed.length l) :
    m.start < passed.length + l.length ∧ m.start < m.stop ∧
      rule.answerAt (passed ++ l) m.start = some (m.stop - m.start, m.value) := by
  induction l generalizing passed skip with
  | nil => simp [findAllFrom] at h
  | cons a rest ih =>
    have hnext : ∀ skip, m ∈ rule.findAllFrom (some a) skip (passed.length + 1) rest →
        m.start < passed.length + (a :: rest).length ∧ m.start < m.stop ∧
          rule.answerAt (passed ++ a :: rest) m.start = some (m.stop - m.start, m.value) := by
      intro skip hm
      have hrest := ih (passed ++ [a]) skip (by simpa using hm)
      rw [List.append_assoc, List.singleton_append, List.length_append] at hrest
      refine ⟨?_, hrest.2⟩
      have := hrest.1
      simp only [List.length_cons, List.length_nil] at this ⊢
      omega
    cases skip with
    | succ skip => exact hnext skip h
    | zero =>
      rw [findAllFrom] at h
      split at h
      · next n b hanswer =>
        rcases List.mem_cons.mp h with rfl | h
        · refine ⟨by simp, by simp only []; omega, ?_⟩
          rw [answerAt_append, hanswer]
          simp only [Option.some.injEq, Prod.mk.injEq, and_true]
          omega
        · exact hnext n h
      · exact hnext 0 h

/-- A place that the walk has yet to reach, and where the recogniser answers, is taken by a match. -/
theorem exists_mem_findAllFrom (passed : List α) (skip : Nat) {n i : Nat} {l : List α} {b : β}
    (hi : passed.length + skip ≤ i) (hlength : i < passed.length + l.length)
    (hanswer : rule.answerAt (passed ++ l) i = some (n + 1, b)) :
    ∃ m ∈ rule.findAllFrom passed.getLast? skip passed.length l, m.start ≤ i ∧ i < m.stop := by
  induction l generalizing passed skip with
  | nil => simp at hlength; omega
  | cons a rest ih =>
    have hnext : ∀ skip, passed.length + 1 + skip ≤ i →
        ∃ m ∈ rule.findAllFrom (some a) skip (passed.length + 1) rest,
          m.start ≤ i ∧ i < m.stop := by
      intro skip hskip
      have := ih (passed ++ [a]) skip (by simpa using hskip) (by simp at hlength ⊢; omega)
        (by simpa using hanswer)
      simpa using this
    cases skip with
    | succ skip => exact hnext skip (by omega)
    | zero =>
      rw [findAllFrom]
      split
      · next k b' _ =>
        by_cases htaken : i < passed.length + k + 1
        · exact ⟨_, List.mem_cons_self, by omega, htaken⟩
        · obtain ⟨m, hm, hstart, hstop⟩ := hnext k (by omega)
          exact ⟨m, List.mem_cons_of_mem _ hm, hstart, hstop⟩
      · next hnone =>
        have hne : i ≠ passed.length := by
          rintro rfl
          rw [answerAt_append] at hanswer
          exact hnone n b hanswer
        exact hnext 0 (by omega)

/-! ### The search -/

variable {rule}

/-- **A match is an answer**: it stands where the recogniser answers, and is what it answers. -/
theorem answerAt_of_mem_findAll {l : List α} {m : Match β} (h : m ∈ rule.findAll l) :
    m.start < l.length ∧ m.start < m.stop ∧
      rule.answerAt l m.start = some (m.stop - m.start, m.value) := by
  have := rule.answerAt_of_mem_findAllFrom [] 0 h
  simpa using this

/-- The sequence around its first match. -/
theorem eq_append_of_find? {l : List α} {m : Match β} (h : rule.find? l = some m) :
    l = l.take m.start ++ ((l.drop m.start).take (m.stop - m.start) ++ l.drop m.stop) := by
  obtain ⟨-, hlt, -⟩ := answerAt_of_mem_findAll (List.mem_of_head? h)
  have hstop : m.start + (m.stop - m.start) = m.stop := by omega
  conv_rhs => rw [← List.append_assoc, ← List.take_add, hstop, List.take_append_drop]

/-- Matches come from left to right and do not overlap. -/
theorem pairwise_findAll (l : List α) :
    (rule.findAll l).Pairwise fun a b => a.stop ≤ b.start :=
  rule.pairwise_findAllFrom none 0 0 l

/-- **No answer is passed by**: a place where the recogniser answers is taken by a match. -/
theorem exists_mem_findAll {l : List α} {i n : Nat} {b : β} (hi : i < l.length)
    (hanswer : rule.answerAt l i = some (n + 1, b)) :
    ∃ m ∈ rule.findAll l, m.start ≤ i ∧ i < m.stop :=
  rule.exists_mem_findAllFrom [] 0 (Nat.zero_le _) (by simpa using hi) hanswer

/-- **Where no answer begins inside another, every answer is a match.** -/
theorem mem_findAll_iff_of_apart {l : List α}
    (hapart : ∀ {i j n k : Nat} {b d : β}, rule.answerAt l i = some (n, b) →
      rule.answerAt l j = some (k, d) → i < j → i + n ≤ j) {m : Match β} :
    m ∈ rule.findAll l ↔ m.start < l.length ∧ m.start < m.stop ∧
      rule.answerAt l m.start = some (m.stop - m.start, m.value) := by
  refine ⟨answerAt_of_mem_findAll, fun ⟨hlength, hlt, hanswer⟩ => ?_⟩
  obtain ⟨n, hn⟩ : ∃ n, m.stop - m.start = n + 1 := ⟨m.stop - m.start - 1, by omega⟩
  obtain ⟨m', hm', hstart, hstop⟩ := exists_mem_findAll hlength (hn ▸ hanswer)
  obtain ⟨-, hlt', hanswer'⟩ := answerAt_of_mem_findAll hm'
  rcases Nat.lt_or_eq_of_le hstart with hbefore | heq
  · -- The match that takes the place would have an answer inside it.
    have := hapart hanswer' hanswer hbefore
    omega
  · rw [heq, hanswer] at hanswer'
    obtain ⟨hsize, hvalue⟩ := Prod.mk.inj (Option.some.inj hanswer')
    have hsame : m' = m := by
      obtain ⟨start', stop', value'⟩ := m'
      obtain ⟨start, stop, value⟩ := m
      simp only at heq hsize hvalue hlt hlt'
      obtain rfl : stop' = stop := by omega
      rw [heq, hvalue]
    exact hsame ▸ hm'

/-! ### Recognisers that do not look back -/

/-- The answer of a recogniser does not depend on what comes before the place. -/
def LooksAhead (rule : Recogniser α β) : Prop :=
  ∀ before before' l, rule before l = rule before' l

/-- Without a look back, the walk behind what is skipped is the walk over what is left. -/
theorem map_value_findAllFrom (hrule : rule.LooksAhead) (before before' : Option α)
    (skip place place' : Nat) (l : List α) :
    (rule.findAllFrom before skip place l).map Match.value =
      (rule.findAllFrom before' 0 place' (l.drop skip)).map Match.value := by
  induction l generalizing before before' skip place place' with
  | nil => simp [findAllFrom]
  | cons a rest ih =>
    cases skip with
    | succ skip => exact ih _ _ skip _ _
    | zero =>
      rw [List.drop_zero, findAllFrom, findAllFrom, hrule before before']
      split
      · rw [List.map_cons, List.map_cons, ih _ (some a) _ _ (place' + 1)]
        exact congrArg _ (ih _ _ _ _ _).symm
      · exact ih _ _ 0 _ _

/-- What the matches mean, where the recogniser answers at the front. -/
theorem map_value_findAll_of_some (hrule : rule.LooksAhead) {l : List α} {n : Nat} {b : β}
    (hl : l ≠ []) (h : rule none l = some (n + 1, b)) :
    (rule.findAll l).map Match.value = b :: (rule.findAll (l.drop (n + 1))).map Match.value := by
  obtain ⟨a, rest, rfl⟩ := List.exists_cons_of_ne_nil hl
  unfold findAll
  rw [findAllFrom, h]
  exact congrArg _ (map_value_findAllFrom hrule _ _ _ _ _ _)

/-- What the matches mean, where the recogniser does not answer at the front. -/
theorem map_value_findAll_of_none (hrule : rule.LooksAhead) {a : α} {rest : List α}
    (h : rule none (a :: rest) = none) :
    (rule.findAll (a :: rest)).map Match.value = (rule.findAll rest).map Match.value := by
  unfold findAll
  rw [findAllFrom, h]
  exact map_value_findAllFrom hrule _ _ _ _ _ _

/-! ### Replacing -/

theorem replaceFrom_eq_of_looksAhead {rule : Recogniser α (List α)} (hrule : rule.LooksAhead)
    (before before' : Option α) (skip : Nat) (l : List α) :
    rule.replaceFrom before skip l = rule.replaceFrom before' 0 (l.drop skip) := by
  induction l generalizing before before' skip with
  | nil => simp [replaceFrom]
  | cons a rest ih =>
    cases skip with
    | succ skip => exact ih _ _ skip
    | zero =>
      rw [List.drop_zero, replaceFrom, replaceFrom, hrule before before']

/-- A match at the front is replaced, and the rest is treated by itself. -/
theorem replaceAll_of_some {rule : Recogniser α (List α)} (hrule : rule.LooksAhead) {l : List α}
    {n : Nat} {out : List α} (hl : l ≠ []) (h : rule none l = some (n + 1, out)) :
    rule.replaceAll l = out ++ rule.replaceAll (l.drop (n + 1)) := by
  obtain ⟨a, rest, rfl⟩ := List.exists_cons_of_ne_nil hl
  unfold replaceAll
  rw [replaceFrom, h]
  exact congrArg _ (replaceFrom_eq_of_looksAhead hrule _ _ _ _)

/-- An element where no match starts is kept, and the rest is treated by itself. -/
theorem replaceAll_of_none {rule : Recogniser α (List α)} (hrule : rule.LooksAhead) {a : α}
    {rest : List α} (h : rule none (a :: rest) = none) :
    rule.replaceAll (a :: rest) = a :: rule.replaceAll rest := by
  unfold replaceAll
  rw [replaceFrom, h]
  exact congrArg _ (replaceFrom_eq_of_looksAhead hrule _ _ _ _)

/-- What is known of all elements is known of them when matches are replaced, if it is known of what
takes the place of a match. -/
theorem forall_mem_replaceFrom {p : α → Prop} {rule : Recogniser α (List α)}
    (hrule : ∀ before l n out, (∀ a ∈ l, p a) → rule before l = some (n, out) → ∀ a ∈ out, p a)
    {l : List α} (hl : ∀ a ∈ l, p a) (before : Option α) (skip : Nat) :
    ∀ a ∈ rule.replaceFrom before skip l, p a := by
  induction l generalizing before skip with
  | nil => exact hl
  | cons a rest ih =>
    obtain ⟨ha, hrest⟩ := List.forall_mem_cons.mp hl
    cases skip with
    | succ skip => exact ih hrest (some a) skip
    | zero =>
      rw [replaceFrom]
      split
      · next n out hanswer =>
        exact List.forall_mem_append.mpr ⟨hrule _ _ _ _ hl hanswer, ih hrest (some a) n⟩
      · exact List.forall_mem_cons.mpr ⟨ha, ih hrest (some a) 0⟩

/-- The walk that replaces keeps what each replacement keeps; `skip` elements are left out. -/
theorem additive_replaceFrom {γ : Type} {rule : Recogniser α (List α)} {f : List α → List γ}
    (hadd : ∀ a b, f (a ++ b) = f a ++ f b)
    (hrule : ∀ before l n out, rule before l = some (n, out) → f out = f (l.take n))
    (before : Option α) (skip : Nat) (l : List α) :
    f (rule.replaceFrom before skip l) = f (l.drop skip) := by
  induction l generalizing before skip with
  | nil => simp [replaceFrom]
  | cons a rest ih =>
    cases skip with
    | succ skip => exact ih (some a) skip
    | zero =>
      rw [replaceFrom]
      split
      · next n out hanswer =>
        rw [hadd, hrule _ _ _ _ hanswer, ih, ← hadd, ← List.drop_succ_cons, List.take_append_drop]
        rfl
      · rw [← List.singleton_append, hadd, ih, ← hadd]
        rfl

/-- **What every replacement keeps, replacing all keeps.** It is enough that `f` reads sequences
piece by piece and reads the same of a match and of what is put in its place. -/
theorem additive_replaceAll {γ : Type} {rule : Recogniser α (List α)} {f : List α → List γ}
    (hadd : ∀ a b, f (a ++ b) = f a ++ f b)
    (hrule : ∀ before l n out, rule before l = some (n, out) → f out = f (l.take n))
    (l : List α) : f (rule.replaceAll l) = f l :=
  additive_replaceFrom hadd hrule none 0 l

end Recogniser

end SqlInventory
