import SqlInventory.Proofs.Audit.Stages
import SqlInventory.Proofs.Text.Matching
import SqlInventory.Proofs.Text.WholeWord
import Mathlib.Data.List.Infix
import Mathlib.Data.List.TakeWhile

/-!
# Undeclared variables are reported exactly

A variable *stands* at a place of a text (`VariableAt`) if there are a dollar sign, an ASCII letter
or underscore, and all the word characters that follow, and no package separator comes behind. This
is said of the text alone, without a search. The report on undeclared variables is then fixed by
the calls of a file and by the literals located in it:

* `exists_match_iff`: a search for variables finds one at every place where one stands. Nothing is
  passed over, because a variable has no dollar sign behind its first character;
* `firstUses_map_use`: keeping the first use of each name keeps, of the uses in order of place, those
  before which the name does not stand (`firstPlaced`);
* `undeclared_variables_exact` puts the two together.

Places are pairs of the number of a call and an offset in its context, in lexicographic order.
-/

namespace SqlInventory

open Perl

/-! ### Where a variable stands -/

/-- **A variable stands at place `p` of a text**: a dollar sign, an ASCII letter or underscore and
the whole run of word characters behind it, with no package separator after the run. -/
def VariableAt (context : Text) (p : Nat) (name : Text) : Prop :=
  ∃ first more rest, name = '$' :: first :: more ∧ context.drop p = name ++ rest ∧
    Text.startsIdentifier first = true ∧ (∀ c ∈ more, Text.isWord c = true) ∧
    Text.isWordAt rest.head? = false ∧ ¬[':', ':'] <+: rest

theorem isWord_of_startsIdentifier {c : Char} (h : Text.startsIdentifier c = true) :
    Text.isWord c = true := by
  unfold Text.startsIdentifier at h
  rcases Bool.or_eq_true_iff.mp h with hletter | hline
  · have hascii : c.toNat < 128 := by
      have hle : c ≤ 'z' := by
        unfold Text.isAsciiLetter at hletter
        rcases Bool.or_eq_true_iff.mp hletter with h | h
        · exact of_decide_eq_true (Bool.and_eq_true_iff.mp h).2
        · exact Char.le_trans (of_decide_eq_true (Bool.and_eq_true_iff.mp h).2) (by decide)
      exact Nat.lt_of_le_of_lt hle (by decide)
    simp [Text.isWord, Text.isAlphanumeric, hascii, hletter]
  · simp [Text.isWord, hline]

/-- The recogniser of variables answers exactly where one stands. -/
theorem scalarRule_eq_some_iff (before : Option Char) (context : Text) (p n : Nat) (name : Text) :
    scalarRule before (context.drop p) = some (n, name) ↔
      n = name.length ∧ VariableAt context p name := by
  constructor
  · intro h
    unfold scalarRule at h
    split at h
    · next first tail heq =>
      split at h
      · next hfirst =>
        simp only [] at h
        split at h
        · cases h
        · next hsep =>
          obtain ⟨rfl, rfl⟩ : (tail.takeWhile Text.isWord).length + 2 = n ∧
              '$' :: first :: tail.takeWhile Text.isWord = name := by simpa using h
          refine ⟨rfl, first, tail.takeWhile Text.isWord,
            tail.drop (tail.takeWhile Text.isWord).length, rfl, ?_, hfirst, ?_,
            Text.isWordAt_drop_takeWhile tail, ?_⟩
          · have htake := List.takeWhile_prefix Text.isWord (l := tail)
            rw [heq, List.cons_append, List.cons_append, ← List.prefix_append_drop htake]
          · intro c hc
            exact List.mem_takeWhile_imp hc
          · intro hprefix
            exact hsep (List.prefix_iff_eq_take.mp hprefix).symm
      · cases h
    · cases h
  · rintro ⟨rfl, first, more, rest, rfl, hdrop, hfirst, hmore, hword, hsep⟩
    rw [hdrop]
    have htake := Text.takeWhile_isWord_append hmore hword
    have hnosep : ¬rest.take 2 = [':', ':'] := fun h =>
      hsep (List.prefix_iff_eq_take.mpr h.symm)
    simp only [scalarRule, List.cons_append, hfirst, if_true, htake, List.drop_left, hnosep,
      if_false, List.length_cons]

/-- A variable does not begin inside another: behind its dollar sign it has word characters only. -/
theorem VariableAt.not_inside {context name other : Text} {p q : Nat}
    (h : VariableAt context p name) (hother : VariableAt context q other) (hlt : p < q) :
    ¬q < p + name.length := by
  intro hinside
  obtain ⟨first, more, rest, rfl, hdrop, hfirst, hmore, -, -⟩ := h
  obtain ⟨first', more', rest', rfl, hdrop', -, -, -, -⟩ := hother
  have hdollar : context[q]? = some '$' := by
    have hhead := congrArg List.head? hdrop'
    rwa [List.head?_drop] at hhead
  obtain ⟨d, rfl⟩ : ∃ d, q = p + (d + 1) := ⟨q - p - 1, by omega⟩
  have hbehind : (first :: more)[d]? = some '$' := by
    have hget := congrArg (fun l => l[d + 1]?) hdrop
    simp only [List.getElem?_drop] at hget
    rw [hdollar, List.getElem?_append_left (by omega), List.getElem?_cons_succ] at hget
    exact hget.symm
  have hword : Text.isWord '$' = true := by
    rcases List.mem_cons.mp (List.mem_of_getElem? hbehind) with hc | hc
    · rw [hc]
      exact isWord_of_startsIdentifier hfirst
    · exact hmore _ hc
  exact absurd hword (by decide)

/-- **The search finds every variable that stands in a text**, at its place, and nothing else. -/
theorem exists_match_iff (context : Text) (p : Nat) (name : Text) :
    (∃ m ∈ scalarRule.findAll context, m.start = p ∧ m.value = name) ↔
      VariableAt context p name := by
  have hanswer : ∀ q n t, scalarRule.answerAt context q = some (n, t) ↔
      n = t.length ∧ VariableAt context q t :=
    fun q n t => scalarRule_eq_some_iff _ context q n t
  have hmem : ∀ {m : Match Text}, m ∈ scalarRule.findAll context ↔ m.start < context.length ∧
      m.start < m.stop ∧
      scalarRule.answerAt context m.start = some (m.stop - m.start, m.value) := by
    refine Recogniser.mem_findAll_iff_of_apart fun {q r n k t u} hq hr hlt => ?_
    obtain ⟨rfl, hat⟩ := (hanswer q n t).mp hq
    exact Nat.le_of_not_lt (hat.not_inside ((hanswer r k u).mp hr).2 hlt)
  constructor
  · rintro ⟨m, hm, rfl, rfl⟩
    exact ((hanswer _ _ _).mp (hmem.mp hm).2.2).2
  · intro hat
    refine ⟨⟨p, p + name.length, name⟩, hmem.mpr ?_, rfl, rfl⟩
    obtain ⟨first, more, rest, rfl, hdrop, hfirst⟩ := hat
    refine ⟨?_, by simp, (hanswer _ _ _).mpr ⟨by simp, first, more, rest, rfl, hdrop, hfirst⟩⟩
    by_contra hge
    rw [List.drop_eq_nil_of_le (Nat.le_of_not_lt hge)] at hdrop
    cases hdrop

/-! ### Uses with their places -/

/-- A use of a variable at a call, with its place. -/
structure PlacedUse where
  /-- The number of the call among the calls of the file. -/
  call : Nat
  /-- The offset in the context of the call. -/
  offset : Nat
  /-- The variable. -/
  name : Text
  /-- The call. -/
  finding : CallFinding

namespace PlacedUse

/-- The use without its place. -/
def use (u : PlacedUse) : Text × CallFinding := (u.name, u.finding)

/-- Whether a use comes before another: at an earlier call, or earlier in the same context. -/
def Before (a b : PlacedUse) : Prop :=
  a.call < b.call ∨ a.call = b.call ∧ a.offset < b.offset

end PlacedUse

/-- The uses of variables at some calls, with their places. -/
def placedUses (calls : List CallFinding) : List PlacedUse :=
  calls.zipIdx.flatMap fun (c, k) =>
    (scalarRule.findAll c.context).map fun m => ⟨k, m.start, m.value, c⟩

/-- There is a placed use wherever a variable stands in the context of a call. -/
theorem mem_placedUses_iff (calls : List CallFinding) (u : PlacedUse) :
    u ∈ placedUses calls ↔
      calls[u.call]? = some u.finding ∧ VariableAt u.finding.context u.offset u.name := by
  unfold placedUses
  rw [List.mem_flatMap]
  constructor
  · rintro ⟨⟨c, k⟩, hc, hu⟩
    obtain ⟨m, hm, rfl⟩ := List.mem_map.mp hu
    exact ⟨List.mem_zipIdx_iff_getElem?.mp hc, (exists_match_iff _ _ _).mp ⟨m, hm, rfl, rfl⟩⟩
  · rintro ⟨hcall, hat⟩
    obtain ⟨m, hm, hstart, hvalue⟩ := (exists_match_iff _ _ _).mpr hat
    refine ⟨(u.finding, u.call), List.mem_zipIdx_iff_getElem?.mpr hcall, ?_⟩
    exact List.mem_map.mpr ⟨m, hm, by rw [hstart, hvalue]⟩

/-- Placed uses are listed in the order of their places. -/
theorem pairwise_placedUses (calls : List CallFinding) :
    (placedUses calls).Pairwise PlacedUse.Before := by
  unfold placedUses
  rw [List.pairwise_flatMap]
  constructor
  · rintro ⟨c, k⟩ -
    rw [List.pairwise_map]
    refine List.Pairwise.imp_of_mem ?_ (Recogniser.pairwise_findAll c.context)
    intro a b ha _ hab
    have hlt := (Recogniser.answerAt_of_mem_findAll ha).2.1
    exact Or.inr ⟨rfl, Nat.lt_of_lt_of_le hlt hab⟩
  · have hindex : calls.zipIdx.Pairwise fun a b => a.2 < b.2 := by
      have := List.pairwise_map.mp (List.zipIdx_map_snd 0 calls ▸ List.pairwise_lt_range')
      exact this
    refine hindex.imp fun hlt u hu w hw => ?_
    obtain ⟨m, -, rfl⟩ := List.mem_map.mp hu
    obtain ⟨m', -, rfl⟩ := List.mem_map.mp hw
    exact Or.inl hlt

/-- Without their places, these are the uses that the audit collects. -/
theorem map_use_placedUses (findings : List Finding) :
    (placedUses (findings.filterMap Finding.call?)).map PlacedUse.use = variableUses findings := by
  have hplain : ∀ calls : List CallFinding, (placedUses calls).map PlacedUse.use =
      calls.flatMap fun c => (variablesIn c.context).map fun name => (name, c) := by
    intro calls
    unfold placedUses variablesIn
    rw [List.map_flatMap]
    conv_rhs => rw [← List.zipIdx_map_fst 0 calls, List.flatMap_map]
    refine List.flatMap_congr fun place _ => ?_
    obtain ⟨c, k⟩ := place
    rw [List.map_map, List.map_map]
    rfl
  rw [hplain]
  unfold variableUses
  induction findings with
  | nil => rfl
  | cons f rest ih =>
    cases f with
    | call c => simp only [List.filterMap_cons, Finding.call?, List.flatMap_cons, ih]
    | literal l => simpa [List.filterMap_cons, Finding.call?] using ih
    | undeclared u => simpa [List.filterMap_cons, Finding.call?] using ih
    | foreign kind => simpa [List.filterMap_cons, Finding.call?] using ih

/-! ### The first use of each name -/

/-- The first use of each name, those in `seen` left out, with its place. -/
def firstPlaced : List Text → List PlacedUse → List PlacedUse
  | _, [] => []
  | seen, u :: rest =>
    if seen.contains u.name then firstPlaced seen rest
    else u :: firstPlaced (u.name :: seen) rest

theorem firstUses_map_use (seen : List Text) (uses : List PlacedUse) :
    firstUses seen (uses.map PlacedUse.use) = (firstPlaced seen uses).map PlacedUse.use := by
  induction uses generalizing seen with
  | nil => rfl
  | cons u rest ih =>
    rw [List.map_cons, PlacedUse.use, firstUses, firstPlaced]
    split
    · exact ih seen
    · rw [List.map_cons, ih]
      rfl

theorem firstPlaced_sublist (seen : List Text) (uses : List PlacedUse) :
    (firstPlaced seen uses).Sublist uses := by
  induction uses generalizing seen with
  | nil => exact List.Sublist.refl []
  | cons u rest ih =>
    rw [firstPlaced]
    split
    · exact (ih seen).cons u
    · exact (ih _).cons_cons u

/-- A name is kept if it is used and not seen. -/
theorem mem_map_name_firstPlaced (seen : List Text) (uses : List PlacedUse) (name : Text) :
    name ∈ (firstPlaced seen uses).map PlacedUse.name ↔
      name ∈ uses.map PlacedUse.name ∧ name ∉ seen := by
  induction uses generalizing seen with
  | nil => simp [firstPlaced]
  | cons u rest ih =>
    rw [firstPlaced]
    split
    · next hseen =>
      rw [ih, List.map_cons, List.mem_cons]
      constructor
      · rintro ⟨hrest, hnot⟩
        exact ⟨Or.inr hrest, hnot⟩
      · rintro ⟨rfl | hrest, hnot⟩
        · exact absurd (List.contains_iff_mem.mp hseen) hnot
        · exact ⟨hrest, hnot⟩
    · next hseen =>
      rw [List.map_cons, List.map_cons, List.mem_cons, List.mem_cons, ih, List.mem_cons, not_or]
      constructor
      · rintro (rfl | ⟨hrest, -, hnot⟩)
        · exact ⟨Or.inl rfl, fun hmem => hseen (List.contains_iff_mem.mpr hmem)⟩
        · exact ⟨Or.inr hrest, hnot⟩
      · rintro ⟨hname, hnot⟩
        by_cases heq : name = u.name
        · exact Or.inl heq
        · exact Or.inr ⟨hname.resolve_left heq, heq, hnot⟩

theorem nodup_map_name_firstPlaced (seen : List Text) (uses : List PlacedUse) :
    ((firstPlaced seen uses).map PlacedUse.name).Nodup := by
  induction uses generalizing seen with
  | nil => exact List.nodup_nil
  | cons u rest ih =>
    rw [firstPlaced]
    split
    · exact ih seen
    · rw [List.map_cons, List.nodup_cons]
      refine ⟨fun hmem => ?_, ih _⟩
      exact ((mem_map_name_firstPlaced _ _ _).mp hmem).2 List.mem_cons_self

/-- A use that is kept comes before every other use of the same name. -/
theorem before_of_mem_firstPlaced {seen : List Text} {uses : List PlacedUse}
    (horder : uses.Pairwise PlacedUse.Before) {u w : PlacedUse} (hu : u ∈ firstPlaced seen uses)
    (hw : w ∈ uses) (hname : w.name = u.name) : w = u ∨ u.Before w := by
  induction uses generalizing seen with
  | nil => cases hw
  | cons x rest ih =>
    obtain ⟨hfirst, hrest⟩ := List.pairwise_cons.mp horder
    have hkept : ∀ seen', u ∈ firstPlaced seen' rest → u.name ∉ seen' := fun seen' h =>
      ((mem_map_name_firstPlaced _ _ _).mp (List.mem_map_of_mem h)).2
    rw [firstPlaced] at hu
    split at hu
    · next hseen =>
      rcases List.mem_cons.mp hw with rfl | hw
      · exact absurd (hname ▸ List.contains_iff_mem.mp hseen) (hkept _ hu)
      · exact ih hrest hu hw
    · rcases List.mem_cons.mp hu with rfl | hu
      · rcases List.mem_cons.mp hw with rfl | hw
        · exact Or.inl rfl
        · exact Or.inr (hfirst w hw)
      · rcases List.mem_cons.mp hw with rfl | hw
        · exact absurd (hname ▸ List.mem_cons_self) (hkept _ hu)
        · exact ih hrest hu hw

/-! ### The report -/

/-- A variable stands at offset `p` of the context of call `k`. -/
def UsedAt (calls : List CallFinding) (name : Text) (k p : Nat) : Prop :=
  ∃ c, calls[k]? = some c ∧ VariableAt c.context p name

/-- The first place at which some calls use a variable, in order of calls and then of offsets. -/
def FirstUsedAt (calls : List CallFinding) (name : Text) (k p : Nat) : Prop :=
  UsedAt calls name k p ∧
    ∀ k' p', UsedAt calls name k' p' → k < k' ∨ k = k' ∧ p ≤ p'

/-- The undeclared variable of a use. -/
def PlacedUse.undeclared (u : PlacedUse) : UndeclaredFinding where
  target := u.name
  usedInLine := u.finding.line
  context := u.finding.context

/-- The undeclared variables that the audit adds to the kept findings are the first uses at the calls
of the names that are neither ignored nor assigned a literal. -/
theorem undeclaredVariables_keptFindings (v : Vocabulary) (content : Text) (arena : Arena) :
    undeclaredVariables v (keptFindings v content arena) =
      (firstPlaced (v.ignoredVariables ++ (sqlLiterals v arena).filterMap fun l => l.target)
        (placedUses (callSites v content))).map PlacedUse.undeclared := by
  unfold undeclaredVariables
  rw [declaredVariables_keptFindings, ← map_use_placedUses, filterMap_call_keptFindings,
    firstUses_map_use, List.map_map]
  rfl

/-- These are all the undeclared variables among the findings of a file. -/
theorem filterMap_undeclared_scanArena (v : Vocabulary) (content : Text) (arena : Arena) :
    (scanArena v content arena).filterMap Finding.undeclared? =
      (firstPlaced (v.ignoredVariables ++ (sqlLiterals v arena).filterMap fun l => l.target)
        (placedUses (callSites v content))).map PlacedUse.undeclared := by
  have hkept : (keptFindings v content arena).filterMap Finding.undeclared? = [] := by
    rw [filterMap_keptFindings v content arena _ (fun _ _ => rfl), filterMap_located,
      List.append_eq_nil_iff]
    exact ⟨List.filterMap_eq_nil_iff.mpr fun _ _ => rfl,
      List.filterMap_eq_nil_iff.mpr fun _ _ => rfl⟩
  have hadded : ∀ us : List UndeclaredFinding,
      (us.map Finding.undeclared).filterMap Finding.undeclared? = us := by
    intro us
    rw [List.filterMap_map]
    exact List.filterMap_some
  rw [scanArena_eq, List.filterMap_append, hkept, hadded, List.nil_append,
    undeclaredVariables_keptFindings]

/-- The calls among the findings of a file are the calls that its text shows. -/
theorem filterMap_call_scanArena (v : Vocabulary) (content : Text) (arena : Arena) :
    (scanArena v content arena).filterMap Finding.call? = callSites v content := by
  have hadded : ((undeclaredVariables v (keptFindings v content arena)).map
      Finding.undeclared).filterMap Finding.call? = [] := by
    rw [List.filterMap_map]
    exact List.filterMap_eq_nil_iff.mpr fun _ _ => rfl
  rw [scanArena_eq, List.filterMap_append, hadded, List.append_nil, filterMap_call_keptFindings]

/-- A name is used at some place of the calls if and only if a placed use has it. -/
theorem mem_map_name_placedUses (calls : List CallFinding) (name : Text) :
    name ∈ (placedUses calls).map PlacedUse.name ↔ ∃ k p, UsedAt calls name k p := by
  rw [List.mem_map]
  constructor
  · rintro ⟨u, hu, rfl⟩
    obtain ⟨hcall, hat⟩ := (mem_placedUses_iff calls u).mp hu
    exact ⟨u.call, u.offset, u.finding, hcall, hat⟩
  · rintro ⟨k, p, c, hcall, hat⟩
    exact ⟨⟨k, p, name, c⟩, (mem_placedUses_iff calls _).mpr ⟨hcall, hat⟩, rfl⟩

/-- A use that is kept is at the first place of its name. -/
theorem firstUsedAt_of_mem_firstPlaced {calls : List CallFinding} {seen : List Text}
    {u : PlacedUse} (hu : u ∈ firstPlaced seen (placedUses calls)) :
    FirstUsedAt calls u.name u.call u.offset := by
  have hmem := (firstPlaced_sublist seen (placedUses calls)).subset hu
  obtain ⟨hcall, hat⟩ := (mem_placedUses_iff calls u).mp hmem
  refine ⟨⟨u.finding, hcall, hat⟩, ?_⟩
  rintro k p ⟨c, hc, hcat⟩
  have hw : (⟨k, p, u.name, c⟩ : PlacedUse) ∈ placedUses calls :=
    (mem_placedUses_iff calls _).mpr ⟨hc, hcat⟩
  rcases before_of_mem_firstPlaced (pairwise_placedUses calls) hu hw rfl with heq | hbefore
  · exact Or.inr ⟨(congrArg PlacedUse.call heq).symm, (congrArg PlacedUse.offset heq).ge⟩
  · exact hbefore.imp id fun h => ⟨h.1, h.2.le⟩

/-- There is one first place at most. -/
theorem FirstUsedAt.unique {calls : List CallFinding} {name : Text} {k p k' p' : Nat}
    (h : FirstUsedAt calls name k p) (h' : FirstUsedAt calls name k' p') : k = k' ∧ p = p' := by
  have hle := h.2 k' p' h'.1
  have hge := h'.2 k p h.1
  omega

/-- A variable is the target of a literal among some findings. -/
theorem mem_filterMap_target (findings : List Finding) (name : Text) :
    name ∈ findings.filterMap (fun f => f.literal?.bind fun l => l.target) ↔
      ∃ l, Finding.literal l ∈ findings ∧ l.target = some name := by
  rw [List.mem_filterMap]
  constructor
  · rintro ⟨f, hf, htarget⟩
    cases f with
    | literal l => exact ⟨l, hf, htarget⟩
    | call c => cases htarget
    | undeclared u => cases htarget
    | foreign kind => cases htarget
  · rintro ⟨l, hl, htarget⟩
    exact ⟨.literal l, hl, htarget⟩

/-- **Undeclared variables are reported exactly.** With the calls and the undeclared variables that
the findings of a file list: no variable is listed twice; listed are the variables that stand in
the context of a call, are not ignored, and are the target of no literal that was located, where it
makes no difference whether literals that a call shows are counted; each is listed with the line and
the context of the first call that uses it; and they are listed in the order of their first
places. -/
theorem undeclared_variables_exact (v : Vocabulary) (content : Text) (arena : Arena) :
    let calls := (scanArena v content arena).filterMap Finding.call?
    let listed := (scanArena v content arena).filterMap Finding.undeclared?
    (listed.map UndeclaredFinding.target).Nodup ∧
    (∀ name, name ∈ listed.map UndeclaredFinding.target ↔
      (∃ k p, UsedAt calls name k p) ∧ name ∉ v.ignoredVariables ∧
        ∀ l ∈ sqlLiterals v arena, l.target ≠ some name) ∧
    (∀ name, (∃ l ∈ sqlLiterals v arena, l.target = some name) ↔
      ∃ l, Finding.literal l ∈ deduplicate (located v content arena) ∧ l.target = some name) ∧
    (∀ u ∈ listed, ∃ k p c, FirstUsedAt calls u.target k p ∧ calls[k]? = some c ∧
      u = { target := u.target, usedInLine := c.line, context := c.context }) ∧
    listed.Pairwise fun a b => ∀ k p k' p', FirstUsedAt calls a.target k p →
      FirstUsedAt calls b.target k' p' → k < k' ∨ k = k' ∧ p < p' := by
  intro calls listed
  have hcalls : calls = callSites v content := filterMap_call_scanArena v content arena
  have hlisted : listed = _ := filterMap_undeclared_scanArena v content arena
  rw [← hcalls] at hlisted
  set seen := v.ignoredVariables ++ (sqlLiterals v arena).filterMap fun l => l.target with hseen
  have htargets : listed.map UndeclaredFinding.target =
      (firstPlaced seen (placedUses calls)).map PlacedUse.name := by
    rw [hlisted, List.map_map]
    rfl
  have hnotSeen : ∀ name, name ∉ seen ↔
      name ∉ v.ignoredVariables ∧ ∀ l ∈ sqlLiterals v arena, l.target ≠ some name := by
    intro name
    rw [hseen, List.mem_append, not_or, List.mem_filterMap]
    simp only [not_exists, not_and, ne_eq]
  refine ⟨?_, ?_, ?_, ?_, ?_⟩
  · rw [htargets]
    exact nodup_map_name_firstPlaced _ _
  · intro name
    rw [htargets, mem_map_name_firstPlaced, mem_map_name_placedUses, hnotSeen]
  · intro name
    have hkept := filterMap_deduplicate (fun f => f.literal?.bind fun l => l.target)
      (fun _ hl => hl) (located v content arena)
    rw [← mem_filterMap_target, hkept, mem_filterMap_target]
    simp [located]
  · intro u hu
    rw [hlisted] at hu
    obtain ⟨w, hw, rfl⟩ := List.mem_map.mp hu
    have hmem := (firstPlaced_sublist _ _).subset hw
    exact ⟨w.call, w.offset, w.finding, firstUsedAt_of_mem_firstPlaced hw,
      ((mem_placedUses_iff calls w).mp hmem).1, rfl⟩
  · rw [hlisted, List.pairwise_map]
    have horder := (pairwise_placedUses calls).sublist (firstPlaced_sublist seen _)
    refine List.Pairwise.imp_of_mem ?_ horder
    intro a b ha hb hbefore k p k' p' hfirst hfirst'
    obtain ⟨rfl, rfl⟩ := hfirst.unique (firstUsedAt_of_mem_firstPlaced ha)
    obtain ⟨rfl, rfl⟩ := hfirst'.unique (firstUsedAt_of_mem_firstPlaced hb)
    exact hbefore

end SqlInventory
