import SqlInventory.Proofs.Audit.UndeclaredUses
import SqlInventory.Proofs.Perl.TokenLines

/-!
# The order of a file's findings

The findings of a file come in four runs: quoted literals, here-documents, calls, and undeclared
variables. Inside each run the lines never go back (`InLineOrder`). Each run has its order from what
it is read from:

* literals from the arena, whose tokens are in order of their lines (`inLineOrder_keptLiterals`);
* calls from the text, in which they are found from left to right (`pairwise_line_callSites`);
* undeclared variables from the calls, since each stands at the first call that uses it
  (`pairwise_usedInLine_undeclaredVariables`).

Leaving out literals and naming them changes no order. A file is without findings only if nothing
was located in it (`scanArena_eq_nil_iff`): where there is no call, no literal is left out.
-/

namespace SqlInventory

open Perl

/-! ### Lines in order -/

/-- **Lines that never go back**: they are all known, and each is at most as far down as those
behind it. -/
def InLineOrder (lines : List (Option LineNumber)) : Prop :=
  ∃ known : List LineNumber, lines = known.map some ∧ known.Pairwise fun a b => a.value ≤ b.value

theorem InLineOrder.sublist {lines others : List (Option LineNumber)} (h : InLineOrder lines)
    (hsub : others.Sublist lines) : InLineOrder others := by
  obtain ⟨known, rfl, horder⟩ := h
  obtain ⟨fewer, hfewer, rfl⟩ := List.sublist_map_iff.mp hsub
  exact ⟨fewer, rfl, horder.sublist hfewer⟩

/-- **Findings in four runs**: quoted literals, here-documents, calls and undeclared variables, each
run in the order of its lines. -/
def InRuns (findings : List Finding) : Prop :=
  ∃ (strings heredocs : List LiteralFinding) (calls : List CallFinding)
    (undeclared : List UndeclaredFinding),
    findings = strings.map .literal ++ heredocs.map .literal ++ calls.map .call ++
      undeclared.map .undeclared ∧
    (∀ l ∈ strings, l.form = .string) ∧ (∀ l ∈ heredocs, l.form = .heredoc) ∧
    InLineOrder (strings.map LiteralFinding.line) ∧
    InLineOrder (heredocs.map LiteralFinding.line) ∧
    InLineOrder (calls.map fun c => some c.line) ∧
    InLineOrder (undeclared.map fun u => some u.usedInLine)

/-! ### Literals -/

/-- The literals of one form that no call shows, named. -/
def keptLiterals (v : Vocabulary) (content : Text) (arena : Arena) (kind : TokenKind)
    (form : LiteralForm) : List LiteralFinding :=
  ((literalsOf v arena kind form).filter fun l =>
    !isShown (callContexts (located v content arena)) (.literal l)).map (LiteralFinding.named v)

/-- The kept findings are the kept literals of either form, and then all calls. -/
theorem keptFindings_eq (v : Vocabulary) (content : Text) (arena : Arena) :
    keptFindings v content arena =
      (keptLiterals v content arena .literal .string).map .literal ++
        (keptLiterals v content arena .heredoc .heredoc).map .literal ++
        (callSites v content).map .call := by
  have hliterals : ∀ (p : Finding → Bool) (ls : List LiteralFinding),
      ((ls.map Finding.literal).filter p).map (Finding.named v) =
        ((ls.filter fun l => p (.literal l)).map (LiteralFinding.named v)).map .literal := by
    intro p ls
    rw [List.filter_map, List.map_map, List.map_map]
    rfl
  have hcalls : ∀ contexts, (((callSites v content).map Finding.call).filter
      fun f => !isShown contexts f).map (Finding.named v) = (callSites v content).map .call := by
    intro contexts
    rw [List.filter_map, List.map_map]
    -- No call is a literal that is shown, and a call has no name.
    exact congrArg (List.map Finding.call) (List.filter_true _)
  unfold keptFindings keptLiterals
  rw [nameFindings_eq_map, deduplicate]
  generalize callContexts (located v content arena) = contexts
  unfold located sqlLiterals
  rw [List.map_append, List.filter_append, List.filter_append, List.map_append, List.map_append,
    hliterals, hliterals, hcalls]

theorem form_of_mem_keptLiterals {v : Vocabulary} {content : Text} {arena : Arena}
    {kind : TokenKind} {form : LiteralForm} {l : LiteralFinding}
    (h : l ∈ keptLiterals v content arena kind form) : l.form = form := by
  obtain ⟨l, hl, rfl⟩ := List.mem_map.mp h
  obtain ⟨⟨t, i⟩, -, hfound⟩ := List.mem_filterMap.mp (List.mem_of_mem_filter hl)
  simp only [Option.ite_none_right_eq_some, Option.some.injEq] at hfound
  rw [form_named, ← hfound.2]
  rfl

/-- The lines of the literals of one form are lines of tokens, in their order. -/
theorem map_line_literalsOf_sublist (v : Vocabulary) (arena : Arena) (kind : TokenKind)
    (form : LiteralForm) :
    ((literalsOf v arena kind form).map LiteralFinding.line).Sublist
      (arena.map fun t => some t.line) := by
  have hlines : (literalsOf v arena kind form).map LiteralFinding.line =
      ((arena.ofKind kind).filter fun p => v.isSql p.1.text).map fun p => some p.1.line := by
    unfold literalsOf
    rw [List.map_filterMap, ← List.filterMap_eq_map, List.filterMap_filter]
    refine List.filterMap_congr fun p _ => ?_
    obtain ⟨t, i⟩ := p
    by_cases hsql : v.isSql t.text = true <;> simp [hsql, literalFinding]
  have harena : arena.map (fun t => some t.line) =
      arena.zipIdx.map fun p => some p.1.line := by
    conv_lhs => rw [← List.zipIdx_map_fst 0 arena, List.map_map]
    rfl
  rw [hlines, harena]
  exact (List.filter_sublist.trans List.filter_sublist).map _

theorem inLineOrder_keptLiterals (v : Vocabulary) (content : Text) {arena : Arena}
    (horder : arena.Pairwise fun t u => t.line.value ≤ u.line.value) (kind : TokenKind)
    (form : LiteralForm) :
    InLineOrder ((keptLiterals v content arena kind form).map LiteralFinding.line) := by
  have harena : InLineOrder (arena.map fun t => some t.line) :=
    ⟨arena.map Token.line, (List.map_map ..).symm, List.pairwise_map.mpr horder⟩
  have hnamed : LiteralFinding.line ∘ LiteralFinding.named v = LiteralFinding.line :=
    funext (line_named v)
  unfold keptLiterals
  rw [List.map_map, hnamed]
  exact harena.sublist
    ((List.filter_sublist.map _).trans (map_line_literalsOf_sublist v arena kind form))

/-! ### Calls and undeclared variables -/

/-- Further on in a text, the line is the same or a later one. -/
theorem lineOfOffset_mono (content : Text) {a b : Nat} (h : a ≤ b) :
    lineOfOffset content (some a) ≤ lineOfOffset content (some b) := by
  rw [lineOfOffset_eq, lineOfOffset_eq]
  exact Nat.add_le_add_right ((List.take_prefix_take_left h).sublist.count_le _) 1

theorem pairwise_line_callSites (v : Vocabulary) (content : Text) :
    (callSites v content).Pairwise fun c d => c.line.value ≤ d.line.value := by
  unfold callSites callMatches
  rw [List.pairwise_map]
  refine List.Pairwise.imp_of_mem ?_ (Recogniser.pairwise_findAll content)
  intro m m' hm _ hapart
  have hlt := (Recogniser.answerAt_of_mem_findAll hm).2.1
  exact Int.ofNat_le.mpr (lineOfOffset_mono content (by omega))

/-- Uses in order of place are in order of line, if the calls are. -/
theorem line_le_of_before {calls : List CallFinding}
    (horder : calls.Pairwise fun c d => c.line.value ≤ d.line.value) {u w : PlacedUse}
    (hu : u ∈ placedUses calls) (hw : w ∈ placedUses calls) (hbefore : u.Before w) :
    u.finding.line.value ≤ w.finding.line.value := by
  obtain ⟨hlt, hucall⟩ := List.getElem?_eq_some_iff.mp ((mem_placedUses_iff calls u).mp hu).1
  obtain ⟨hlt', hwcall⟩ := List.getElem?_eq_some_iff.mp ((mem_placedUses_iff calls w).mp hw).1
  rw [← hucall, ← hwcall]
  rcases hbefore with hearlier | ⟨hsame, -⟩
  · exact List.pairwise_iff_getElem.mp horder _ _ hlt hlt' hearlier
  · simp only [hsame]
    exact Int.le_refl _

theorem pairwise_usedInLine_undeclaredVariables (v : Vocabulary) (content : Text)
    (arena : Arena) :
    (undeclaredVariables v (keptFindings v content arena)).Pairwise
      fun a b => a.usedInLine.value ≤ b.usedInLine.value := by
  rw [undeclaredVariables_keptFindings, List.pairwise_map]
  have hsub := firstPlaced_sublist
    (v.ignoredVariables ++ (sqlLiterals v arena).filterMap fun l => l.target)
    (placedUses (callSites v content))
  refine List.Pairwise.imp_of_mem ?_ ((pairwise_placedUses _).sublist hsub)
  intro u w hu hw hbefore
  exact line_le_of_before (pairwise_line_callSites v content) (hsub.subset hu) (hsub.subset hw)
    hbefore

/-- The findings of an arena whose tokens are in order of their lines are in runs. -/
theorem inRuns_scanArena (v : Vocabulary) (content : Text) {arena : Arena}
    (horder : arena.Pairwise fun t u => t.line.value ≤ u.line.value) :
    InRuns (scanArena v content arena) := by
  refine ⟨keptLiterals v content arena .literal .string,
    keptLiterals v content arena .heredoc .heredoc, callSites v content,
    undeclaredVariables v (keptFindings v content arena), ?_,
    fun l hl => form_of_mem_keptLiterals hl, fun l hl => form_of_mem_keptLiterals hl,
    inLineOrder_keptLiterals v content horder .literal .string,
    inLineOrder_keptLiterals v content horder .heredoc .heredoc, ?_, ?_⟩
  · rw [scanArena_eq, ← keptFindings_eq]
  · exact ⟨(callSites v content).map CallFinding.line, (List.map_map ..).symm,
      List.pairwise_map.mpr (pairwise_line_callSites v content)⟩
  · exact ⟨_, (List.map_map ..).symm,
      List.pairwise_map.mpr (pairwise_usedInLine_undeclaredVariables v content arena)⟩

/-! ### Files without findings -/

theorem literalsOf_eq_nil_iff (v : Vocabulary) (arena : Arena) (kind : TokenKind)
    (form : LiteralForm) :
    literalsOf v arena kind form = [] ↔
      ∀ t ∈ arena, t.kind = kind → v.isSql t.text = false := by
  unfold literalsOf Arena.ofKind
  rw [List.filterMap_eq_nil_iff]
  constructor
  · intro hnone t ht hkind
    obtain ⟨i, hi⟩ := List.mem_iff_getElem?.mp ht
    have hmem : (t, i) ∈ arena.zipIdx.filter fun p => p.1.kind == kind :=
      List.mem_filter.mpr ⟨List.mem_zipIdx_iff_getElem?.mpr hi, beq_iff_eq.mpr hkind⟩
    simpa using hnone (t, i) hmem
  · rintro hall ⟨t, i⟩ hmem
    obtain ⟨hplace, hkind⟩ := List.mem_filter.mp hmem
    have ht : t ∈ arena := List.mem_of_getElem? (List.mem_zipIdx_iff_getElem?.mp hplace)
    simp only [hall t ht (beq_iff_eq.mp hkind), Bool.false_eq_true, if_false]

/-- An arena has no SQL literal if and only if no token of either literal kind reads like SQL. -/
theorem sqlLiterals_eq_nil_iff (v : Vocabulary) (arena : Arena) :
    sqlLiterals v arena = [] ↔
      ∀ t ∈ arena, t.kind = .literal ∨ t.kind = .heredoc → v.isSql t.text = false := by
  unfold sqlLiterals
  rw [List.append_eq_nil_iff, literalsOf_eq_nil_iff, literalsOf_eq_nil_iff]
  constructor
  · rintro ⟨hstrings, hheredocs⟩ t ht (hkind | hkind)
    · exact hstrings t ht hkind
    · exact hheredocs t ht hkind
  · intro hall
    exact ⟨fun t ht hkind => hall t ht (Or.inl hkind), fun t ht hkind => hall t ht (Or.inr hkind)⟩

/-- A text has no call if and only if the rule for calls answers at none of its places. -/
theorem callSites_eq_nil_iff (v : Vocabulary) (content : Text) :
    callSites v content = [] ↔
      ∀ p, (callRule (Text.trialOrder v.callVerbs)).answerAt content p = none := by
  unfold callSites callMatches
  rw [List.map_eq_nil_iff]
  constructor
  · intro hnone p
    by_contra hanswer
    obtain ⟨⟨n, verb⟩, hcall⟩ := Option.ne_none_iff_exists'.mp hanswer
    obtain ⟨rest, length, hrest, rfl, -⟩ := callRule_eq_some_iff.mp hcall
    have hlt : p < content.length := by
      by_contra hge
      rw [List.drop_eq_nil_of_le (Nat.le_of_not_lt hge)] at hrest
      cases hrest
    obtain ⟨m, hm, -⟩ := Recogniser.exists_mem_findAll hlt hcall
    rw [hnone] at hm
    cases hm
  · intro hall
    rw [List.eq_nil_iff_forall_not_mem]
    intro m hm
    have hanswer := (Recogniser.answerAt_of_mem_findAll hm).2.2
    rw [hall] at hanswer
    cases hanswer

/-- Without calls, no literal is left out. -/
theorem deduplicate_of_callSites_eq_nil {v : Vocabulary} {content : Text} (arena : Arena)
    (h : callSites v content = []) :
    deduplicate (located v content arena) = (sqlLiterals v arena).map .literal := by
  have hlocated : located v content arena = (sqlLiterals v arena).map .literal := by
    rw [located, h, List.map_nil, List.append_nil]
  have hcontexts : callContexts ((sqlLiterals v arena).map .literal) = [] := by
    unfold callContexts
    rw [List.filterMap_map]
    exact List.filterMap_eq_nil_iff.mpr fun _ _ => rfl
  rw [hlocated, deduplicate, hcontexts, List.filter_eq_self]
  intro f hf
  obtain ⟨l, -, rfl⟩ := List.mem_map.mp hf
  simp [isShown]

/-- **A file has findings if anything was located in it.** Calls all stay, and a literal is left out
only where a call shows it. -/
theorem scanArena_eq_nil_iff (v : Vocabulary) (content : Text) (arena : Arena) :
    scanArena v content arena = [] ↔ sqlLiterals v arena = [] ∧ callSites v content = [] := by
  constructor
  · intro hnone
    have hcalls : callSites v content = [] := by
      rw [← filterMap_call_scanArena v content arena, hnone]
      rfl
    have hkept : keptFindings v content arena = [] := by
      rw [scanArena_eq] at hnone
      exact (List.append_eq_nil_iff.mp hnone).1
    rw [keptFindings, nameFindings_eq_map, deduplicate_of_callSites_eq_nil arena hcalls,
      List.map_eq_nil_iff, List.map_eq_nil_iff] at hkept
    exact ⟨hkept, hcalls⟩
  · rintro ⟨hliterals, hcalls⟩
    have hkept : keptFindings v content arena = [] := by
      rw [keptFindings, nameFindings_eq_map, deduplicate_of_callSites_eq_nil arena hcalls,
        hliterals]
      rfl
    rw [scanArena_eq, hkept]
    rfl

/-! ### The findings of a source -/

/-- **The shape of a file's findings.** A source without a NUL byte has an arena, whatever its tree
is, and its findings come in four runs, each in the order of its lines. There are none if and only
if no quoted literal and no here-document of the arena reads like SQL and there is a call at no
place of the decoded text. -/
theorem findings_in_runs (v : Vocabulary) (source : Bytes) (tree : Tree) (htext : 0 ∉ source) :
    parse source (.answered (some tree)) = .ok (arenaOf source tree, tree.hasError) ∧
    ∃ findings, scanSource v source (.answered (some tree)) = .ok findings ∧
      InRuns findings ∧
      (findings = [] ↔
        (∀ t ∈ arenaOf source tree, t.kind = .literal ∨ t.kind = .heredoc →
          v.isSql t.text = false) ∧
        ∀ p, (callRule (Text.trialOrder v.callVerbs)).answerAt (Utf8.decode source) p = none) := by
  have hparse : parse source (.answered (some tree)) =
      .ok (arenaOf source tree, tree.hasError) := by
    simp [parse, htext]
  refine ⟨hparse, scanArena v (Utf8.decode source) (arenaOf source tree), ?_, ?_, ?_⟩
  · rw [scanSource, hparse]
    rfl
  · exact inRuns_scanArena v _ (pairwise_line_arenaOf source tree)
  · rw [scanArena_eq_nil_iff, sqlLiterals_eq_nil_iff, callSites_eq_nil_iff]

/-- A call, and a literal on the line below it. -/
def callAboveLiteral : Bytes :=
  "$d->do($x);\n\"SELECT 1\"".toList.map byteOf

/-- A tree for `callAboveLiteral` whose nodes are out of order and overlap. -/
def callAboveLiteralTree : Tree where
  root := .mk "source_file" 0 22 [.mk "string_literal" 12 22 [], .mk "->" 2 6 [],
    .mk "scalar" 0 4 [], .mk "scalar" 7 9 []]

/-- A vocabulary with a single call verb. -/
def doOnly : Vocabulary := { callVerbs := ["do".toList] }

theorem callAboveLiteral_in_runs :
    0 ∉ callAboveLiteral ∧
      ∃ findings, scanSource doOnly callAboveLiteral (.answered (some callAboveLiteralTree)) =
          .ok findings ∧
        InRuns findings ∧ findings ≠ [] := by
  have htext : 0 ∉ callAboveLiteral := by decide
  obtain ⟨-, findings, hscan, hruns, hnone⟩ :=
    findings_in_runs doOnly callAboveLiteral callAboveLiteralTree htext
  refine ⟨htext, findings, hscan, hruns, ?_⟩
  intro hempty
  have horder : Text.trialOrder doOnly.callVerbs = ["do".toList] :=
    Text.trialOrder_eq_of_perm (by decide) (by decide) (by decide)
  have hcall := (hnone.mp hempty).2 2
  rw [horder] at hcall
  exact absurd hcall (by decide +kernel)

end SqlInventory
