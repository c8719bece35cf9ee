import SqlInventory.Audit.Scan
import SqlInventory.Proofs.Text.Order
import Mathlib.Data.List.Basic

/-!
# What the stages of an audit keep

The audit of a file is a pipeline: literals and calls are located, literals that a call shows are
left out, literals are named, and undeclared variables are added. Every result about the pipeline
looks at its output through some *reading*, a partial function on findings: the attributed
literals, the calls, the targets.

* `filterMap_deduplicate`: a reading that is blind to literals without a target does not see that
  literals were left out;
* `filterMap_nameFindings`: a reading after naming is a reading of the named literals before it.

With the two, no later proof opens a stage again.
-/

namespace SqlInventory

open Perl

variable {β : Type}

/-! ### Leaving out what a call shows -/

/-- A literal with a target is never left out. -/
theorem isShown_of_target {l : LiteralFinding} (h : l.target ≠ none) (contexts : List Text) :
    isShown contexts (.literal l) = false := by
  obtain ⟨target, htarget⟩ := Option.ne_none_iff_exists'.mp h
  simp [isShown, htarget]

/-- **Only literals without a target are left out.** A reading that answers nothing for them reads
the same before and after. -/
theorem filterMap_deduplicate (read : Finding → Option β)
    (hread : ∀ l : LiteralFinding, l.target = none → read (.literal l) = none)
    (findings : List Finding) :
    (deduplicate findings).filterMap read = findings.filterMap read := by
  unfold deduplicate
  rw [List.filterMap_filter]
  refine List.filterMap_congr fun f _ => ?_
  cases f with
  | literal l =>
    by_cases htarget : l.target = none
    · rw [hread l htarget, ite_self]
    · rw [isShown_of_target htarget]
      rfl
  | call c => rfl
  | undeclared u => rfl
  | foreign kind => rfl

/-! ### Naming -/

/-- Naming a literal leaves its target alone. -/
@[simp] theorem target_named (v : Vocabulary) (l : LiteralFinding) :
    (l.named v).target = l.target := by
  unfold LiteralFinding.named
  cases h : l.target <;> simp [h]

@[simp] theorem form_named (v : Vocabulary) (l : LiteralFinding) : (l.named v).form = l.form := by
  unfold LiteralFinding.named
  split <;> rfl

@[simp] theorem line_named (v : Vocabulary) (l : LiteralFinding) : (l.named v).line = l.line := by
  unfold LiteralFinding.named
  split <;> rfl

@[simp] theorem snippet_named (v : Vocabulary) (l : LiteralFinding) :
    (l.named v).snippet = l.snippet := by
  unfold LiteralFinding.named
  split <;> rfl

@[simp] theorem statement_named (v : Vocabulary) (l : LiteralFinding) :
    (l.named v).statement = l.statement := by
  unfold LiteralFinding.named
  split <;> rfl

/-- A finding as it is after naming. -/
def Finding.named (v : Vocabulary) : Finding → Finding
  | .literal l => .literal (l.named v)
  | other => other

theorem nameFindings_eq_map (v : Vocabulary) (findings : List Finding) :
    nameFindings v findings = findings.map (Finding.named v) := by
  unfold nameFindings
  refine List.map_congr_left fun f _ => ?_
  cases f <;> rfl

/-- A reading after naming is a reading of each finding as named. -/
theorem filterMap_nameFindings (v : Vocabulary) (read : Finding → Option β)
    (findings : List Finding) :
    (nameFindings v findings).filterMap read =
      findings.filterMap fun f => read (f.named v) := by
  rw [nameFindings_eq_map, List.filterMap_map]
  rfl

/-! ### The whole audit -/

/-- A reading of what is located reads the literals and then the calls. -/
theorem filterMap_located (v : Vocabulary) (content : Text) (arena : Arena)
    (read : Finding → Option β) :
    (located v content arena).filterMap read =
      (sqlLiterals v arena).filterMap (fun l => read (.literal l)) ++
        (callSites v content).filterMap fun c => read (.call c) := by
  unfold located
  rw [List.filterMap_append, List.filterMap_map, List.filterMap_map]
  rfl

/-- The findings that stand before the undeclared variables. -/
def keptFindings (v : Vocabulary) (content : Text) (arena : Arena) : List Finding :=
  nameFindings v (deduplicate (located v content arena))

theorem scanArena_eq (v : Vocabulary) (content : Text) (arena : Arena) :
    scanArena v content arena =
      keptFindings v content arena ++
        (undeclaredVariables v (keptFindings v content arena)).map .undeclared := rfl

/-- A reading of the kept findings that ignores literals without a target is a reading of all that
was located. -/
theorem filterMap_keptFindings (v : Vocabulary) (content : Text) (arena : Arena)
    (read : Finding → Option β)
    (hread : ∀ l : LiteralFinding, l.target = none → read (.literal l) = none) :
    (keptFindings v content arena).filterMap read =
      (located v content arena).filterMap fun f => read (f.named v) := by
  unfold keptFindings
  rw [filterMap_nameFindings]
  refine filterMap_deduplicate _ (fun l hl => ?_) _
  exact hread (l.named v) (by rw [target_named, hl])

/-- The calls of a file all stay, in order. -/
theorem filterMap_call_keptFindings (v : Vocabulary) (content : Text) (arena : Arena) :
    (keptFindings v content arena).filterMap Finding.call? = callSites v content := by
  rw [filterMap_keptFindings v content arena _ (fun _ _ => rfl), filterMap_located]
  have hliterals : (sqlLiterals v arena).filterMap
      (fun l => ((Finding.literal l).named v).call?) = [] :=
    List.filterMap_eq_nil_iff.mpr fun _ _ => rfl
  have hcalls : (callSites v content).filterMap
      (fun c => ((Finding.call c).named v).call?) = callSites v content :=
    List.filterMap_some
  rw [hliterals, hcalls, List.nil_append]

/-- The variables to which a literal among the kept findings is assigned are those to which a located
literal is assigned. -/
theorem declaredVariables_keptFindings (v : Vocabulary) (content : Text) (arena : Arena) :
    declaredVariables (keptFindings v content arena) =
      (sqlLiterals v arena).filterMap fun l => l.target := by
  have hread : ∀ findings : List Finding, declaredVariables findings =
      findings.filterMap fun f => f.literal?.bind fun l => l.target := by
    intro findings
    refine List.filterMap_congr fun f _ => ?_
    cases f <;> rfl
  have hcalls : (callSites v content).filterMap
      (fun c => ((Finding.call c).named v).literal?.bind fun l => l.target) = [] :=
    List.filterMap_eq_nil_iff.mpr fun _ _ => rfl
  rw [hread, filterMap_keptFindings v content arena _ (fun _ hl => hl), filterMap_located, hcalls,
    List.append_nil]
  exact List.filterMap_congr fun l _ => target_named v l

/-! ### The usual words

Words are sorted before they are tried, and sorting is not computed by the kernel. What is looked
for in a given text with the usual vocabulary is looked for with these lists. -/

theorem trialOrder_sqlKeywords_default :
    Text.trialOrder ({} : Vocabulary).sqlKeywords =
      ["CREATE".toList, "DELETE".toList, "INSERT".toList, "SELECT".toList, "UPDATE".toList,
        "ALTER".toList, "WHERE".toList, "DROP".toList, "FROM".toList, "INTO".toList,
        "JOIN".toList] :=
  Text.trialOrder_eq_of_perm (by decide) (by decide) (by decide)

theorem trialOrder_nameVerbs_default :
    Text.trialOrder ({} : Vocabulary).nameVerbs =
      ["CREATE".toList, "DELETE".toList, "INSERT".toList, "SELECT".toList, "UPDATE".toList,
        "ALTER".toList, "DROP".toList] :=
  Text.trialOrder_eq_of_perm (by decide) (by decide) (by decide)

theorem trialOrder_callVerbs_default :
    Text.trialOrder ({} : Vocabulary).callVerbs =
      ["selectall_arrayref".toList, "selectcol_arrayref".toList, "selectrow_arrayref".toList,
        "selectall_hashref".toList, "selectrow_hashref".toList, "selectrow_array".toList,
        "prepare_cached".toList, "execute".toList, "prepare".toList, "do".toList] :=
  Text.trialOrder_eq_of_perm (by decide) (by decide) (by decide)

end SqlInventory
