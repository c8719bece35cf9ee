import SqlInventory.Catalog.Entry
import SqlInventory.Proofs.Audit.Stages

/-!
# Attributed literals, from the arena to the catalog

A literal that reads like SQL and is assigned to a variable is *attributed*. What an audit owes for
it is fixed by the token alone (`owedLiteral?`): the form, the line, the text, the variable and the
name built from them. The results of this module say that exactly this is delivered.

* `filterMap_attributed_scanArena`: the attributed literals among the findings of a file are those
  owed for its tokens, the quoted ones in arena order and then the here-documents in arena order;
* `name_eq_none_of_target`: no other literal has a name;
* `map_catalog`: a catalog has one entry for each named literal, in order, so that
  `attributed_sql_reaches_catalog` follows the literal all the way.

The argument never looks at the contexts of calls: leaving out what a call shows concerns literals
without a target only, and a reading that is blind to these does not see it.
-/

namespace SqlInventory

open Perl

/-! ### What is owed for a token -/

/-- The literal that a finding is, if it is assigned to a variable. -/
def Finding.attributed? (f : Finding) : Option LiteralFinding :=
  f.literal?.filter fun l => l.target.isSome

/-- What the token `t` at place `i` is owed as a literal of kind `kind`: a named finding if it
reads like SQL and is assigned to a variable. -/
def owedLiteral? (v : Vocabulary) (arena : Arena) (kind : TokenKind) (form : LiteralForm) :
    Token × Nat → Option LiteralFinding
  | (t, i) =>
    if t.kind = kind ∧ v.isSql t.text = true then
      (arena.target? i).map fun target =>
        { form
          line := some t.line
          snippet := snippet t.text v.snippetLimit
          target := some target
          name := some (nameOf v target (some t.line) (snippet t.text v.snippetLimit))
          statement := t.text }
    else none

/-- All that is owed for an arena: its quoted literals in order, then its here-documents. -/
def owedLiterals (v : Vocabulary) (arena : Arena) : List LiteralFinding :=
  arena.zipIdx.filterMap (owedLiteral? v arena .literal .string) ++
    arena.zipIdx.filterMap (owedLiteral? v arena .heredoc .heredoc)

/-! ### The findings of a file -/

/-- One token delivers what it is owed: its finding, if it has a target, with the name put in. -/
theorem attributed_literalFinding (v : Vocabulary) (arena : Arena) (form : LiteralForm)
    (t : Token) (i : Nat) :
    (Finding.literal ((literalFinding v arena form t i).named v)).attributed? =
      (arena.target? i).map fun target =>
        { form
          line := some t.line
          snippet := snippet t.text v.snippetLimit
          target := some target
          name := some (nameOf v target (some t.line) (snippet t.text v.snippetLimit))
          statement := t.text } := by
  cases htarget : arena.target? i with
  | none => simp [Finding.attributed?, Finding.literal?, literalFinding, htarget]
  | some target =>
    simp [Finding.attributed?, Finding.literal?, literalFinding, LiteralFinding.named, htarget]

/-- The literals of one form deliver what the tokens of its kind are owed. -/
theorem filterMap_attributed_literalsOf (v : Vocabulary) (arena : Arena) (kind : TokenKind)
    (form : LiteralForm) :
    (literalsOf v arena kind form).filterMap
        (fun l => (Finding.literal (l.named v)).attributed?) =
      arena.zipIdx.filterMap (owedLiteral? v arena kind form) := by
  unfold literalsOf Arena.ofKind
  rw [List.filterMap_filterMap, List.filterMap_filter]
  refine List.filterMap_congr fun place _ => ?_
  obtain ⟨t, i⟩ := place
  by_cases hkind : t.kind = kind
  · by_cases hsql : v.isSql t.text = true
    · have howed := attributed_literalFinding v arena form t i
      simp only [owedLiteral?, hkind, hsql, beq_self_eq_true, if_true, and_self, Option.bind_some]
      exact howed
    · simp [owedLiteral?, hkind, hsql]
  · simp [owedLiteral?, hkind]

/-- **Nothing is lost and nothing is repeated on the way to the report.** The attributed literals
among the findings of a file are, in order, those owed for its arena, whatever calls the file
has. -/
theorem filterMap_attributed_scanArena (v : Vocabulary) (content : Text) (arena : Arena) :
    (scanArena v content arena).filterMap Finding.attributed? = owedLiterals v arena := by
  have hundeclared : ((undeclaredVariables v (keptFindings v content arena)).map
      Finding.undeclared).filterMap Finding.attributed? = [] := by
    rw [List.filterMap_map]
    exact List.filterMap_eq_nil_iff.mpr fun _ _ => rfl
  have hcalls : (callSites v content).filterMap
      (fun c => ((Finding.call c).named v).attributed?) = [] :=
    List.filterMap_eq_nil_iff.mpr fun _ _ => rfl
  have hblind : ∀ l : LiteralFinding, l.target = none →
      (Finding.literal l).attributed? = none := by
    intro l hl
    simp [Finding.attributed?, Finding.literal?, hl]
  rw [scanArena_eq, List.filterMap_append, hundeclared, List.append_nil,
    filterMap_keptFindings v content arena _ hblind, filterMap_located, hcalls, List.append_nil]
  unfold sqlLiterals
  rw [List.filterMap_append]
  exact congrArg₂ (· ++ ·) (filterMap_attributed_literalsOf v arena .literal .string)
    (filterMap_attributed_literalsOf v arena .heredoc .heredoc)

/-- A literal as it is located has no name yet. -/
theorem name_eq_none_of_mem_sqlLiterals {v : Vocabulary} {arena : Arena} {l : LiteralFinding}
    (h : l ∈ sqlLiterals v arena) : l.name = none := by
  have hform : ∀ kind form, l ∈ literalsOf v arena kind form → l.name = none := by
    intro kind form hmem
    obtain ⟨⟨t, i⟩, -, hl⟩ := List.mem_filterMap.mp hmem
    simp only [Option.ite_none_right_eq_some, Option.some.injEq] at hl
    rw [← hl.2]
    rfl
  rcases List.mem_append.mp h with h | h
  · exact hform _ _ h
  · exact hform _ _ h

/-- Every literal of a file is a located one with its name put in. -/
theorem exists_of_literal_mem_scanArena {v : Vocabulary} {content : Text} {arena : Arena}
    {l : LiteralFinding} (h : Finding.literal l ∈ scanArena v content arena) :
    ∃ l₀ ∈ sqlLiterals v arena, l = l₀.named v := by
  rw [scanArena_eq] at h
  rcases List.mem_append.mp h with h | h
  · unfold keptFindings at h
    rw [nameFindings_eq_map] at h
    obtain ⟨f, hf, hnamed⟩ := List.mem_map.mp h
    have hlocated : f ∈ located v content arena := List.mem_of_mem_filter hf
    cases f with
    | literal l₀ =>
      refine ⟨l₀, ?_, (Finding.literal.inj hnamed).symm⟩
      rcases List.mem_append.mp hlocated with hmem | hmem
      · obtain ⟨l₁, hl₁, heq⟩ := List.mem_map.mp hmem
        rwa [← Finding.literal.inj heq]
      · obtain ⟨c, -, heq⟩ := List.mem_map.mp hmem
        cases heq
    | call c => cases hnamed
    | undeclared u => cases hnamed
    | foreign kind => cases hnamed
  · obtain ⟨u, -, heq⟩ := List.mem_map.mp h
    cases heq

/-- A literal of a file without a target has no name. -/
theorem name_eq_none_of_target {v : Vocabulary} {content : Text} {arena : Arena}
    {l : LiteralFinding} (h : Finding.literal l ∈ scanArena v content arena)
    (htarget : l.target = none) : l.name = none := by
  obtain ⟨l₀, hl₀, rfl⟩ := exists_of_literal_mem_scanArena h
  rw [target_named] at htarget
  unfold LiteralFinding.named
  rw [htarget]
  exact name_eq_none_of_mem_sqlLiterals hl₀

/-! ### The catalog -/

theorem length_assignIds (seen bases : List Text) :
    (assignIds seen bases).length = bases.length := by
  induction bases generalizing seen with
  | nil => rfl
  | cons base rest ih => rw [assignIds, List.length_cons, List.length_cons, ih]

/-- **One entry for each named literal.** What an entry tells apart from its id depends on its
literal alone, so any reading of the entries that ignores the id reads the named literals in
order. -/
theorem map_catalog {β : Type} (options : CatalogOptions) (read : SqlReader) (results : Results)
    (tell : CatalogEntry → β) (told : NamedLiteral → β)
    (htell : ∀ id l, tell (catalogEntry options read id l) = told l) :
    (catalog options read results).map tell = (namedLiterals results).map told := by
  have hlength : (assignIds [] (baseIds options results)).length =
      (namedLiterals results).length := by
    rw [length_assignIds]
    unfold baseIds
    rw [List.length_map]
  unfold catalog
  rw [List.map_zipWith]
  refine List.ext_getElem (by simp [hlength]) fun i h₁ h₂ => ?_
  rw [List.getElem_zipWith, List.getElem_map, htell]

/-- What an entry tells of its literal: the file, the line and the statement as laid out. -/
def CatalogEntry.origin (e : CatalogEntry) : Text × Option LineNumber × Text :=
  (e.file, e.line, e.sql)

/-- What the catalog is to tell of a literal of the file at `path`. -/
def LiteralFinding.catalogued (options : CatalogOptions) (path : Text) (l : LiteralFinding) :
    Text × Option LineNumber × Text :=
  (path, l.line, Layout.layOut (extractMarkers l.statement options.entityValue).sql)

theorem origin_catalogEntry (options : CatalogOptions) (read : SqlReader) (id : Text)
    (l : NamedLiteral) :
    (catalogEntry options read id l).origin = l.literal.catalogued options l.path := by
  simp only [CatalogEntry.origin, catalogEntry, LiteralFinding.catalogued]

/-- The entries of a catalog are those of the named literals, file after file and, within a file,
finding after finding. -/
theorem map_origin_catalog (options : CatalogOptions) (read : SqlReader) (results : Results) :
    (catalog options read results).map CatalogEntry.origin =
      results.flatMap fun (path, findings) =>
        ((findings.filterMap Finding.literal?).filter fun l => l.name.isSome).map
          (LiteralFinding.catalogued options path) := by
  rw [map_catalog options read results CatalogEntry.origin
    (fun l => l.literal.catalogued options l.path) (origin_catalogEntry options read)]
  unfold namedLiterals
  rw [List.map_flatMap]
  refine List.flatMap_congr fun file _ => ?_
  obtain ⟨path, findings⟩ := file
  simp only []
  rw [List.map_filterMap, List.filter_filterMap, List.map_filterMap]
  refine List.filterMap_congr fun f _ => ?_
  cases f with
  | literal l => cases hname : l.name <;> simp [Finding.literal?, Option.filter, hname]
  | call c => rfl
  | undeclared u => rfl
  | foreign kind => rfl

/-- In the findings of a file, the named literals are the attributed ones. -/
theorem filter_named_scanArena (v : Vocabulary) (content : Text) (arena : Arena) :
    ((scanArena v content arena).filterMap Finding.literal?).filter (fun l => l.name.isSome) =
      owedLiterals v arena := by
  rw [← filterMap_attributed_scanArena v content arena, List.filter_filterMap]
  refine List.filterMap_congr fun f hf => ?_
  cases f with
  | literal l =>
    cases htarget : l.target with
    | none =>
      have hname := name_eq_none_of_target hf htarget
      simp [Finding.attributed?, Finding.literal?, Option.filter, htarget, hname]
    | some target =>
      obtain ⟨l₀, -, rfl⟩ := exists_of_literal_mem_scanArena hf
      rw [target_named] at htarget
      simp [Finding.attributed?, Finding.literal?, Option.filter, LiteralFinding.named, htarget]
  | call c => rfl
  | undeclared u => rfl
  | foreign kind => rfl

/-- **Attributed SQL reaches the catalog, once each.** For every file, the literals with a target
among its findings are those owed for its arena, in order, and a literal without a target has no
name. For all results, a catalog has one entry for each named literal, in order, with the file and
the line of the literal. For files that were scanned, these are the literals owed for their
arenas. -/
theorem attributed_sql_reaches_catalog (v : Vocabulary) :
    (∀ (content : Text) (arena : Arena),
      (scanArena v content arena).filterMap Finding.attributed? = owedLiterals v arena ∧
      ∀ l : LiteralFinding, Finding.literal l ∈ scanArena v content arena →
        l.target = none → l.name = none) ∧
    (∀ (options : CatalogOptions) (read : SqlReader) (results : Results),
      (catalog options read results).map CatalogEntry.origin =
        results.flatMap fun (path, findings) =>
          ((findings.filterMap Finding.literal?).filter fun l => l.name.isSome).map
            (LiteralFinding.catalogued options path)) ∧
    ∀ (options : CatalogOptions) (read : SqlReader) (files : List (Text × Text × Arena)),
      (catalog options read
          (files.map fun (path, content, arena) => (path, scanArena v content arena))).map
        CatalogEntry.origin =
        files.flatMap fun (path, _, arena) =>
          (owedLiterals v arena).map (LiteralFinding.catalogued options path) := by
  refine ⟨fun content arena => ⟨filterMap_attributed_scanArena v content arena, ?_⟩,
    map_origin_catalog, ?_⟩
  · intro l hl htarget
    exact name_eq_none_of_target hl htarget
  · intro options read files
    rw [map_origin_catalog, List.flatMap_map]
    refine List.flatMap_congr fun file _ => ?_
    obtain ⟨path, content, arena⟩ := file
    simp only [filter_named_scanArena]

end SqlInventory
