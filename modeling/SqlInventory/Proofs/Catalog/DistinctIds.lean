import SqlInventory.Proofs.Audit.Attribution
import SqlInventory.Proofs.Text.LetterCase
import SqlInventory.Proofs.Text.Numerals
import SqlInventory.Proofs.Text.WholeWord
import Mathlib.Data.List.Count
import Mathlib.Data.List.Nodup

/-!
# When the ids of a catalog are distinct

A name that occurs again gets the number of its occurrence as a suffix. Only names are counted, so
the suffixed id of one literal may be the name of another, and then two entries have one id. This is
the only way in which ids meet:

* `occurrences` numbers the occurrences of each base id. No occurrence is listed twice, and the ids
  are the images of the occurrences under `suffixedId` (`assignIds_eq_map`), so ids are distinct
  exactly when `suffixedId` is injective on the occurrences;
* `suffix_inj`: a numeral has no underscore, so a suffix can be read off again and two suffixed ids
  are equal only for equal occurrences. What is left is a suffixed id that equals a bare one;
* `catalog_ids_distinct_iff` says this of a catalog. Names that an audit makes with the usual
  vocabulary end in a verb and never in a numeral, so catalogs of such audits have distinct ids.
-/

namespace SqlInventory

open Perl

/-! ### Suffixes -/

theorem underscore_notMem_ofNat (n : Nat) : '_' ∉ Text.ofNat n := by
  intro h
  exact absurd (isDigit_of_mem_ofNat h) (by decide)

/-- A text is read in one way only as something, an underscore, and a rest without underscores. -/
theorem append_underscore_inj {a b x y : Text} (hx : '_' ∉ x) (hy : '_' ∉ y)
    (h : a ++ '_' :: x = b ++ '_' :: y) : a = b ∧ x = y := by
  rcases List.append_eq_append_iff.mp h with ⟨c, rfl, hc⟩ | ⟨c, rfl, hc⟩
  · cases c with
    | nil => exact ⟨(List.append_nil a).symm, (List.cons.inj hc).2⟩
    | cons d c => exact absurd ((List.cons.inj hc).2 ▸ by simp) hx
  · cases c with
    | nil => exact ⟨List.append_nil b, (List.cons.inj hc).2.symm⟩
    | cons d c => exact absurd ((List.cons.inj hc).2 ▸ by simp) hy

/-- A base id with the number of an occurrence behind it. -/
def withNumber (base : Text) (k : Nat) : Text :=
  base ++ '_' :: Text.ofNat k

/-- **A suffix can be read off again.** -/
theorem suffix_inj {a b : Text} {m n : Nat} (h : withNumber a m = withNumber b n) :
    a = b ∧ m = n := by
  obtain ⟨hbase, hnumber⟩ :=
    append_underscore_inj (underscore_notMem_ofNat m) (underscore_notMem_ofNat n) h
  exact ⟨hbase, ofNat_injective hnumber⟩

/-- Two occurrences have one id only if they are the same, or if one is the first of its base id and
this is the other base id with a number. -/
theorem suffixedId_eq_cases {a b : Text} {m n : Nat} (h : suffixedId a m = suffixedId b n) :
    (a = b ∧ m = n) ∨ (m = 0 ∧ 0 < n ∧ a = withNumber b (n + 1)) ∨
      (n = 0 ∧ 0 < m ∧ b = withNumber a (m + 1)) := by
  cases m with
  | zero =>
    cases n with
    | zero => exact Or.inl ⟨h, rfl⟩
    | succ n => exact Or.inr (Or.inl ⟨rfl, Nat.succ_pos n, h⟩)
  | succ m =>
    cases n with
    | zero => exact Or.inr (Or.inr ⟨rfl, Nat.succ_pos m, h.symm⟩)
    | succ n =>
      have hnumbers : withNumber a (m + 2) = withNumber b (n + 2) := h
      obtain ⟨hbase, hnumber⟩ := suffix_inj hnumbers
      exact Or.inl ⟨hbase, by omega⟩

/-! ### Occurrences -/

/-- Each base id with the number of times that it occurs before, those in `seen` counted. -/
def occurrences : List Text → List Text → List (Text × Nat)
  | _, [] => []
  | seen, base :: rest => (base, seen.count base) :: occurrences (base :: seen) rest

theorem assignIds_eq_map (seen bases : List Text) :
    assignIds seen bases =
      (occurrences seen bases).map fun (base, earlier) => suffixedId base earlier := by
  induction bases generalizing seen with
  | nil => rfl
  | cons base rest ih => rw [assignIds, occurrences, List.map_cons, ih]

/-- The occurrences of a base id are numbered without a gap, starting behind those already seen. -/
theorem mem_occurrences_iff (seen bases : List Text) (base : Text) (n : Nat) :
    (base, n) ∈ occurrences seen bases ↔
      seen.count base ≤ n ∧ n < seen.count base + bases.count base := by
  induction bases generalizing seen with
  | nil =>
    simp only [occurrences, List.not_mem_nil, List.count_nil, false_iff]
    omega
  | cons b rest ih =>
    rw [occurrences, List.mem_cons, ih, List.count_cons, List.count_cons, Prod.mk.injEq]
    by_cases hb : b = base
    · subst hb
      simp only [true_and, BEq.rfl, if_true]
      omega
    · have hne : (b == base) = false := beq_false_of_ne hb
      simp only [hne, Bool.false_eq_true, if_false, Ne.symm hb, false_and, false_or]
      omega

theorem nodup_occurrences (seen bases : List Text) : (occurrences seen bases).Nodup := by
  induction bases generalizing seen with
  | nil => exact List.nodup_nil
  | cons base rest ih =>
    refine List.nodup_cons.mpr ⟨fun hmem => ?_, ih _⟩
    -- A later occurrence has a greater number.
    have hle := ((mem_occurrences_iff _ _ _ _).mp hmem).1
    rw [List.count_cons_self] at hle
    omega

/-- **Ids meet in one way only**: a base id that occurs several times, with the number of one of its
later occurrences, is itself a base id. -/
theorem nodup_assignIds_iff (bases : List Text) :
    (assignIds [] bases).Nodup ↔
      ∀ base k, 2 ≤ k → k ≤ bases.count base → withNumber base k ∉ bases := by
  rw [assignIds_eq_map, List.nodup_map_iff_inj_on (nodup_occurrences [] bases)]
  have hmem : ∀ base n, (base, n) ∈ occurrences [] bases ↔ n < bases.count base := by
    intro base n
    rw [mem_occurrences_iff]
    simp
  constructor
  · intro hinj base k htwo hcount htaken
    obtain ⟨n, rfl⟩ : ∃ n, k = n + 2 := ⟨k - 2, by omega⟩
    -- The first occurrence of the longer base id and a later one of the shorter get one id.
    have hfirst := (hmem (withNumber base (n + 2)) 0).mpr (List.count_pos_iff.mpr htaken)
    have hlater := (hmem base (n + 1)).mpr (by omega)
    exact absurd (congrArg Prod.snd (hinj _ hfirst _ hlater rfl)) (Nat.succ_ne_zero n).symm
  · rintro hfree ⟨a, m⟩ ha ⟨b, n⟩ hb heq
    rw [hmem] at ha hb
    rcases suffixedId_eq_cases heq with ⟨rfl, rfl⟩ | ⟨rfl, hpos, rfl⟩ | ⟨rfl, hpos, rfl⟩
    · rfl
    · exact absurd (List.count_pos_iff.mp ha) (hfree b (n + 1) (by omega) hb)
    · exact absurd (List.count_pos_iff.mp hb) (hfree a (m + 1) (by omega) ha)

/-! ### The ids of a catalog -/

/-- **A finding that a catalog lists**: a literal with a name, told by its name, its file and its
line. -/
def Finding.named? (path : Text) : Finding → Option (Text × Text × Option LineNumber)
  | .literal l => l.name.map fun name => (name, path, l.line)
  | _ => none

/-- The findings that a catalog lists, file after file and, within a file, in order. -/
def namedFindings (results : Results) : List (Text × Text × Option LineNumber) :=
  results.flatMap fun file => file.2.filterMap (Finding.named? file.1)

theorem map_namedLiterals (results : Results) :
    (namedLiterals results).map (fun l => (l.name, l.path, l.literal.line)) =
      namedFindings results := by
  unfold namedLiterals namedFindings
  rw [List.map_flatMap]
  refine List.flatMap_congr fun file _ => ?_
  rw [List.map_filterMap]
  refine List.filterMap_congr fun f _ => ?_
  cases f with
  | literal l =>
    unfold Finding.named?
    rw [Option.map_map]
    rfl
  | call c => rfl
  | undeclared u => rfl
  | foreign kind => rfl

/-- The names of the named literals of some results, in order. -/
def literalNames (results : Results) : List Text :=
  (namedFindings results).map Prod.fst

theorem literalNames_eq_map (results : Results) :
    literalNames results = (namedLiterals results).map NamedLiteral.name := by
  unfold literalNames
  rw [← map_namedLiterals, List.map_map]
  rfl

theorem map_id_catalog (options : CatalogOptions) (read : SqlReader) (results : Results) :
    (catalog options read results).map CatalogEntry.id =
      assignIds [] (baseIds options results) := by
  have hlength : (assignIds [] (baseIds options results)).length =
      (namedLiterals results).length := by
    rw [length_assignIds]
    unfold baseIds
    rw [List.length_map]
  unfold catalog
  rw [List.map_zipWith]
  refine List.ext_getElem (by simp [hlength]) fun i h₁ h₂ => ?_
  rw [List.getElem_zipWith]
  rfl

theorem baseId_injective (qualifier : Text) : Function.Injective (baseId qualifier) := by
  intro a b h
  unfold baseId at h
  split at h
  · exact h
  · exact (List.cons.inj (List.append_cancel_left h)).2

theorem baseId_withNumber (qualifier name : Text) (k : Nat) :
    baseId qualifier (withNumber name k) = withNumber (baseId qualifier name) k := by
  unfold baseId withNumber
  split <;> simp

theorem baseIds_eq_map (options : CatalogOptions) (results : Results) :
    baseIds options results = (literalNames results).map (baseId options.qualifier) := by
  unfold baseIds
  rw [literalNames_eq_map, List.map_map]
  rfl

/-- The ids of a catalog are distinct if and only if no name with the number of an occurrence is the
name of another literal. -/
theorem nodup_map_id_catalog_iff (options : CatalogOptions) (read : SqlReader)
    (results : Results) :
    ((catalog options read results).map CatalogEntry.id).Nodup ↔
      ∀ name k, 2 ≤ k → k ≤ (literalNames results).count name →
        withNumber name k ∉ literalNames results := by
  have hinj := baseId_injective options.qualifier
  rw [map_id_catalog, nodup_assignIds_iff, baseIds_eq_map]
  constructor
  · intro hfree name k htwo hcount htaken
    refine hfree (baseId options.qualifier name) k htwo ?_ ?_
    · rwa [List.count_map_of_injective _ _ hinj]
    · rw [← baseId_withNumber]
      exact List.mem_map_of_mem htaken
  · intro hfree base k htwo hcount htaken
    -- A base id that occurs is the base id of a name.
    have hoccurs : base ∈ (literalNames results).map (baseId options.qualifier) :=
      List.count_pos_iff.mp (by omega)
    obtain ⟨name, -, rfl⟩ := List.mem_map.mp hoccurs
    rw [List.count_map_of_injective _ _ hinj] at hcount
    rw [← baseId_withNumber, List.mem_map_of_injective hinj] at htaken
    exact hfree name k htwo hcount htaken

/-! ### The names that an audit makes -/

/-- The verbs of a vocabulary are ASCII words without digits. -/
def Vocabulary.PlainVerbs (v : Vocabulary) : Prop :=
  ∀ word ∈ v.nameVerbs, ∀ a ∈ word, a.toNat < 128 ∧ a.isDigit = false

theorem plainVerbs_default : Vocabulary.PlainVerbs {} := by
  unfold Vocabulary.PlainVerbs
  decide

/-- With plain verbs, what a statement is said to do has no digit in it. -/
theorem isDigit_eq_false_of_mem_verbOf {v : Vocabulary} (hplain : v.PlainVerbs) (t : Text) :
    ∀ c ∈ v.verbOf t, c.isDigit = false := by
  unfold Vocabulary.verbOf
  cases hfound : Text.firstWord? v.nameVerbs t with
  | none => exact (by decide : ∀ c ∈ "UNKNOWN".toList, c.isDigit = false)
  | some verb =>
    obtain ⟨rest, word, hword, hfront, rfl⟩ := Text.exists_isStretch_of_firstWordFrom? hfound
    have hcapitals : ∀ c ∈ Text.asciiLikes, c.isDigit = false →
        ∀ d ∈ Text.upperChar c, d.isDigit = false := by decide +kernel
    -- A letter of the verb as written counts as a letter of the listed verb.
    have hletters : ∀ a ∈ word, ∀ c, Text.sameLetter a c = true →
        ∀ d ∈ Text.upperChar c, d.isDigit = false := by
      intro a ha c hsame
      rcases Text.mem_or_eq_nil_of_mem_trialOrder hword with hlisted | rfl
      · obtain ⟨hascii, hdigit⟩ := hplain word hlisted a ha
        exact hcapitals c (Text.mem_asciiLikes_of_sameLetter hascii hsame)
          (Text.isDigit_eq_false_of_sameLetter hascii hdigit hsame)
      · cases ha
    intro d hd
    obtain ⟨c, hc, hdc⟩ := List.mem_flatMap.mp hd
    exact Text.forall_mem_take_of_isFrontOf hletters hfront c hc d hdc

/-- A name that ends in a verb without digits is no base id with a number. -/
theorem nameOf_ne_withNumber {v : Vocabulary} (hplain : v.PlainVerbs) (target : Text)
    (line : Option LineNumber) (t base : Text) (k : Nat) :
    nameOf v target line t ≠ withNumber base k := by
  intro heq
  have hne : Text.ofNat k ≠ [] := Nat.toDigits_ne_nil
  have hlast := congrArg List.getLast? heq
  unfold nameOf withNumber at hlast
  rw [← List.cons_append, List.getLast?_append, List.getLast?_append, List.getLast?_append,
    List.getLast?_cons_of_ne_nil hne, List.getLast?_eq_some_getLast hne, Option.some_or,
    List.getLast?_eq_some_getLast (List.cons_ne_nil '_' (v.verbOf t)), Option.some_or,
    Option.some_or, Option.some.injEq] at hlast
  -- The last character is a digit on one side, and an underscore or of the verb on the other.
  have hdigit := isDigit_of_mem_ofNat (List.getLast_mem hne)
  rw [← hlast] at hdigit
  rcases List.mem_cons.mp (List.getLast_mem (List.cons_ne_nil '_' (v.verbOf t))) with hline | hverb
  · rw [hline] at hdigit
    exact absurd hdigit (by decide)
  · rw [isDigit_eq_false_of_mem_verbOf hplain t _ hverb] at hdigit
    cases hdigit

/-- The names of literals in files that were scanned are made by the audit. -/
theorem exists_nameOf_of_mem_literalNames {v : Vocabulary} {files : List (Text × Text × Arena)}
    {name : Text}
    (h : name ∈ literalNames
      (files.map fun (path, content, arena) => (path, scanArena v content arena))) :
    ∃ target line t, name = nameOf v target line t := by
  obtain ⟨named, hnamed, rfl⟩ := List.mem_map.mp h
  obtain ⟨⟨path, findings⟩, hfile, hfinding⟩ := List.mem_flatMap.mp hnamed
  obtain ⟨⟨_, content, arena⟩, -, hscan⟩ := List.mem_map.mp hfile
  obtain ⟨rfl, rfl⟩ := Prod.mk.inj hscan
  obtain ⟨f, hf, hnamed⟩ := List.mem_filterMap.mp hfinding
  cases f with
  | literal found =>
    obtain ⟨name, hname, rfl⟩ := Option.map_eq_some_iff.mp hnamed
    obtain ⟨l₀, hl₀, rfl⟩ := exists_of_literal_mem_scanArena hf
    unfold LiteralFinding.named at hname
    split at hname
    · next target htarget => exact ⟨target, l₀.line, l₀.snippet, (Option.some.inj hname).symm⟩
    · rw [name_eq_none_of_mem_sqlLiterals hl₀] at hname
      cases hname
  | call c => cases hnamed
  | undeclared u => cases hnamed
  | foreign kind => cases hnamed

/-- **When the ids of a catalog are distinct.** For all results, whatever the names in them: if and
only if no name that occurs several times is, with the number of one of its later occurrences, a
name too. For files that were scanned with the usual vocabulary: always. -/
theorem catalog_ids_distinct_iff (options : CatalogOptions) (read : SqlReader) :
    (∀ results : Results,
      ((catalog options read results).map CatalogEntry.id).Nodup ↔
        ∀ name k, 2 ≤ k → k ≤ (literalNames results).count name →
          withNumber name k ∉ literalNames results) ∧
    ∀ files : List (Text × Text × Arena),
      ((catalog options read
        (files.map fun (path, content, arena) => (path, scanArena {} content arena))).map
          CatalogEntry.id).Nodup := by
  refine ⟨nodup_map_id_catalog_iff options read, fun files => ?_⟩
  rw [nodup_map_id_catalog_iff]
  intro name k _ _ hmem
  obtain ⟨target, line, t, heq⟩ := exists_nameOf_of_mem_literalNames hmem
  exact nameOf_ne_withNumber plainVerbs_default target line t name k heq.symm

/-- A literal with a name. -/
def literalNamed (name statement : Text) : Finding :=
  .literal { form := .string, line := some 1, snippet := statement, name, statement }

/-- Three named literals of one file, the third with the name that the second gets as its id. -/
def clashingResults : Results :=
  [("lib/q.pl", [literalNamed "q" "SELECT 1", literalNamed "q" "SELECT 2",
    literalNamed "q_2" "SELECT 3"])]

/-- **Ids are not always distinct.** The second literal is suffixed because of the first, and the
third has that name already. -/
theorem clashingResults_ids_not_distinct :
    (catalog {} (fun _ => .nothing) clashingResults).map CatalogEntry.id =
        ["q".toList, "q_2".toList, "q_2".toList] ∧
      ¬((catalog {} (fun _ => .nothing) clashingResults).map CatalogEntry.id).Nodup := by
  rw [map_id_catalog]
  decide

end SqlInventory
