import SqlInventory.Proofs.Catalog.DistinctIds

/-!
# Which id an entry gets

The walk that assigns ids (`assignIds`) carries the base ids that it has seen. Here the id of each
entry is said from its place alone: the base id at place `k` is taken as it is if it does not occur
before, and otherwise gets the number of its occurrences up to and including place `k`.

* `getElem?_assignIds`: the walk read off at one place, for any base ids seen before it;
* `suffixedId_count_take`: at a place of the list itself, the number is a count over a front of it;
* `exists_ne_getElem?_iff`: two places of a list hold the same thing if and only if the list repeats
  something, which makes `nodup_assignIds_iff` a statement on pairs of entries;
* `catalog_ids_assigned` puts these together for a catalog.
-/

namespace SqlInventory

/-! ### The id at a place -/

/-- The walk at one place: what counts is how often the base id there was met before, by this walk
or among those seen when it started. -/
theorem getElem?_assignIds (seen bases : List Text) (k : Nat) :
    (assignIds seen bases)[k]? =
      bases[k]?.map fun base => suffixedId base (seen.count base + (bases.take k).count base) := by
  -- The walk puts each base id in front of `seen`, so both vary in the induction.
  induction bases generalizing seen k with
  | nil => rfl
  | cons first rest ih =>
    cases k with
    | zero =>
      rw [assignIds, List.getElem?_cons_zero, List.getElem?_cons_zero, Option.map_some,
        List.take_zero, List.count_nil, Nat.add_zero]
    | succ k =>
      rw [assignIds, List.getElem?_cons_succ, List.getElem?_cons_succ, ih (first :: seen) k]
      refine Option.map_congr fun base _ => ?_
      -- `first` moves from the list to what is seen; the sum stays.
      rw [List.take_succ_cons, List.count_cons, List.count_cons, Nat.add_assoc,
        Nat.add_comm (if (first == base) = true then 1 else 0)]

/-- What a base id at place `k` becomes, told from the base ids up to that place. -/
theorem suffixedId_count_take {bases : List Text} {k : Nat} {base : Text}
    (h : bases[k]? = some base) :
    suffixedId base ((bases.take k).count base) =
      if base ∈ bases.take k then withNumber base ((bases.take (k + 1)).count base) else base := by
  -- Place `k` adds one occurrence to those before it.
  have hcount : (bases.take (k + 1)).count base = (bases.take k).count base + 1 := by
    rw [List.take_add_one, h, Option.toList_some, List.count_append, List.count_singleton_self]
  unfold suffixedId
  by_cases hmem : base ∈ bases.take k
  · have hpos : (bases.take k).count base ≠ 0 :=
      Nat.ne_zero_of_lt (List.count_pos_iff.mpr hmem)
    rw [if_neg hpos, if_pos hmem, hcount]
    rfl
  · rw [if_pos (List.count_eq_zero_of_not_mem hmem), if_neg hmem]

/-! ### Entries that share an id -/

/-- A list repeats something if and only if two of its places hold the same thing. -/
theorem exists_ne_getElem?_iff {α β : Type} (f : α → β) (l : List α) :
    (∃ (i j : Nat) (a b : α), i ≠ j ∧ l[i]? = some a ∧ l[j]? = some b ∧ f a = f b) ↔
      ¬(l.map f).Nodup := by
  rw [List.nodup_iff_getElem?_ne_getElem?]
  push Not
  constructor
  · rintro ⟨i, j, a, b, hne, ha, hb, heq⟩
    -- Of two different places one comes first.
    have hplaces : ∀ (p q : Nat) (c d : α), p < q → l[p]? = some c → l[q]? = some d →
        f c = f d → ∃ p q, p < q ∧ q < (l.map f).length ∧ (l.map f)[p]? = (l.map f)[q]? := by
      intro p q c d hlt hc hd hcd
      have hq : q < (l.map f).length := by
        rw [List.length_map]
        exact (List.getElem?_eq_some_iff.mp hd).1
      refine ⟨p, q, hlt, hq, ?_⟩
      rw [List.getElem?_map, List.getElem?_map, hc, hd, Option.map_some, Option.map_some, hcd]
    rcases Nat.lt_or_gt_of_ne hne with hlt | hgt
    · exact hplaces i j a b hlt ha hb heq
    · exact hplaces j i b a hgt hb ha heq.symm
  · rintro ⟨i, j, hlt, hj, heq⟩
    rw [List.length_map] at hj
    have ha : l[i]? = some l[i] := List.getElem?_eq_getElem (Nat.lt_trans hlt hj)
    have hb : l[j]? = some l[j] := List.getElem?_eq_getElem hj
    rw [List.getElem?_map, List.getElem?_map, ha, hb, Option.map_some, Option.map_some,
      Option.some.injEq] at heq
    exact ⟨i, j, l[i], l[j], Nat.ne_of_lt hlt, ha, hb, heq⟩

/-! ### The entries of a catalog -/

/-- The entry at a place is the one of the literal at that place. -/
theorem getElem?_catalog (options : CatalogOptions) (read : SqlReader) (results : Results)
    (k : Nat) :
    (catalog options read results)[k]? =
      (namedLiterals results)[k]?.map fun l =>
        catalogEntry options read
          (suffixedId (baseId options.qualifier l.name)
            (((baseIds options results).take k).count (baseId options.qualifier l.name))) l := by
  unfold catalog
  rw [List.getElem?_zipWith, getElem?_assignIds]
  have hbase : (baseIds options results)[k]? =
      (namedLiterals results)[k]?.map fun l => baseId options.qualifier l.name := by
    unfold baseIds
    rw [List.getElem?_map]
  rw [hbase]
  cases (namedLiterals results)[k]? with
  | none => rfl
  | some l => simp

theorem baseId_eq (qualifier name : Text) :
    baseId qualifier name = if qualifier = [] then name else qualifier ++ '.' :: name :=
  if_congr List.isEmpty_iff rfl rfl

theorem baseIds_eq_map_namedFindings (options : CatalogOptions) (results : Results) :
    baseIds options results =
      (namedFindings results).map fun found => baseId options.qualifier found.1 := by
  unfold baseIds
  rw [← map_namedLiterals, List.map_map]
  rfl

/-- **Ids as they are assigned, and the only way in which they meet.** Let `bases` be the names of
the named literals of some results, behind the namespace if there is one. There is one entry for
each named literal, in order, with its file and its line. The id of the entry at place `k` is the
base id there, if that does not occur before; otherwise the base id with the number of its
occurrences up to place `k`. Two different entries share an id if and only if some base id occurs
`c` times or more, for a `c` of at least two, and is a base id with the number `c` behind it too. -/
theorem catalog_ids_assigned (options : CatalogOptions) (read : SqlReader) (results : Results) :
    let base (name : Text) : Text :=
      if options.qualifier = [] then name else options.qualifier ++ '.' :: name
    let bases := (namedFindings results).map fun found => base found.1
    let entries := catalog options read results
    (∀ k : Nat, entries[k]?.map (fun e => (e.id, e.file, e.line)) =
      (namedFindings results)[k]?.map fun found =>
        (if base found.1 ∈ bases.take k then
          base found.1 ++ '_' :: Text.ofNat ((bases.take (k + 1)).count (base found.1))
        else base found.1, found.2)) ∧
    ((∃ (i j : Nat) (a b : CatalogEntry), i ≠ j ∧ entries[i]? = some a ∧ entries[j]? = some b ∧
        a.id = b.id) ↔
      ∃ base c, 2 ≤ c ∧ c ≤ bases.count base ∧ base ++ '_' :: Text.ofNat c ∈ bases) := by
  intro base bases entries
  have hbase : base = baseId options.qualifier :=
    funext fun name => (baseId_eq options.qualifier name).symm
  have hbases : bases = baseIds options results := by
    rw [baseIds_eq_map_namedFindings, ← hbase]
  constructor
  · intro k
    rw [getElem?_catalog, ← map_namedLiterals, List.getElem?_map, Option.map_map, Option.map_map]
    refine Option.map_congr fun l hl => ?_
    have hplace : (baseIds options results)[k]? = some (baseId options.qualifier l.name) := by
      unfold baseIds
      rw [List.getElem?_map, hl, Option.map_some]
    show (suffixedId _ _, l.path, l.literal.line) = (_, l.path, l.literal.line)
    rw [suffixedId_count_take hplace, hbases, hbase]
    rfl
  · rw [exists_ne_getElem?_iff, map_id_catalog, nodup_assignIds_iff, hbases]
    push Not
    rfl

/-- Named literals of two files, one file with another finding and a literal without a name. The
name that occurs three times is, with a number behind it, the name of the last. -/
def repeatedNames : Results :=
  [("a.pl", [literalNamed "q" "SELECT 1", .foreign "note", literalNamed "q" "SELECT 2",
      .literal { form := .string, line := none, snippet := "SELECT 0" }]),
    ("b.pl", [literalNamed "q" "SELECT 3", literalNamed "q_3" "SELECT 4"])]

/-- Occurrences are counted from file to file, and the last two entries share an id. -/
theorem repeatedNames_ids :
    (catalog { qualifier := "app" } (fun _ => .nothing) repeatedNames).map CatalogEntry.id =
      ["app.q".toList, "app.q_2".toList, "app.q_3".toList, "app.q_3".toList] ∧
    ∃ (i j : Nat) (a b : CatalogEntry), i ≠ j ∧
      (catalog { qualifier := "app" } (fun _ => .nothing) repeatedNames)[i]? = some a ∧
      (catalog { qualifier := "app" } (fun _ => .nothing) repeatedNames)[j]? = some b ∧
      a.id = b.id := by
  constructor
  · rw [map_id_catalog]
    decide
  · exact (catalog_ids_assigned _ _ _).2.mpr
      ⟨"app.q", 3, by decide, by decide, by decide⟩

end SqlInventory
