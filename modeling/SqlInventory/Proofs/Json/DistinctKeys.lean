import SqlInventory.Json.Parser
import Mathlib.Data.List.Nodup

/-!
# Objects that were read have distinct keys

A value of type `Json` may hold an object in which a key occurs twice; a value that was read from a
text never does. Whoever walks through the members of such an object meets each key once, so the walk
and the look-up `member?` see the same value under it.

* `DistinctKeys`: no object within a value has a key twice;
* `DistinctKeys.put`: what the reader does with a member keeps this, for a key that is there already
  gets its value in place;
* `distinctKeys_of_parse`: it holds of everything that is read.

The reader is three functions that call each other, with one fuel. `ReadsDistinct` bundles what is
said of the three, and the induction is on the fuel.
-/

namespace SqlInventory

theorem exists_of_map_eq_ok {ε α β : Type} {x : Except ε α} {f : α → β} {b : β}
    (h : x.map f = .ok b) : ∃ a, x = .ok a ∧ f a = b := by
  cases x with
  | error e => cases h
  | ok a => exact ⟨a, rfl, Except.ok.inj h⟩

namespace Json

/-- No object within a value has two members with one key. -/
inductive DistinctKeys : Json → Prop where
  /-- `null` -/
  | null : DistinctKeys .null
  /-- A truth value. -/
  | bool (b : Bool) : DistinctKeys (.bool b)
  /-- A whole number. -/
  | integer (n : Int) : DistinctKeys (.integer n)
  /-- A number with a fraction or an exponent. -/
  | decimal (d : Double) : DistinctKeys (.decimal d)
  /-- A text. -/
  | string (t : Text) : DistinctKeys (.string t)
  /-- A sequence of such values. -/
  | array {items : List Json} (each : ∀ item ∈ items, DistinctKeys item) :
      DistinctKeys (.array items)
  /-- Members with distinct keys and such values. -/
  | object {members : List (Text × Json)} (keys : (members.map Prod.fst).Nodup)
      (each : ∀ m ∈ members, DistinctKeys m.2) : DistinctKeys (.object members)

theorem DistinctKeys.nodup {members : List (Text × Json)}
    (h : (Json.object members).DistinctKeys) : (members.map Prod.fst).Nodup := by
  cases h with
  | object keys _ => exact keys

theorem DistinctKeys.of_mem {members : List (Text × Json)}
    (h : (Json.object members).DistinctKeys) {m : Text × Json} (hm : m ∈ members) :
    m.2.DistinctKeys := by
  cases h with
  | object _ each => exact each m hm

theorem distinctKeys_empty : (Json.object []).DistinctKeys :=
  .object List.nodup_nil (by simp)

/-- The members of a value inherit the property. -/
theorem DistinctKeys.of_member? {value inner : Json} {key : Text} (h : value.DistinctKeys)
    (hinner : value.member? key = some inner) : inner.DistinctKeys := by
  cases value with
  | object members =>
    obtain ⟨m, hfind, rfl⟩ := Option.map_eq_some_iff.mp hinner
    exact h.of_mem (List.mem_of_find?_eq_some hfind)
  | _ => cases hinner

/-! ### Putting a member -/

/-- Putting a member adds its key at the end, unless it is there already. -/
theorem map_fst_put (key : Text) (value : Json) (members : List (Text × Json)) :
    (put key value members).map Prod.fst =
      if key ∈ members.map Prod.fst then members.map Prod.fst
      else members.map Prod.fst ++ [key] := by
  induction members with
  | nil => rfl
  | cons m rest ih =>
    unfold put
    by_cases hkey : m.1 = key
    · rw [if_pos (beq_iff_eq.mpr hkey), if_pos (by simp [hkey])]
      simp [hkey]
    · rw [if_neg (by simpa using hkey), List.map_cons, ih, List.map_cons]
      by_cases hrest : key ∈ rest.map Prod.fst
      · rw [if_pos hrest, if_pos (List.mem_cons_of_mem _ hrest)]
      · have hnone : key ∉ m.1 :: rest.map Prod.fst := by
          rw [List.mem_cons, not_or]
          exact ⟨Ne.symm hkey, hrest⟩
        rw [if_neg hrest, if_neg hnone, List.cons_append]

theorem mem_put {key : Text} {value : Json} {members : List (Text × Json)} {m : Text × Json}
    (h : m ∈ put key value members) : m = (key, value) ∨ m ∈ members := by
  induction members with
  | nil => exact Or.inl (List.mem_singleton.mp h)
  | cons first rest ih =>
    unfold put at h
    split at h
    · rcases List.mem_cons.mp h with rfl | h
      · exact Or.inl rfl
      · exact Or.inr (List.mem_cons_of_mem first h)
    · rcases List.mem_cons.mp h with rfl | h
      · exact Or.inr List.mem_cons_self
      · exact (ih h).imp_right (List.mem_cons_of_mem first)

/-- **Putting a member keeps keys distinct.** -/
theorem DistinctKeys.put {members : List (Text × Json)} (h : (Json.object members).DistinctKeys)
    (key : Text) {value : Json} (hvalue : value.DistinctKeys) :
    (Json.object (Json.put key value members)).DistinctKeys := by
  refine .object ?_ ?_
  · rw [map_fst_put]
    split
    · exact h.nodup
    · next hnew =>
      rw [List.nodup_append]
      refine ⟨h.nodup, List.nodup_singleton key, ?_⟩
      rintro a ha b hb rfl
      rw [List.mem_singleton.mp hb] at ha
      exact hnew ha
  · intro m hm
    rcases mem_put hm with rfl | hm
    · exact hvalue
    · exact h.of_mem hm

/-! ### Reading -/

/-- A word or a number has no members at all. -/
theorem distinctKeys_of_readScalar {digits : Nat} {t after : Text} {value : Json}
    (h : readScalar digits t = .ok (value, after)) : value.DistinctKeys := by
  unfold readScalar at h
  split at h
  · next word found hfind =>
    obtain ⟨rfl, -⟩ := Prod.mk.inj (Except.ok.inj h)
    have hword := List.mem_of_find?_eq_some hfind
    simp only [words, List.mem_cons, List.not_mem_nil, or_false, Prod.mk.injEq] at hword
    rcases hword with ⟨-, rfl⟩ | ⟨-, rfl⟩ | ⟨-, rfl⟩ | ⟨-, rfl⟩ | ⟨-, rfl⟩ | ⟨-, rfl⟩
    · exact .null
    · exact .bool true
    · exact .bool false
    · exact .decimal _
    · exact .decimal _
    · exact .decimal _
  · unfold readNumber at h
    simp only at h
    split at h
    · cases h
    · split at h
      · split at h
        · cases h
        · obtain ⟨rfl, -⟩ := Prod.mk.inj (Except.ok.inj h)
          exact .integer _
      · obtain ⟨rfl, -⟩ := Prod.mk.inj (Except.ok.inj h)
        exact .decimal _

/-- With this much fuel, what is read has distinct keys. -/
structure ReadsDistinct (digits fuel : Nat) : Prop where
  /-- A value. -/
  value : ∀ {levels : Nat} {t after : Text} {value : Json},
    readValue digits fuel levels t = .ok (value, after) → value.DistinctKeys
  /-- The items of an array. -/
  items : ∀ {levels : Nat} {t after : Text} {values : List Json},
    readItems digits fuel levels t = .ok (values, after) → ∀ v ∈ values, v.DistinctKeys
  /-- The members of an object, put after members whose keys are distinct. -/
  members : ∀ {levels : Nat} {before all : List (Text × Json)} {t after : Text},
    (Json.object before).DistinctKeys →
      readMembers digits fuel levels before t = .ok (all, after) → (Json.object all).DistinctKeys

variable {digits : Nat}

theorem ReadsDistinct.value_succ {fuel : Nat} (h : ReadsDistinct digits fuel) {levels : Nat}
    {t after : Text} {value : Json}
    (hread : readValue digits (fuel + 1) levels t = .ok (value, after)) : value.DistinctKeys := by
  unfold readValue at hread
  split at hread
  · -- a text
    split at hread
    · obtain ⟨rfl, -⟩ := Prod.mk.inj (Except.ok.inj hread)
      exact .string _
    · cases hread
  · -- an array, which may be empty
    split at hread
    · cases hread
    · split at hread
      · obtain ⟨rfl, -⟩ := Prod.mk.inj (Except.ok.inj hread)
        exact .array (by simp)
      · obtain ⟨⟨values, rest⟩, hitems, heq⟩ := exists_of_map_eq_ok hread
        obtain ⟨rfl, -⟩ := Prod.mk.inj heq
        exact .array (h.items hitems)
  · -- an object, whose members are put one after the other, starting with none
    split at hread
    · cases hread
    · split at hread
      · obtain ⟨rfl, -⟩ := Prod.mk.inj (Except.ok.inj hread)
        exact distinctKeys_empty
      · obtain ⟨⟨all, rest⟩, hmembers, heq⟩ := exists_of_map_eq_ok hread
        obtain ⟨rfl, -⟩ := Prod.mk.inj heq
        exact h.members distinctKeys_empty hmembers
  · exact distinctKeys_of_readScalar hread

theorem ReadsDistinct.items_succ {fuel : Nat} (h : ReadsDistinct digits fuel) {levels : Nat}
    {t after : Text} {values : List Json}
    (hread : readItems digits (fuel + 1) levels t = .ok (values, after)) :
    ∀ v ∈ values, v.DistinctKeys := by
  unfold readItems at hread
  split at hread
  · cases hread
  · next value rest hvalue =>
    have hfirst := h.value hvalue
    split at hread
    · obtain ⟨rfl, -⟩ := Prod.mk.inj (Except.ok.inj hread)
      simpa using hfirst
    · obtain ⟨⟨others, last⟩, hothers, heq⟩ := exists_of_map_eq_ok hread
      obtain ⟨rfl, -⟩ := Prod.mk.inj heq
      intro v hv
      rcases List.mem_cons.mp hv with rfl | hv
      · exact hfirst
      · exact h.items hothers v hv
    · cases hread

theorem ReadsDistinct.members_succ {fuel : Nat} (h : ReadsDistinct digits fuel) {levels : Nat}
    {before all : List (Text × Json)} {t after : Text} (hbefore : (Json.object before).DistinctKeys)
    (hread : readMembers digits (fuel + 1) levels before t = .ok (all, after)) :
    (Json.object all).DistinctKeys := by
  unfold readMembers at hread
  split at hread
  · split at hread
    · cases hread
    · next key afterKey _ =>
      split at hread
      · split at hread
        · cases hread
        · next value rest hvalue =>
          have hput := hbefore.put key (h.value hvalue)
          -- Either the object ends here, or the walk goes on with the member put in.
          split at hread
          · obtain ⟨rfl, -⟩ := Prod.mk.inj (Except.ok.inj hread)
            exact hput
          · exact h.members hput hread
          · cases hread
      · cases hread
  · cases hread

theorem readsDistinct (digits fuel : Nat) : ReadsDistinct digits fuel := by
  induction fuel with
  | zero =>
    refine ⟨?_, ?_, ?_⟩
    · intro levels t after value h
      cases h
    · intro levels t after values h
      cases h
    · intro levels before all t after _ h
      cases h
  | succ fuel ih => exact ⟨ih.value_succ, ih.items_succ, ih.members_succ⟩

/-- **Everything that is read has distinct keys.** -/
theorem distinctKeys_of_parse {levels digits : Nat} {t : Text} {value : Json}
    (h : parse levels digits t = .ok value) : value.DistinctKeys := by
  unfold parse at h
  split at h
  · next found after hread =>
    split at h
    · cases h
      exact (readsDistinct _ _).value hread
    · cases h
  · cases h

end Json

end SqlInventory
