import SqlInventory.Text.WholeWord
import Mathlib.Data.Char
import Mathlib.Data.List.Lex

/-!
# The order of texts

`Text.atMost` compares texts character by character. It is the lexicographic order by code points
(`atMost_iff_le`), a linear order, so a list of pairs that is sorted by its texts is determined by
its members alone as soon as no text occurs twice (`sortByText_eq_of_perm`). The order in which
words are tried, the longer ones first, is linear as well, so any list of the words in this order is
the one that sorting gives (`trialOrder_eq_of_perm`).
-/

namespace SqlInventory

namespace Text

/-- Comparing texts is the lexicographic order by code points. -/
theorem atMost_iff_le (a b : Text) : atMost a b = true ↔ a ≤ b := by
  induction a generalizing b with
  | nil =>
    cases b with
    | nil => exact iff_of_true rfl (le_refl _)
    | cons y ys => exact iff_of_true rfl (le_of_lt List.Lex.nil)
  | cons x xs ih =>
    cases b with
    | nil => exact iff_of_false Bool.false_ne_true (not_le_of_gt List.Lex.nil)
    | cons y ys =>
      rw [atMost]
      split
      · next heq =>
        rw [heq, ih ys]
        exact ⟨List.cons_le_cons y, fun h => le_of_not_gt fun hlt =>
          absurd h (not_le_of_gt (List.Lex.cons hlt))⟩
      · next hne =>
        rw [decide_eq_true_iff]
        constructor
        · intro hlt
          exact le_of_lt (List.Lex.rel hlt)
        · intro hle
          rcases lt_or_gt_of_ne hne with hlt | hgt
          · exact hlt
          · exact absurd hle (not_le_of_gt (List.Lex.rel hgt))

theorem atMost_trans (a b c : Text) (hab : atMost a b = true) (hbc : atMost b c = true) :
    atMost a c = true := by
  rw [atMost_iff_le] at hab hbc ⊢
  exact le_trans hab hbc

theorem atMost_total (a b : Text) : (atMost a b || atMost b a) = true := by
  rw [Bool.or_eq_true_iff, atMost_iff_le, atMost_iff_le]
  exact le_total a b

end Text

section Sorting

variable {α β : Type}

/-- **Sorting gives the list that is in order**, where the order does not take two members of it for
the same. -/
theorem mergeSort_eq_of_perm {le : α → α → Bool} (htrans : ∀ a b c, le a b → le b c → le a c)
    (htotal : ∀ a b, le a b || le b a) {l ordered : List α} (hperm : l.Perm ordered)
    (hsorted : ordered.Pairwise fun a b => le a b)
    (hantisymm : ∀ a ∈ ordered, ∀ b ∈ ordered, le a b → le b a → a = b) :
    l.mergeSort le = ordered := by
  have hsame : (l.mergeSort le).Perm ordered := (List.mergeSort_perm l le).trans hperm
  refine List.Perm.eq_of_pairwise ?_ (List.pairwise_mergeSort htrans htotal l) hsorted hsame
  intro a b ha hb
  exact hantisymm a (hsame.mem_iff.mp ha) b hb

theorem pairwise_le_mergeSort (key : α → Text) (l : List α) :
    (l.mergeSort fun a b => Text.atMost (key a) (key b)).Pairwise fun a b => key a ≤ key b := by
  refine (List.pairwise_mergeSort (fun a b c => Text.atMost_trans (key a) (key b) (key c))
    (fun a b => Text.atMost_total (key a) (key b)) l).imp fun h => ?_
  exact (Text.atMost_iff_le _ _).mp h

/-- Where no text occurs twice, sorting by texts gives a strictly increasing order. -/
theorem pairwise_lt_mergeSort {key : α → Text} {l : List α} (hnodup : (l.map key).Nodup) :
    (l.mergeSort fun a b => Text.atMost (key a) (key b)).Pairwise fun a b => key a < key b := by
  have hdistinct : (l.mergeSort fun a b => Text.atMost (key a) (key b)).Pairwise
      fun a b => key a ≠ key b := by
    have hsorted : ((l.mergeSort fun a b => Text.atMost (key a) (key b)).map key).Nodup :=
      ((List.mergeSort_perm l _).map key).nodup_iff.mpr hnodup
    exact List.pairwise_map.mp hsorted
  exact ((pairwise_le_mergeSort key l).and hdistinct).imp fun h => lt_of_le_of_ne h.1 h.2

/-- Pairs in the order of their texts. -/
def sortByText (l : List (Text × β)) : List (Text × β) :=
  l.mergeSort fun a b => Text.atMost a.1 b.1

theorem mem_sortByText {l : List (Text × β)} {x : Text × β} : x ∈ sortByText l ↔ x ∈ l :=
  List.mem_mergeSort

theorem pairwise_lt_sortByText {l : List (Text × β)} (hnodup : (l.map Prod.fst).Nodup) :
    (sortByText l).Pairwise fun a b => a.1 < b.1 :=
  pairwise_lt_mergeSort hnodup

/-- **Sorting forgets the order before it**, if no text occurs twice. -/
theorem sortByText_eq_of_perm {l l' : List (Text × β)} (hperm : l.Perm l')
    (hnodup : (l.map Prod.fst).Nodup) : sortByText l = sortByText l' := by
  have hnodup' : (l'.map Prod.fst).Nodup := (hperm.map Prod.fst).nodup_iff.mp hnodup
  refine List.Perm.eq_of_pairwise ?_ (pairwise_lt_sortByText hnodup)
    (pairwise_lt_sortByText hnodup') ?_
  · intro a b _ _ hab hba
    exact absurd hab (lt_asymm hba)
  · exact (List.mergeSort_perm l _).trans (hperm.trans (List.mergeSort_perm l' _).symm)

end Sorting

namespace Text

/-! ### The order in which words are tried -/

theorem triedBefore_iff {a b : Text} :
    triedBefore a b = true ↔ b.length < a.length ∨ a.length = b.length ∧ a ≤ b := by
  unfold triedBefore
  split
  · next hlength => simp [hlength, atMost_iff_le]
  · next hlength => simp [hlength]

theorem triedBefore_trans (a b c : Text) (hab : triedBefore a b = true)
    (hbc : triedBefore b c = true) : triedBefore a c = true := by
  rw [triedBefore_iff] at hab hbc ⊢
  rcases hab with hab | ⟨hlength, hab⟩
  · rcases hbc with hbc | ⟨hlength', -⟩
    · exact Or.inl (Nat.lt_trans hbc hab)
    · exact Or.inl (hlength' ▸ hab)
  · rcases hbc with hbc | ⟨hlength', hbc⟩
    · exact Or.inl (hlength ▸ hbc)
    · exact Or.inr ⟨hlength.trans hlength', le_trans hab hbc⟩

theorem triedBefore_total (a b : Text) : (triedBefore a b || triedBefore b a) = true := by
  rw [Bool.or_eq_true_iff, triedBefore_iff, triedBefore_iff]
  rcases Nat.lt_trichotomy a.length b.length with hlt | heq | hgt
  · exact Or.inr (Or.inl hlt)
  · rcases le_total a b with hle | hle
    · exact Or.inl (Or.inr ⟨heq, hle⟩)
    · exact Or.inr (Or.inr ⟨heq.symm, hle⟩)
  · exact Or.inl (Or.inl hgt)

theorem triedBefore_antisymm {a b : Text} (hab : triedBefore a b = true)
    (hba : triedBefore b a = true) : a = b := by
  rw [triedBefore_iff] at hab hba
  rcases hab with hab | ⟨hlength, hab⟩
  · omega
  · rcases hba with hba | ⟨-, hba⟩
    · omega
    · exact le_antisymm hab hba

/-- **The words are tried in the order of any list of them that is in order.** -/
theorem trialOrder_eq_of_perm {words ordered : List Text} (hne : ordered ≠ [])
    (hperm : words.eraseDups.Perm ordered)
    (hsorted : ordered.Pairwise fun a b => triedBefore a b = true) :
    trialOrder words = ordered := by
  have hsort : words.eraseDups.mergeSort triedBefore = ordered :=
    mergeSort_eq_of_perm triedBefore_trans triedBefore_total hperm hsorted
      fun _ _ _ _ => triedBefore_antisymm
  unfold trialOrder
  rw [hsort]
  split
  · exact absurd rfl hne
  · rfl

end Text

end SqlInventory
