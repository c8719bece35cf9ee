import SqlInventory.Text.Basic
import Mathlib.Data.List.TakeWhile

/-!
# What is left when a run is taken off

Readers take a run off the front of a list, off its end, or off both, and what is left is given by
`dropWhile`. Here it is said without the run being looked for: what is left is what stands beside
such runs and does not itself start, or end, with another one (`dropWhile_eq_iff`,
`reverse_dropWhile_reverse_eq_iff`, `trim_eq_iff`). A run that goes up to a mark ends at the first
mark (`takeWhile_ne_append_cons`, `dropWhile_ne_append_cons`).
-/

namespace SqlInventory

section Trimming

variable {α : Type} {p : α → Bool} {l m : List α}

/-- What is left when the run at the front is taken off. -/
theorem dropWhile_eq_iff :
    l.dropWhile p = m ↔
      ∃ left, l = left ++ m ∧ (∀ a ∈ left, p a = true) ∧ m.head?.any p = false := by
  constructor
  · rintro rfl
    refine ⟨l.takeWhile p, List.takeWhile_append_dropWhile.symm,
      fun a ha => List.mem_takeWhile_imp ha, ?_⟩
    have hhead := List.head?_dropWhile_not p l
    cases hfirst : (l.dropWhile p).head? with
    | none => rfl
    | some a =>
      rw [hfirst] at hhead
      exact hhead
  · rintro ⟨left, rfl, hleft, hhead⟩
    rw [List.dropWhile_append_of_pos hleft]
    cases m with
    | nil => rfl
    | cons a m => exact List.dropWhile_cons_of_neg (by simpa using hhead)

/-- What is left when the run at the end is taken off. -/
theorem reverse_dropWhile_reverse_eq_iff :
    (l.reverse.dropWhile p).reverse = m ↔
      ∃ right, l = m ++ right ∧ (∀ a ∈ right, p a = true) ∧ m.getLast?.any p = false := by
  rw [List.reverse_eq_iff, dropWhile_eq_iff, List.head?_reverse]
  constructor
  · rintro ⟨left, hl, hleft, hlast⟩
    refine ⟨left.reverse, ?_, fun a ha => hleft a (List.mem_reverse.mp ha), hlast⟩
    rw [← List.reverse_inj, hl, List.reverse_append, List.reverse_reverse]
  · rintro ⟨right, rfl, hright, hlast⟩
    exact ⟨right.reverse, List.reverse_append, fun a ha => hright a (List.mem_reverse.mp ha), hlast⟩

/-- **What is left when the runs on either side are taken off.** -/
theorem trim_eq_iff :
    ((l.dropWhile p).reverse.dropWhile p).reverse = m ↔
      ∃ left right, l = left ++ (m ++ right) ∧ (∀ a ∈ left, p a = true) ∧
        (∀ a ∈ right, p a = true) ∧ m.head?.any p = false ∧ m.getLast?.any p = false := by
  rw [reverse_dropWhile_reverse_eq_iff]
  constructor
  · rintro ⟨right, hdrop, hright, hlast⟩
    obtain ⟨left, hline, hleft, hhead⟩ := dropWhile_eq_iff.mp hdrop
    refine ⟨left, right, hline, hleft, hright, ?_, hlast⟩
    cases m with
    | nil => rfl
    | cons a m => exact hhead
  · rintro ⟨left, right, rfl, hleft, hright, hhead, hlast⟩
    cases m with
    | nil =>
      -- With nothing between them, both runs are taken off at the front.
      have hall : ∀ a ∈ left ++ right, p a = true := List.forall_mem_append.mpr ⟨hleft, hright⟩
      exact ⟨[], List.dropWhile_eq_nil_iff.mpr hall, by simp, rfl⟩
    | cons a m => exact ⟨right, dropWhile_eq_iff.mpr ⟨left, rfl, hleft, hhead⟩, hright, hlast⟩

end Trimming

section Marks

variable {α : Type} [BEq α] [LawfulBEq α] {mark : α} {inside inside' rest rest' : List α}

theorem bne_of_mem_of_notMem (h : mark ∉ inside) : ∀ a ∈ inside, (a != mark) = true := by
  intro a ha
  rw [bne_iff_ne]
  rintro rfl
  exact h ha

/-- Up to the first mark there is what stands before it. -/
theorem takeWhile_ne_append_cons (h : mark ∉ inside) :
    (inside ++ mark :: rest).takeWhile (· != mark) = inside := by
  rw [List.takeWhile_append_of_pos (bne_of_mem_of_notMem h),
    List.takeWhile_cons_of_neg (by simp), List.append_nil]

/-- From the first mark on there is the mark and what stands behind it. -/
theorem dropWhile_ne_append_cons (h : mark ∉ inside) :
    (inside ++ mark :: rest).dropWhile (· != mark) = mark :: rest := by
  rw [List.dropWhile_append_of_pos (bne_of_mem_of_notMem h),
    List.dropWhile_cons_of_neg (by simp)]

/-- A list is divided at its first mark in one way only. -/
theorem eq_of_append_cons_eq (h : mark ∉ inside) (h' : mark ∉ inside')
    (hsame : inside ++ mark :: rest = inside' ++ mark :: rest') :
    inside = inside' ∧ rest = rest' := by
  have hinside : inside = inside' := by
    rw [← takeWhile_ne_append_cons h, hsame, takeWhile_ne_append_cons h']
  subst hinside
  exact ⟨rfl, (List.cons.inj (List.append_cancel_left hsame)).2⟩

end Marks

/-- What is left of a text when the characters of a kind are taken off at its ends. -/
theorem Text.stripBy_eq_iff {p : Char → Bool} {t m : Text} :
    Text.stripBy p t = m ↔
      ∃ left right, t = left ++ (m ++ right) ∧ (∀ c ∈ left, p c = true) ∧
        (∀ c ∈ right, p c = true) ∧ m.head?.any p = false ∧ m.getLast?.any p = false :=
  trim_eq_iff

end SqlInventory
