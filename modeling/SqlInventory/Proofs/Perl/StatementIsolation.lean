import SqlInventory.Perl.Assignment
import Mathlib.Data.List.Basic

/-!
# What earlier statements change about a target

A target is found by three walks: to the left for an assignment operator, from the operator to the
left for a *stop* (a variable, a declarator or a comma), and from a declarator to the right for the
variable that it declares. Here an arena is put behind `earlier`, tokens whose last one is a
semicolon, and each walk is compared with the same walk in the arena alone.

* `assignmentBefore?_append`: the first walk ends at the semicolon, so it never leaves the arena;
* `stopBefore?_append`: the second walk has no such bound. It stays in the arena only if it finds a
  stop there, and goes on in `earlier` otherwise;
* `declaredAfter?_append`: the third walk goes to the right, away from `earlier`.

So the target can change in one way only: the assignment has no stop to its left in its own
statement (`LacksTarget`), and `earlier` offers one (`LeavesTarget`). `target_isolated_iff` says that
the target is the same if and only if not both happen, and `callAssignment_not_isolated` shows both
happening.
-/

namespace SqlInventory.Perl

namespace Arena

variable {earlier arena : Arena}

/-! ### The walks behind earlier tokens -/

/-- To the left of a place there are the tokens of the arena, and then the earlier ones. -/
theorem before_append (i : Nat) :
    (earlier ++ arena).before (earlier.length + i) =
      (arena.before i).map (fun (t, j) => (t, earlier.length + j)) ++
        earlier.before earlier.length := by
  unfold before
  rw [List.take_length_add_append, List.take_length, List.zipIdx_append, List.reverse_append,
    Nat.zero_add, List.zipIdx_eq_map_add, List.map_reverse]

/-- The tokens to the left of a place, without their places. -/
theorem map_fst_before (i : Nat) : (arena.before i).map Prod.fst = (arena.take i).reverse := by
  unfold before
  rw [List.map_reverse, List.zipIdx_map_fst]

/-- Nothing is found to the left of a place if no token before it is looked for. -/
theorem find?_before_eq_none {p : Token → Bool} {i : Nat} :
    (arena.before i).find? (fun (t, _) => p t) = none ↔ ∀ t ∈ arena.take i, p t = false := by
  have hmap : (((arena.take i).reverse).find? p) =
      ((arena.before i).find? (fun (t, _) => p t)).map Prod.fst := by
    rw [← map_fst_before, List.find?_map]
    rfl
  rw [← Option.map_eq_none_iff, ← hmap, List.find?_eq_none]
  simp

/-- A search behind earlier tokens finds what it finds in the arena, and goes on in the earlier
tokens only if that is nothing. -/
theorem find?_before_append (p : Token → Bool) (i : Nat) :
    ((earlier ++ arena).before (earlier.length + i)).find? (fun (t, _) => p t) =
      (((arena.before i).find? fun (t, _) => p t).map fun (t, j) => (t, earlier.length + j)).or
        ((earlier.before earlier.length).find? fun (t, _) => p t) := by
  rw [before_append, List.find?_append, List.find?_map]
  rfl

/-- The nearest of the earlier tokens is the last one. -/
theorem before_length_of_getLast? {e : Token} (he : earlier.getLast? = some e) :
    ∃ others, earlier.before earlier.length = (e, earlier.length - 1) :: others := by
  obtain ⟨front, rfl⟩ := List.getLast?_eq_some_iff.mp he
  refine ⟨front.zipIdx.reverse, ?_⟩
  unfold before
  rw [List.take_length, List.zipIdx_append, List.reverse_append]
  simp

/-- **The operator is found in its own statement**: earlier statements only move its place. -/
theorem assignmentBefore?_append {e : Token} (he : earlier.getLast? = some e)
    (hend : e.content = [';']) (i : Nat) :
    (earlier ++ arena).assignmentBefore? (earlier.length + i) =
      (arena.assignmentBefore? i).map (earlier.length + ·) := by
  unfold assignmentBefore?
  rw [find?_before_append fun t => t.isBound || t.isAssignment]
  cases hfound : (arena.before i).find? fun (t, _) => t.isBound || t.isAssignment with
  | some found =>
    obtain ⟨t, j⟩ := found
    by_cases hbound : t.isBound = true <;> simp [hbound]
  | none =>
    -- The walk comes to the semicolon, which bounds it.
    have hbound : e.isBound = true := by
      rw [Token.isBound, hend]
      decide
    obtain ⟨others, hothers⟩ := before_length_of_getLast? he
    simp [hothers, hbound]

/-- The search for a declared variable goes to the right, where nothing has changed. -/
theorem declaredAfter?_append (k : Nat) :
    (earlier ++ arena).declaredAfter? (earlier.length + k) = arena.declaredAfter? k := by
  unfold declaredAfter?
  rw [Nat.add_assoc, List.drop_length_add_append]

/-! ### Where a search for a target stops -/

/-- The token at which the search for a target to the left of place `j` stops, with its place. -/
def stopBefore? (arena : Arena) (j : Nat) : Option (Token × Nat) :=
  (arena.before j).find? fun (t, _) => t.stopsTarget

/-- The target that is read off at a stop. -/
def targetAt? (arena : Arena) : Token × Nat → Option Text
  | (t, k) =>
    if t.kind = .var then some t.content
    else if t.declarator.isSome then arena.declaredAfter? k
    else none

theorem targetBefore?_eq (arena : Arena) (j : Nat) :
    arena.targetBefore? j = (arena.stopBefore? j).bind arena.targetAt? := by
  unfold targetBefore? stopBefore? targetAt?
  cases (arena.before j).find? fun (t, _) => t.stopsTarget with
  | none => rfl
  | some stop => simp

theorem stopBefore?_append (j : Nat) :
    (earlier ++ arena).stopBefore? (earlier.length + j) =
      ((arena.stopBefore? j).map fun (t, k) => (t, earlier.length + k)).or
        (earlier.stopBefore? earlier.length) :=
  find?_before_append Token.stopsTarget j

/-- A stop in the arena is read the same way behind earlier tokens. -/
theorem targetAt?_append (t : Token) (k : Nat) :
    (earlier ++ arena).targetAt? (t, earlier.length + k) = arena.targetAt? (t, k) := by
  simp only [targetAt?, declaredAfter?_append]

/-- A search from the end of the earlier tokens stops at the last stop among them. -/
theorem stopBefore?_length_eq_some_iff {t : Token} {k : Nat} :
    earlier.stopBefore? earlier.length = some (t, k) ↔
      t.stopsTarget = true ∧ ∃ front behind, earlier = front ++ t :: behind ∧ front.length = k ∧
        ∀ s ∈ behind, s.stopsTarget = false := by
  unfold stopBefore? before
  rw [List.take_length, List.find?_eq_some_iff_append]
  refine and_congr_right fun _ => ?_
  constructor
  · rintro ⟨nearer, further, hsplit, hnearer⟩
    have hzip : earlier.zipIdx = further.reverse ++ (t, k) :: nearer.reverse := by
      rw [← List.reverse_reverse earlier.zipIdx, hsplit]
      simp
    refine ⟨further.reverse.map Prod.fst, nearer.reverse.map Prod.fst, ?_, ?_, ?_⟩
    · rw [← List.zipIdx_map_fst 0 earlier, hzip]
      simp
    · -- The place of a token is the number of tokens before it.
      have hplace := congrArg (fun l => l[further.length]?) hzip
      simp only [List.getElem?_append_right, List.length_reverse, Nat.le_refl, Nat.sub_self,
        List.getElem?_cons_zero, List.getElem?_zipIdx, Nat.zero_add, Option.map_eq_some_iff,
        Prod.mk.injEq] at hplace
      obtain ⟨_, _, _, hk⟩ := hplace
      simpa using hk
    · intro s hs
      obtain ⟨⟨s', k'⟩, hmem, rfl⟩ := List.mem_map.mp hs
      simpa using hnearer (s', k') (List.mem_reverse.mp hmem)
  · rintro ⟨front, behind, rfl, rfl, hbehind⟩
    refine ⟨(behind.zipIdx (front.length + 1)).reverse, front.zipIdx.reverse, ?_, ?_⟩
    · rw [List.zipIdx_append, List.zipIdx_cons]
      simp
    · rintro ⟨s, k⟩ hs
      have hmem : s ∈ behind := List.fst_mem_of_mem_zipIdx (List.mem_reverse.mp hs)
      simpa using hbehind s hmem

/-! ### What earlier statements offer -/

/-- **An assignment without a target of its own**: place `i` is governed by an operator that has no
stop to its left. -/
def LacksTarget (arena : Arena) (i : Nat) : Prop :=
  ∃ j, arena.assignmentBefore? i = some j ∧ ∀ t ∈ arena.take j, t.stopsTarget = false

/-- **What is before an arena offers a target** to an assignment that lacks one. -/
inductive LeavesTarget (earlier arena : Arena) : Prop where
  /-- By a variable with no other stop behind it. -/
  | ofVariable {front behind : Arena} {t : Token} (hsplit : earlier = front ++ t :: behind)
      (hvar : t.kind = .var) (hbehind : ∀ s ∈ behind, s.stopsTarget = false)
  /-- By a last token that is marked as a declarator, and so declares the first variable of the
  arena if no semicolon comes before that. -/
  | ofDeclarator {e t : Token} {front behind : Arena} (hlast : earlier.getLast? = some e)
      (hvar : e.kind ≠ .var) (hdeclarator : e.declarator.isSome = true)
      (hsplit : arena = front ++ t :: behind) (hstops : t.stopsDeclared = true)
      (hcontent : t.content ≠ [';']) (hfront : ∀ s ∈ front, s.stopsDeclared = false)

/-- What the token behind `front` declares: the next token that stops the walk to the right, if that
is no semicolon. -/
theorem declaredAfter?_length (front behind : Arena) (t : Token) :
    ((front ++ t :: behind) ++ arena).declaredAfter? front.length =
      ((behind ++ arena).find? Token.stopsDeclared).bind fun s =>
        if s.content = [';'] then none else some s.content := by
  have hdrop : ((front ++ t :: behind) ++ arena).drop (front.length + 1) = behind ++ arena := by
    rw [List.append_assoc, List.cons_append, List.drop_length_add_append, List.drop_one,
      List.tail_cons]
  unfold declaredAfter?
  rw [hdrop]
  cases (behind ++ arena).find? Token.stopsDeclared with
  | none => rfl
  | some s => simp

/-- A walk to the right through tokens without a stop for targets ends at their semicolon. -/
theorem find?_stopsDeclared_append (arena : Arena) {e : Token} {behind : Arena} (he : e ∈ behind)
    (hend : e.content = [';']) (hbehind : ∀ s ∈ behind, s.stopsTarget = false) :
    ∃ s, (behind ++ arena).find? Token.stopsDeclared = some s ∧ s.content = [';'] := by
  have hstops : e.stopsDeclared = true := by simp [Token.stopsDeclared, hend]
  obtain ⟨s, hs⟩ := Option.isSome_iff_exists.mp (List.find?_isSome.mpr ⟨e, he, hstops⟩)
  refine ⟨s, by rw [List.find?_append, hs, Option.some_or], ?_⟩
  -- What is found is a semicolon or a variable, and a variable would be a stop for targets.
  have hfound : s.content = [';'] ∨ s.kind = .var := by
    simpa [Token.stopsDeclared] using List.find?_some hs
  refine hfound.resolve_right fun hvar => ?_
  have hnot := hbehind s (List.mem_of_find?_eq_some hs)
  simp [Token.stopsTarget, hvar] at hnot

/-- A target that is read at the last stop of the earlier tokens is left by them. -/
theorem leavesTarget_of_targetAt? {e : Token} (he : earlier.getLast? = some e)
    (hend : e.content = [';']) {stop : Token × Nat}
    (hstop : earlier.stopBefore? earlier.length = some stop)
    (htarget : (earlier ++ arena).targetAt? stop ≠ none) : LeavesTarget earlier arena := by
  obtain ⟨t, k⟩ := stop
  obtain ⟨-, front, behind, rfl, rfl, hbehind⟩ := stopBefore?_length_eq_some_iff.mp hstop
  by_cases hvar : t.kind = .var
  · exact .ofVariable rfl hvar hbehind
  by_cases hdeclarator : t.declarator.isSome = true
  · rw [targetAt?, if_neg hvar, if_pos hdeclarator, declaredAfter?_length] at htarget
    cases behind with
    | nil =>
      -- The declarator is the last token itself, and the walk goes on in the arena.
      rw [List.nil_append] at htarget
      cases hfind : arena.find? Token.stopsDeclared with
      | none => rw [hfind, Option.bind_none] at htarget; exact absurd rfl htarget
      | some s =>
        rw [hfind, Option.bind_some] at htarget
        obtain ⟨hstops, before, after, harena, hbefore⟩ := List.find?_eq_some_iff_append.mp hfind
        refine .ofDeclarator (e := t) (by simp) hvar hdeclarator harena hstops
          (fun hcontent => htarget (if_pos hcontent)) fun s hs => ?_
        simpa using hbefore s hs
    | cons b rest =>
      -- The semicolon comes behind the declarator, and the walk ends there.
      have hmem : e ∈ b :: rest := by
        rw [List.getLast?_append, List.getLast?_cons_cons] at he
        obtain ⟨last, hlast⟩ : ∃ last, (b :: rest).getLast? = some last :=
          ⟨_, List.getLast?_eq_some_getLast (List.cons_ne_nil b rest)⟩
        rw [hlast, Option.some_or] at he
        exact Option.some.inj he ▸ List.mem_of_getLast? hlast
      obtain ⟨s, hs, hcontent⟩ := find?_stopsDeclared_append arena hmem hend hbehind
      rw [hs, Option.bind_some, if_pos hcontent] at htarget
      exact absurd rfl htarget
  · rw [targetAt?, if_neg hvar, if_neg hdeclarator] at htarget
    exact absurd rfl htarget

/-- A target that the earlier tokens leave is read at their last stop. -/
theorem LeavesTarget.targetAt?_ne_none (h : LeavesTarget earlier arena) :
    (earlier.stopBefore? earlier.length).bind (earlier ++ arena).targetAt? ≠ none := by
  cases h with
  | @ofVariable front behind t hsplit hvar hbehind =>
    have hstop : earlier.stopBefore? earlier.length = some (t, front.length) :=
      stopBefore?_length_eq_some_iff.mpr
        ⟨by simp [Token.stopsTarget, hvar], front, behind, hsplit, rfl, hbehind⟩
    rw [hstop, Option.bind_some, targetAt?, if_pos hvar]
    exact Option.some_ne_none _
  | @ofDeclarator e t front behind hlast hvar hdeclarator hsplit hstops hcontent hfront =>
    obtain ⟨init, hinit⟩ := List.getLast?_eq_some_iff.mp hlast
    have hstop : earlier.stopBefore? earlier.length = some (e, init.length) :=
      stopBefore?_length_eq_some_iff.mpr
        ⟨by simp [Token.stopsTarget, hdeclarator], init, [], hinit, rfl, by simp⟩
    have hfind : arena.find? Token.stopsDeclared = some t :=
      List.find?_eq_some_iff_append.mpr
        ⟨hstops, front, behind, hsplit, fun s hs => by simp [hfront s hs]⟩
    rw [hstop, Option.bind_some, targetAt?, if_neg hvar, if_pos hdeclarator, hinit,
      declaredAfter?_length, List.nil_append, hfind, Option.bind_some, if_neg hcontent]
    exact Option.some_ne_none _

/-! ### The target -/

/-- The target of a place in the arena depends on earlier tokens only where the search for it meets
no stop in the arena. -/
theorem target?_append_of_stop {e : Token} (he : earlier.getLast? = some e)
    (hend : e.content = [';']) {i j : Nat} (hj : arena.assignmentBefore? i = some j)
    {stop : Token × Nat} (hstop : arena.stopBefore? j = some stop) :
    (earlier ++ arena).target? (earlier.length + i) = arena.target? i := by
  obtain ⟨t, k⟩ := stop
  simp only [target?, assignmentBefore?_append he hend, hj, Option.map_some, targetBefore?_eq,
    stopBefore?_append, hstop, Option.some_or, Option.bind_some, targetAt?_append]

theorem target?_append_of_stop_none {e : Token} (he : earlier.getLast? = some e)
    (hend : e.content = [';']) {i j : Nat} (hj : arena.assignmentBefore? i = some j)
    (hstop : arena.stopBefore? j = none) :
    arena.target? i = none ∧ (earlier ++ arena).target? (earlier.length + i) =
      (earlier.stopBefore? earlier.length).bind (earlier ++ arena).targetAt? := by
  constructor
  · simp only [target?, hj, targetBefore?_eq, hstop, Option.bind_none]
  · simp only [target?, assignmentBefore?_append he hend, hj, Option.map_some, targetBefore?_eq,
      stopBefore?_append, hstop, Option.map_none, Option.none_or]

/-- **When a complete earlier statement leaves a target alone.** Behind tokens that end with a
semicolon, a place has the target that it has without them, unless its assignment lacks a target of
its own and they leave one. -/
theorem target_isolated_iff (earlier arena : Arena) (i : Nat)
    (hend : earlier.getLast?.map Token.content = some [';']) :
    (earlier ++ arena).target? (earlier.length + i) = arena.target? i ↔
      ¬(LacksTarget arena i ∧ LeavesTarget earlier arena) := by
  obtain ⟨e, he, hcontent⟩ := Option.map_eq_some_iff.mp hend
  cases hj : arena.assignmentBefore? i with
  | none =>
    -- Without an operator there is no target, before as after.
    refine iff_of_true ?_ ?_
    · simp only [target?, assignmentBefore?_append he hcontent, hj, Option.map_none]
    · rintro ⟨⟨j, hj', -⟩, -⟩
      rw [hj] at hj'
      cases hj'
  | some j =>
    cases hstop : arena.stopBefore? j with
    | some stop =>
      refine iff_of_true (target?_append_of_stop he hcontent hj hstop) ?_
      rintro ⟨⟨j', hj', hnone⟩, -⟩
      obtain rfl : j = j' := Option.some.inj (hj.symm.trans hj')
      rw [← find?_before_eq_none] at hnone
      exact absurd (hstop.symm.trans hnone) (Option.some_ne_none _)
    | none =>
      obtain ⟨halone, hbehind⟩ := target?_append_of_stop_none he hcontent hj hstop
      have hlacks : LacksTarget arena i := ⟨j, hj, find?_before_eq_none.mp hstop⟩
      rw [halone, hbehind]
      constructor
      · rintro hnone ⟨-, hleaves⟩
        exact hleaves.targetAt?_ne_none hnone
      · intro hnot
        by_contra hsome
        obtain ⟨name, hname⟩ := Option.ne_none_iff_exists'.mp hsome
        obtain ⟨stop, hlast, htarget⟩ := Option.bind_eq_some_iff.mp hname
        refine hnot ⟨hlacks, leavesTarget_of_targetAt? he hcontent hlast ?_⟩
        exact htarget ▸ Option.some_ne_none name

end Arena

/-- The tokens of `$x = 1;`. -/
def numberAssignment : Arena :=
  [{ kind := .var, content := "$x" }, { kind := .operator, content := "=" },
    { kind := .operator, content := "1" }, { kind := .delimiter, content := ";" }]

/-- The tokens of `my $sql = "SELECT 1"`. -/
def declaredSql : Arena :=
  [{ kind := .word, content := "my", declarator := some .my },
    { kind := .var, content := "$sql" }, { kind := .operator, content := "=" },
    { kind := .literal, content := "\"SELECT 1\"", value := some "SELECT 1" }]

/-- The tokens of `f() = "SELECT 1"`. -/
def callAssignment : Arena :=
  [{ kind := .word, content := "f" }, { kind := .delimiter, content := "(" },
    { kind := .delimiter, content := ")" }, { kind := .operator, content := "=" },
    { kind := .literal, content := "\"SELECT 1\"", value := some "SELECT 1" }]

theorem declaredSql_isolated :
    numberAssignment.getLast?.map Token.content = some [';'] ∧
      (numberAssignment ++ declaredSql).target? (numberAssignment.length + 3) =
        declaredSql.target? 3 := by
  refine ⟨by decide, (Arena.target_isolated_iff _ _ 3 (by decide)).mpr ?_⟩
  rintro ⟨⟨j, hj, hnone⟩, -⟩
  obtain rfl : 2 = j := Option.some.inj (hj.symm.trans (by decide)).symm
  exact absurd (hnone { kind := .var, content := "$sql" } (by decide)) (by decide)

/-- **An earlier statement can change a target.** The value that is assigned to a call has no target
in its own statement, and gets the variable of the statement before. -/
theorem callAssignment_not_isolated :
    numberAssignment.getLast?.map Token.content = some [';'] ∧ 4 < callAssignment.length ∧
      callAssignment.target? 4 = none ∧
      (numberAssignment ++ callAssignment).target? (numberAssignment.length + 4) =
        some "$x".toList := by
  decide

end SqlInventory.Perl
