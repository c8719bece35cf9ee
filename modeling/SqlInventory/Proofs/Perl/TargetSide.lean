import SqlInventory.Proofs.Perl.StatementIsolation

/-!
# On which side of the operator a target stands

A target is what an assignment assigns to, so it ought to stand to the left of the operator. Whether
it does depends on the stop at which the search to the left of the operator ends.

* If the stop is a variable, that variable is the target, and it stands on the left.
* If the stop is a declarator, the target is looked for behind it. There is no variable between the
  declarator and the operator, or the search would have ended there. So what the declarator gets
  stands to the right of the operator (`lt_of_firstBehind_declarator`), as in
  `my (undef) = ($x, …)`.

`target_on_left_iff` says that a target is found on the left unless the second case happens and the
name that is found does not also stand somewhere on the left. The searches are first described by
places: `LastBefore` for a search to the left and `FirstBehind` for one to the right.
-/

namespace SqlInventory.Perl

namespace Arena

variable {arena : Arena}

/-! ### Searches by place -/

/-- Of the tokens before place `j`, the one at place `k` is the last for which `p` holds. -/
structure LastBefore (p : Token → Bool) (arena : Arena) (j k : Nat) (t : Token) : Prop where
  lt : k < j
  token : arena[k]? = some t
  holds : p t = true
  last : ∀ m s, k < m → m < j → arena[m]? = some s → p s = false

/-- Of the tokens behind place `k`, the one at place `m` is the first for which `p` holds. -/
structure FirstBehind (p : Token → Bool) (arena : Arena) (k m : Nat) (t : Token) : Prop where
  lt : k < m
  token : arena[m]? = some t
  holds : p t = true
  first : ∀ n s, k < n → n < m → arena[n]? = some s → p s = false

/-- Going one place to the right puts the token that was passed in front. -/
theorem before_succ (arena : Arena) (j : Nat) :
    arena.before (j + 1) = (arena[j]?.toList.map fun t => (t, j)) ++ arena.before j := by
  unfold before
  rw [List.take_add_one, List.zipIdx_append, List.reverse_append]
  congr 1
  cases h : arena[j]? with
  | none => rfl
  | some t =>
    have hlength : (arena.take j).length = j := by
      rw [List.length_take, Nat.min_eq_left]
      exact Nat.le_of_lt (List.getElem?_eq_some_iff.mp h).1
    simp [hlength]

/-- The last token before the next place is the one at this place, or the last before it. -/
theorem lastBefore_succ_iff {p : Token → Bool} {j k : Nat} {t : Token} :
    LastBefore p arena (j + 1) k t ↔
      (k = j ∧ arena[j]? = some t ∧ p t = true) ∨
        (LastBefore p arena j k t ∧ ∀ s, arena[j]? = some s → p s = false) := by
  constructor
  · intro h
    rcases Nat.lt_succ_iff_lt_or_eq.mp h.lt with hkj | rfl
    · refine .inr ⟨⟨hkj, h.token, h.holds, fun m s hkm hmj => ?_⟩, fun s => ?_⟩
      · exact h.last m s hkm (Nat.lt_succ_of_lt hmj)
      · exact h.last j s hkj (Nat.lt_succ_self j)
    · exact .inl ⟨rfl, h.token, h.holds⟩
  · rintro (⟨rfl, htoken, holds⟩ | ⟨h, hnot⟩)
    · exact ⟨Nat.lt_succ_self k, htoken, holds, fun m _ hkm hmk => by omega⟩
    · refine ⟨Nat.lt_succ_of_lt h.lt, h.token, h.holds, fun m s hkm hmj hs => ?_⟩
      rcases Nat.lt_succ_iff_lt_or_eq.mp hmj with hmj | rfl
      · exact h.last m s hkm hmj hs
      · exact hnot s hs

/-- **A search to the left finds the last token before its place.** -/
theorem find?_before_eq_some_iff {p : Token → Bool} {j k : Nat} {t : Token} :
    ((arena.before j).find? fun (s, _) => p s) = some (t, k) ↔ LastBefore p arena j k t := by
  induction j with
  | zero =>
    refine ⟨fun h => ?_, fun h => absurd h.lt (Nat.not_lt_zero k)⟩
    simp [before] at h
  | succ j ih =>
    rw [before_succ, lastBefore_succ_iff, ← ih]
    cases htoken : arena[j]? with
    | none => simp
    | some s =>
      by_cases hs : p s = true
      · -- The token at place `j` is what is looked for, so nothing further left is found.
        simp only [Option.toList_some, List.map_singleton, List.singleton_append,
          List.find?_cons, hs, Option.some.injEq, Prod.mk.injEq, forall_eq', Bool.true_eq_false,
          and_false, or_false]
        constructor
        · rintro ⟨rfl, rfl⟩
          exact ⟨rfl, rfl, hs⟩
        · rintro ⟨rfl, rfl, -⟩
          exact ⟨rfl, rfl⟩
      · have hnot : ¬(k = j ∧ some s = some t ∧ p t = true) := by
          rintro ⟨-, heq, holds⟩
          exact hs (Option.some.inj heq ▸ holds)
        rw [or_iff_right hnot]
        simp [hs]

/-- **A search to the right finds the first token behind its place.** -/
theorem find?_drop_eq_some_iff {p : Token → Bool} {k : Nat} {t : Token} :
    (arena.drop (k + 1)).find? p = some t ↔ ∃ m, FirstBehind p arena k m t := by
  rw [List.find?_eq_some_iff_getElem]
  constructor
  · rintro ⟨holds, i, hi, rfl, hfirst⟩
    rw [List.length_drop] at hi
    refine ⟨k + 1 + i, by omega, ?_, holds, fun n s hkn hnm hs => ?_⟩
    · rw [← List.getElem?_drop, List.getElem?_eq_getElem]
    · obtain ⟨n, rfl⟩ := Nat.exists_eq_add_of_le hkn
      have hn := hfirst n (by omega)
      rw [← List.getElem?_drop, List.getElem?_eq_some_iff] at hs
      obtain ⟨_, rfl⟩ := hs
      simpa using hn
  · rintro ⟨m, hm⟩
    obtain ⟨i, rfl⟩ := Nat.exists_eq_add_of_le hm.lt
    have htoken := hm.token
    rw [← List.getElem?_drop, List.getElem?_eq_some_iff] at htoken
    obtain ⟨hi, hat⟩ := htoken
    refine ⟨hm.holds, i, hi, hat, fun n hn => ?_⟩
    have hlength : n < (arena.drop (k + 1)).length := Nat.lt_trans hn hi
    have hat : arena[k + 1 + n]? = some (arena.drop (k + 1))[n] := by
      rw [← List.getElem?_drop, List.getElem?_eq_getElem hlength]
    have hfirst := hm.first (k + 1 + n) _ (by omega) (Nat.add_lt_add_left hn _) hat
    simpa using hfirst

/-! ### The three searches for a target -/

theorem assignmentBefore?_eq_some_iff {i j : Nat} :
    arena.assignmentBefore? i = some j ↔
      ∃ t, LastBefore (fun t => t.isBound || t.isAssignment) arena i j t ∧ t.isBound = false := by
  unfold assignmentBefore?
  constructor
  · intro h
    split at h
    · next t k hfound =>
      by_cases hbound : t.isBound = true
      · rw [if_pos hbound] at h
        cases h
      · rw [if_neg hbound] at h
        cases h
        exact ⟨t, find?_before_eq_some_iff.mp hfound, Bool.eq_false_iff.mpr hbound⟩
    · cases h
  · rintro ⟨t, hlast, hbound⟩
    have hfound := (find?_before_eq_some_iff
      (p := fun t => t.isBound || t.isAssignment)).mpr hlast
    rw [hfound]
    simp [hbound]

theorem stopBefore?_eq_some_iff {j k : Nat} {t : Token} :
    arena.stopBefore? j = some (t, k) ↔ LastBefore Token.stopsTarget arena j k t :=
  find?_before_eq_some_iff

theorem declaredAfter?_eq_some_iff {k : Nat} {name : Text} :
    arena.declaredAfter? k = some name ↔
      ∃ m t, FirstBehind Token.stopsDeclared arena k m t ∧ t.content ≠ [';'] ∧
        t.content = name := by
  unfold declaredAfter?
  constructor
  · intro h
    split at h
    · next t hfound =>
      obtain ⟨m, hm⟩ := find?_drop_eq_some_iff.mp hfound
      by_cases hend : t.content = [';']
      · simp [hend] at h
      · rw [if_neg (by simpa using hend)] at h
        exact ⟨m, t, hm, hend, Option.some.inj h⟩
    · cases h
  · rintro ⟨m, t, hm, hend, rfl⟩
    rw [find?_drop_eq_some_iff.mpr ⟨m, hm⟩]
    simp [hend]

/-! ### Left and right of the operator -/

/-- At place `p` there is a variable called `name`. -/
def HoldsVariable (arena : Arena) (p : Nat) (name : Text) : Prop :=
  ∃ t, arena[p]? = some t ∧ t.kind = .var ∧ t.content = name

/-- **The target stands on the left**: if the token at place `i` has a target, an operator before it
assigns to it, and a variable of that name stands before the operator. -/
def TargetOnLeft (arena : Arena) (i : Nat) : Prop :=
  ∀ name, arena.target? i = some name →
    ∃ j < i, arena.assignmentBefore? i = some j ∧ ∃ p < j, arena.HoldsVariable p name

/-- **The target is taken from the right**: the stop `d` before the operator at place `j` is a
declarator, and the first variable `t` behind it, with no semicolon between, stands behind the
operator and has a name that no variable before the operator has. -/
structure TakenFromRight (arena : Arena) (i j k m : Nat) (d t : Token) : Prop where
  operator : arena.assignmentBefore? i = some j
  stop : LastBefore Token.stopsTarget arena j k d
  declarator : d.kind ≠ .var ∧ d.declarator.isSome = true
  declared : FirstBehind Token.stopsDeclared arena k m t
  notEnd : t.content ≠ [';']
  behind : j < m
  onlyThere : ∀ p < j, ¬ arena.HoldsVariable p t.content

/-- What stops the search for a declared variable, and is no semicolon, is a variable. -/
theorem kind_of_stopsDeclared {t : Token} (h : t.stopsDeclared = true) (hend : t.content ≠ [';']) :
    t.kind = .var := by
  have hor : t.content = [';'] ∨ t.kind = .var := by
    simpa [Token.stopsDeclared] using h
  exact hor.resolve_left hend

/-- The operator that governs a place stands before it, and is a token of that kind. -/
theorem exists_operator {i j : Nat} (h : arena.assignmentBefore? i = some j) :
    j < i ∧ ∃ op, arena[j]? = some op ∧ op.kind = .operator := by
  obtain ⟨op, hlast, hbound⟩ := assignmentBefore?_eq_some_iff.mp h
  refine ⟨hlast.lt, op, hlast.token, ?_⟩
  have hassigns : op.isAssignment = true := by
    simpa [hbound] using hlast.holds
  simp only [Token.isAssignment, Bool.and_eq_true, beq_iff_eq] at hassigns
  exact hassigns.1

/-- **What a declarator gets stands behind the operator.** Between a declarator at which the search
to the left has stopped and the operator there is no variable. -/
theorem lt_of_firstBehind_declarator {i j k m : Nat} {d t : Token}
    (hop : arena.assignmentBefore? i = some j) (hstop : LastBefore Token.stopsTarget arena j k d)
    (hfirst : FirstBehind Token.stopsDeclared arena k m t) (hend : t.content ≠ [';']) : j < m := by
  have hvar := kind_of_stopsDeclared hfirst.holds hend
  by_contra hle
  rcases Nat.lt_or_eq_of_le (Nat.le_of_not_lt hle) with hmj | rfl
  · have hnot := hstop.last m t hfirst.lt hmj hfirst.token
    simp [Token.stopsTarget, hvar] at hnot
  · obtain ⟨-, op, hat, hkind⟩ := exists_operator hop
    cases hat.symm.trans hfirst.token
    rw [hkind] at hvar
    cases hvar

/-- A target that is taken from the right is the target, and no variable of its name stands on the
left. -/
theorem TakenFromRight.target?_eq {i j k m : Nat} {d t : Token}
    (h : TakenFromRight arena i j k m d t) : arena.target? i = some t.content := by
  have hdeclared : arena.declaredAfter? k = some t.content :=
    declaredAfter?_eq_some_iff.mpr ⟨m, t, h.declared, h.notEnd, rfl⟩
  have hstop : arena.stopBefore? j = some (d, k) := stopBefore?_eq_some_iff.mpr h.stop
  simp only [target?, h.operator]
  rw [targetBefore?_eq, hstop, Option.bind_some, targetAt?, if_neg h.declarator.1,
    if_pos h.declarator.2, hdeclared]

/-- **When a target stands on the left of its operator**: unless it is taken from the right, by a
declarator that has no variable before the operator. -/
theorem target_on_left_iff (arena : Arena) (i : Nat) :
    arena.TargetOnLeft i ↔ ¬ ∃ j k m d t, TakenFromRight arena i j k m d t := by
  constructor
  · rintro hleft ⟨j, k, m, d, t, htaken⟩
    obtain ⟨j', -, hj', p, hp, hvar⟩ := hleft t.content htaken.target?_eq
    obtain rfl : j = j' := Option.some.inj (htaken.operator.symm.trans hj')
    exact htaken.onlyThere p hp hvar
  · intro hnot name htarget
    unfold target? at htarget
    split at htarget
    · next j hop =>
      refine ⟨j, (exists_operator hop).1, hop, ?_⟩
      rw [targetBefore?_eq] at htarget
      obtain ⟨⟨d, k⟩, hstop, hread⟩ := Option.bind_eq_some_iff.mp htarget
      have hlast := stopBefore?_eq_some_iff.mp hstop
      by_cases hvar : d.kind = .var
      · -- The stop is a variable, and it stands before the operator.
        rw [targetAt?, if_pos hvar] at hread
        exact ⟨k, hlast.lt, d, hlast.token, hvar, Option.some.inj hread⟩
      · by_cases hdeclarator : d.declarator.isSome = true
        · rw [targetAt?, if_neg hvar, if_pos hdeclarator] at hread
          obtain ⟨m, t, hfirst, hend, rfl⟩ := declaredAfter?_eq_some_iff.mp hread
          by_contra hnone
          refine hnot ⟨j, k, m, d, t, hop, hlast, ⟨hvar, hdeclarator⟩, hfirst, hend,
            lt_of_firstBehind_declarator hop hlast hfirst hend, fun p hp hholds => ?_⟩
          exact hnone ⟨p, hp, hholds⟩
        · rw [targetAt?, if_neg hvar, if_neg hdeclarator] at hread
          cases hread
    · cases htarget

end Arena

/-- The tokens of `my (undef) = ($x, "SELECT 1");`. -/
def undefAssignment : Arena :=
  [{ kind := .word, content := "my", declarator := some .my },
    { kind := .delimiter, content := "(" }, { kind := .word, content := "undef" },
    { kind := .delimiter, content := ")" }, { kind := .operator, content := "=" },
    { kind := .delimiter, content := "(" }, { kind := .var, content := "$x" },
    { kind := .delimiter, content := "," },
    { kind := .literal, content := "\"SELECT 1\"", value := some "SELECT 1" },
    { kind := .delimiter, content := ")" }, { kind := .delimiter, content := ";" }]

/-- **A target may stand on the right.** Nothing is declared on the left, and the literal is
attributed to the variable that stands beside it. -/
theorem undefAssignment_target_not_on_left :
    undefAssignment.assignmentBefore? 8 = some 4 ∧
      undefAssignment.target? 8 = some "$x".toList ∧
      (∀ p < 4, ¬ undefAssignment.HoldsVariable p "$x".toList) ∧
      ¬ undefAssignment.TargetOnLeft 8 := by
  have hop : undefAssignment.assignmentBefore? 8 = some 4 := by decide
  have htarget : undefAssignment.target? 8 = some "$x".toList := by decide
  have hnone : ∀ p < 4, ¬ undefAssignment.HoldsVariable p "$x".toList := by
    rintro p hp ⟨t, hat, hvar, -⟩
    have hkinds : ∀ t ∈ undefAssignment.take 4, t.kind ≠ .var := by decide
    refine hkinds t (List.mem_of_getElem? (i := p) ?_) hvar
    rw [List.getElem?_take, if_pos hp]
    exact hat
  refine ⟨hop, htarget, hnone, fun hleft => ?_⟩
  obtain ⟨j, -, hj, p, hp, hvar⟩ := hleft _ htarget
  obtain rfl : 4 = j := Option.some.inj (hop.symm.trans hj)
  exact hnone p hp hvar

end SqlInventory.Perl
