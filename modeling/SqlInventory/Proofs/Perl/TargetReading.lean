import SqlInventory.Proofs.Perl.TargetSide

/-!
# A target said by places

Which variable a token is assigned to is found by three walks over the arena. Here it is said
without a walk, by the places of tokens and by what stands between them.

* `Governs`: the operator at place `j` governs place `i`. It is an assignment operator before `i`,
  and between the two there is neither another one nor the end of a statement or block;
* `AssignsTo`: the operator at place `j` assigns to a variable. The last stop before `j` is that
  variable, or it is a declarator and the variable is the first one behind it.

A walk tests its stops in a fixed order, and a token may be several kinds of stop at once. Where
that matters it is said: a variable that is marked as a declarator is read as a variable, and a
semicolon ends a declaration even where it is a variable by its kind. The walks themselves are
described by `LastBefore` and `FirstBehind`, so that `target_read_by_places` only has to say which
tokens stop them.
-/

namespace SqlInventory.Perl

/-! ### The tokens that stop a walk -/

/-- An assignment operator: `=`, `.=`, `||=` or `//=`. -/
def Token.Assigns (t : Token) : Prop :=
  t.kind = .operator ∧ (t.content = ['='] ∨ t.content = ['.', '='] ∨ t.content = ['|', '|', '='] ∨
    t.content = ['/', '/', '='])

/-- The end of a statement or of a block: `;`, `{` or `}`, whatever the kind of the token. -/
def Token.Divides (t : Token) : Prop :=
  t.content = [';'] ∨ t.content = ['{'] ∨ t.content = ['}']

/-- A stop to the left of an operator: a variable, a declarator or a comma. -/
def Token.IsStop (t : Token) : Prop :=
  t.kind = .var ∨ t.declarator ≠ none ∨ t.content = [',']

/-- A stop behind a declarator: a variable or a semicolon. -/
def Token.IsDeclaredStop (t : Token) : Prop :=
  t.kind = .var ∨ t.content = [';']

instance (t : Token) : Decidable t.IsStop :=
  inferInstanceAs (Decidable (_ ∨ _ ∨ _))

instance (t : Token) : Decidable t.IsDeclaredStop :=
  inferInstanceAs (Decidable (_ ∨ _))

theorem Token.isAssignment_iff (t : Token) : t.isAssignment = true ↔ t.Assigns := by
  simp [Token.isAssignment, Token.Assigns, assignmentOperators]

theorem Token.isBound_iff (t : Token) : t.isBound = true ↔ t.Divides := by
  simp [Token.isBound, Token.Divides, statementBounds]

theorem Token.stopsTarget_eq : Token.stopsTarget = fun t => decide t.IsStop := by
  funext t
  rw [Bool.eq_iff_iff, decide_eq_true_iff]
  simp [Token.stopsTarget, Token.IsStop, Option.isSome_iff_ne_none, or_assoc]

theorem Token.stopsDeclared_eq : Token.stopsDeclared = fun t => decide t.IsDeclaredStop := by
  funext t
  rw [Bool.eq_iff_iff, decide_eq_true_iff]
  simp [Token.stopsDeclared, Token.IsDeclaredStop, or_comm]

/-- No token that assigns is also the end of a statement. -/
theorem Token.Assigns.not_divides {t : Token} (h : t.Assigns) : ¬t.Divides := by
  obtain ⟨-, h | h | h | h⟩ := h <;> simp [Token.Divides, h]

namespace Arena

variable {arena : Arena}

/-! ### The operator -/

/-- **The operator at place `j` governs place `i`**: it is the nearest assignment operator to the
left, and no statement or block ends between the two. -/
structure Governs (arena : Arena) (i j : Nat) : Prop where
  lt : j < i
  assigns : ∃ t, arena[j]? = some t ∧ t.Assigns
  nearest : ∀ m s, j < m → m < i → arena[m]? = some s → ¬s.Divides ∧ ¬s.Assigns

/-- What the walk to the left stops at, if that is no end of a statement, is the governing
operator. -/
theorem governs_iff_lastBefore {i j : Nat} :
    Governs arena i j ↔
      ∃ t, LastBefore (fun t => t.isBound || t.isAssignment) arena i j t ∧ t.isBound = false := by
  constructor
  · intro h
    obtain ⟨t, htoken, hassigns⟩ := h.assigns
    have hbound : t.isBound = false :=
      Bool.eq_false_iff.mpr fun hbound => hassigns.not_divides (t.isBound_iff.mp hbound)
    refine ⟨t, ⟨h.lt, htoken, ?_, fun m s hjm hmi hs => ?_⟩, hbound⟩
    · simpa [hbound] using t.isAssignment_iff.mpr hassigns
    · obtain ⟨hdivides, hassigns⟩ := h.nearest m s hjm hmi hs
      rw [← Token.isBound_iff] at hdivides
      rw [← Token.isAssignment_iff] at hassigns
      simp [hdivides, hassigns]
  · rintro ⟨t, hlast, hbound⟩
    have hassignment : t.isAssignment = true := by
      simpa [hbound] using hlast.holds
    refine ⟨hlast.lt, ⟨t, hlast.token, t.isAssignment_iff.mp hassignment⟩,
      fun m s hjm hmi hs => ?_⟩
    have hneither := Bool.or_eq_false_iff.mp (hlast.last m s hjm hmi hs)
    rw [← Token.isBound_iff, ← Token.isAssignment_iff]
    exact ⟨ne_true_of_eq_false hneither.1, ne_true_of_eq_false hneither.2⟩

theorem assignmentBefore?_eq_some_iff_governs {i j : Nat} :
    arena.assignmentBefore? i = some j ↔ Governs arena i j := by
  rw [assignmentBefore?_eq_some_iff, governs_iff_lastBefore]

/-! ### The variable -/

/-- **The operator at place `j` assigns to the variable `name`**, read off at the last stop before
the operator. -/
inductive AssignsTo (arena : Arena) (j : Nat) (name : Text) : Prop where
  /-- The stop is the variable itself. -/
  | ofVariable {k : Nat} {t : Token} (stop : LastBefore (fun t => t.IsStop) arena j k t)
      (var : t.kind = .var) (content : t.content = name)
  /-- The stop is a declarator, and of the variables and semicolons behind it the first is the
  variable. -/
  | ofDeclarator {k m : Nat} {d t : Token} (stop : LastBefore (fun t => t.IsStop) arena j k d)
      (notVar : d.kind ≠ .var) (declarator : d.declarator ≠ none)
      (first : FirstBehind (fun t => t.IsDeclaredStop) arena k m t)
      (notEnd : t.content ≠ [';']) (var : t.kind = .var) (content : t.content = name)

/-- What a declarator at place `k` declares is the first variable or semicolon behind it, if that is
no semicolon. -/
theorem declaredAfter?_eq_some_iff_firstBehind {k : Nat} {name : Text} :
    arena.declaredAfter? k = some name ↔
      ∃ m t, FirstBehind (fun t => t.IsDeclaredStop) arena k m t ∧ t.content ≠ [';'] ∧
        t.kind = .var ∧ t.content = name := by
  rw [declaredAfter?_eq_some_iff]
  constructor
  · rintro ⟨m, t, hfirst, hend, hname⟩
    have hvar := kind_of_stopsDeclared hfirst.holds hend
    rw [Token.stopsDeclared_eq] at hfirst
    exact ⟨m, t, hfirst, hend, hvar, hname⟩
  · rintro ⟨m, t, hfirst, hend, -, hname⟩
    rw [← Token.stopsDeclared_eq] at hfirst
    exact ⟨m, t, hfirst, hend, hname⟩

theorem targetBefore?_eq_some_iff {j : Nat} {name : Text} :
    arena.targetBefore? j = some name ↔ AssignsTo arena j name := by
  rw [targetBefore?_eq, Option.bind_eq_some_iff]
  constructor
  · rintro ⟨⟨t, k⟩, hstop, htarget⟩
    have hlast := stopBefore?_eq_some_iff.mp hstop
    rw [Token.stopsTarget_eq] at hlast
    rw [targetAt?] at htarget
    -- A stop is read as a variable first, then as a declarator; a comma gives no target.
    split_ifs at htarget with hvar hdeclarator
    · exact .ofVariable hlast hvar (Option.some.inj htarget)
    · obtain ⟨m, s, hfirst, hend, hs, hname⟩ := declaredAfter?_eq_some_iff_firstBehind.mp htarget
      exact .ofDeclarator hlast hvar (Option.isSome_iff_ne_none.mp hdeclarator) hfirst hend hs hname
  · intro h
    cases h with
    | @ofVariable k t stop var content =>
      rw [← Token.stopsTarget_eq] at stop
      refine ⟨(t, k), stopBefore?_eq_some_iff.mpr stop, ?_⟩
      rw [targetAt?, if_pos var, content]
    | @ofDeclarator k m d t stop notVar declarator first notEnd var content =>
      rw [← Token.stopsTarget_eq] at stop
      refine ⟨(d, k), stopBefore?_eq_some_iff.mpr stop, ?_⟩
      rw [targetAt?, if_neg notVar, if_pos (Option.isSome_iff_ne_none.mpr declarator)]
      exact declaredAfter?_eq_some_iff_firstBehind.mpr ⟨m, t, first, notEnd, var, content⟩

/-- **What an assignment is, by places.** The operator that is found for a place is the one that
governs it, and the target that is found is the variable to which that operator assigns. -/
theorem target_read_by_places (arena : Arena) (i : Nat) :
    (∀ j, arena.assignmentBefore? i = some j ↔ Governs arena i j) ∧
      ∀ name, arena.target? i = some name ↔
        ∃ j, Governs arena i j ∧ AssignsTo arena j name := by
  refine ⟨fun j => assignmentBefore?_eq_some_iff_governs, fun name => ?_⟩
  have hbind : arena.target? i = (arena.assignmentBefore? i).bind arena.targetBefore? := by
    unfold target?
    cases arena.assignmentBefore? i <;> rfl
  rw [hbind, Option.bind_eq_some_iff]
  refine exists_congr fun j => ?_
  rw [assignmentBefore?_eq_some_iff_governs, targetBefore?_eq_some_iff]

end Arena

end SqlInventory.Perl
