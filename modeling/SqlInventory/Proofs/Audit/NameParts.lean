import SqlInventory.Audit.Name
import SqlInventory.Proofs.Catalog.DistinctIds
import SqlInventory.Proofs.Text.Constants

/-!
# The parts of a name

A name is a variable, a line and a verb with underscores between them, and nothing in it is escaped.
The variable may be any text, with underscores, digits and verbs of its own. The parts can be told
apart all the same, from the end: neither a verb nor a line has an underscore in it, so the last two
underscores of a name are those that part it.

* `eq_underscore_of_sameLetter`, `underscore_notMem_verbOf`: only an underscore counts as one when
  case is ignored, and none becomes one in capitals. So a verb has no underscore, however it is
  written, if the listed verbs have none;
* `linePart_injective`: an integer, a truth value and the mark for a missing line are written
  differently;
* `nameOf_eq_iff` puts this together for every list of such verbs, and
  `default_names_unambiguous` is the case of the default list.
-/

namespace SqlInventory

namespace Text

/-- **Nothing but the underscore counts as one** when case is ignored. -/
theorem eq_underscore_of_sameLetter {a : Char} (h : sameLetter a '_' = true) : a = '_' := by
  -- No kin has the underscore as a member, so the small forms are equal.
  have hkin : ∀ kin ∈ letterKin, 95 ∉ kin := by decide
  have hsmall : lowerChar a = '_' := by
    unfold sameLetter at h
    rcases Bool.or_eq_true_iff.mp h with heq | hany
    · exact beq_iff_eq.mp heq
    · obtain ⟨kin, hmem, hboth⟩ := List.any_eq_true.mp hany
      have hlast := List.contains_iff_mem.mp (Bool.and_eq_true_iff.mp hboth).2
      exact absurd hlast (hkin kin hmem)
  by_cases ha : a.toNat < 128
  · have htable : ∀ n < 128, lowerChar (Char.ofNat n) = '_' → Char.ofNat n = '_' := by
      decide +kernel
    have hchar := htable a.toNat ha
    rw [Char.ofNat_toNat] at hchar
    exact hchar hsmall
  · -- Beyond ASCII small forms stay there, but for those of four letters.
    by_cases hstray : a ∈ strayLetters
    · have htable : ∀ c ∈ strayLetters, lowerChar c ≠ '_' := by decide
      exact absurd hsmall (htable a hstray)
    · have hfar := (lowerChar_of_notMem_strayLetters (by omega) hstray).1
      rw [hsmall] at hfar
      exact absurd hfar (by decide)

theorem isNoCapital_underscore : IsNoCapital 95 := by
  decide +kernel

end Text

/-! ### Verbs and lines -/

/-- If no listed verb has an underscore, what a statement is said to do has none. -/
theorem underscore_notMem_verbOf {v : Vocabulary} (hverbs : ∀ word ∈ v.nameVerbs, '_' ∉ word)
    (t : Text) : '_' ∉ v.verbOf t := by
  unfold Vocabulary.verbOf
  cases hfound : Text.firstWord? v.nameVerbs t with
  | none => exact (by decide : '_' ∉ "UNKNOWN".toList)
  | some verb =>
    obtain ⟨rest, word, hword, hfront, rfl⟩ := Text.exists_isStretch_of_firstWordFrom? hfound
    have hclear : '_' ∉ word := by
      rcases Text.mem_or_eq_nil_of_mem_trialOrder hword with hlisted | rfl
      · exact hverbs word hlisted
      · exact List.not_mem_nil
    -- A letter of the verb as written counts as a letter of the listed verb.
    have hletters : ∀ c ∈ rest.take word.length, c ≠ '_' := by
      refine Text.forall_mem_take_of_isFrontOf (p := (· ≠ '_')) ?_ hfront
      rintro a ha c hsame rfl
      rw [Text.eq_underscore_of_sameLetter hsame] at ha
      exact hclear ha
    intro hmem
    have hwritten := Text.mem_of_mem_upper (d := '_') Text.isNoCapital_underscore hmem
    exact hletters '_' hwritten rfl

theorem underscore_notMem_ofInt (n : Int) : '_' ∉ Text.ofInt n := by
  cases n with
  | ofNat n => exact underscore_notMem_ofNat n
  | negSucc n =>
    intro hmem
    rcases List.mem_cons.mp hmem with hminus | hdigits
    · exact absurd hminus (by decide)
    · exact underscore_notMem_ofNat (n + 1) hdigits

theorem underscore_notMem_linePart (line : Option LineNumber) : '_' ∉ linePart line := by
  cases line with
  | none => exact (by decide : '_' ∉ "?".toList)
  | some line =>
    cases line with
    | number n => exact underscore_notMem_ofInt n
    | truth b => cases b <;> decide

/-- An integer starts with a digit or a minus. -/
theorem head?_ofInt (n : Int) :
    ∃ c, (Text.ofInt n).head? = some c ∧ (c.isDigit = true ∨ c = '-') := by
  cases n with
  | ofNat n =>
    obtain ⟨c, t, hn, hdigit⟩ := Text.exists_cons_ofNat n
    refine ⟨c, ?_, Or.inl hdigit⟩
    show (Text.ofNat n).head? = some c
    rw [hn]
    rfl
  | negSucc n => exact ⟨'-', rfl, Or.inr rfl⟩

/-- What starts with neither a digit nor a minus is no integer. -/
theorem ofInt_ne_cons {c : Char} (hdigit : c.isDigit = false) (hminus : c ≠ '-') (n : Int)
    (t : Text) : Text.ofInt n ≠ c :: t := by
  intro heq
  obtain ⟨d, hhead, hd⟩ := head?_ofInt n
  rw [heq] at hhead
  obtain rfl := Option.some.inj hhead
  rcases hd with hd | hd
  · rw [hdigit] at hd
    cases hd
  · exact hminus hd

theorem LineNumber.text_injective : Function.Injective LineNumber.text := by
  -- A truth value starts with a letter.
  have hmixed : ∀ (n : Int) (b : Bool), Text.ofInt n ≠ LineNumber.text (.truth b) := by
    intro n b
    cases b
    · exact ofInt_ne_cons (by decide) (by decide) n _
    · exact ofInt_ne_cons (by decide) (by decide) n _
  intro line line' h
  cases line with
  | number n =>
    cases line' with
    | number n' =>
      have hends : Text.EndsNumeral [] := by
        intro c hc
        cases hc
      have hdigits : Text.ofInt n ++ [] = Text.ofInt n' ++ [] := by
        rwa [List.append_nil, List.append_nil]
      rw [(Text.ofInt_append_inj hends hends hdigits).1]
    | truth b => exact absurd h (hmixed n b)
  | truth b =>
    cases line' with
    | number n => exact absurd h.symm (hmixed n b)
    | truth b' =>
      have htable : ∀ b b' : Bool,
          LineNumber.text (.truth b) = LineNumber.text (.truth b') → b = b' := by
        decide
      rw [htable b b' h]

/-- **A line can be read off its part of a name.** -/
theorem linePart_injective : Function.Injective linePart := by
  have hmissing : ∀ line : LineNumber, line.text ≠ "?".toList := by
    intro line
    cases line with
    | number n => exact ofInt_ne_cons (by decide) (by decide) n _
    | truth b => cases b <;> decide
  intro line line' h
  cases line with
  | none =>
    cases line' with
    | none => rfl
    | some line' => exact absurd h.symm (hmissing line')
  | some line =>
    cases line' with
    | none => exact absurd h (hmissing line)
    | some line' => rw [LineNumber.text_injective h]

/-! ### Names -/

/-- **The parts of a name can be told apart** if no listed verb has an underscore. -/
theorem nameOf_eq_iff {v : Vocabulary} (hverbs : ∀ word ∈ v.nameVerbs, '_' ∉ word)
    (target target' : Text) (line line' : Option LineNumber) (t t' : Text) :
    nameOf v target line t = nameOf v target' line' t' ↔
      bareVariable target = bareVariable target' ∧ line = line' ∧ v.verbOf t = v.verbOf t' := by
  constructor
  · intro h
    -- The last underscore stands before the verb, the last one before it stands before the line.
    have hparted : ∀ target line t, nameOf v target line t =
        (bareVariable target ++ '_' :: linePart line) ++ '_' :: v.verbOf t := by
      intro target line t
      unfold nameOf
      rw [List.append_assoc, List.cons_append]
    rw [hparted, hparted] at h
    obtain ⟨hfront, hverb⟩ := append_underscore_inj (underscore_notMem_verbOf hverbs t)
      (underscore_notMem_verbOf hverbs t') h
    obtain ⟨htarget, hline⟩ := append_underscore_inj (underscore_notMem_linePart line)
      (underscore_notMem_linePart line') hfront
    exact ⟨htarget, linePart_injective hline, hverb⟩
  · rintro ⟨htarget, rfl, hverb⟩
    unfold nameOf
    rw [htarget, hverb]

/-- **Names are unambiguous** with the default verbs: whatever the variables, lines and texts are,
two names are equal if and only if the bare variables, the lines and the verbs are. -/
theorem default_names_unambiguous (v : Vocabulary)
    (hverbs : v.nameVerbs = ({} : Vocabulary).nameVerbs) (target target' : Text)
    (line line' : Option LineNumber) (t t' : Text) :
    nameOf v target line t = nameOf v target' line' t' ↔
      bareVariable target = bareVariable target' ∧ line = line' ∧ v.verbOf t = v.verbOf t' := by
  have hclear : ∀ word ∈ ({} : Vocabulary).nameVerbs, '_' ∉ word := by decide
  rw [← hverbs] at hclear
  exact nameOf_eq_iff hclear target target' line line' t t'

/-- A variable that looks like a name is not taken for the parts of one. -/
theorem namelike_variable_unambiguous :
    ({ contextRadius := 0 } : Vocabulary).nameVerbs = ({} : Vocabulary).nameVerbs ∧
      nameOf { contextRadius := 0 } "$sql_1_DROP" (some 2) "ſelect 1" ≠
        nameOf { contextRadius := 0 } "$sql" (some 1) "drop_2_select" := by
  refine ⟨rfl, fun h => ?_⟩
  obtain ⟨htarget, -, -⟩ := (default_names_unambiguous _ rfl _ _ _ _ _ _).mp h
  exact absurd htarget (by decide)

end SqlInventory
