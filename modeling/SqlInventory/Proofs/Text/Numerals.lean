import SqlInventory.Text.Quoted
import Mathlib.Data.List.Basic

/-!
# Reading numerals off a text

A numeral is a run of digits, so it can be read off the front of a text again, provided that no
digit follows it: `ofNat_append_inj` and `ofInt_append_inj` give back both the number and what follows.
Hexadecimal numerals of a fixed width are read digit by digit (`hex_succ`).
-/

namespace SqlInventory

theorem isDigit_of_mem_ofNat {c : Char} {n : Nat} (h : c ∈ Text.ofNat n) : c.isDigit = true :=
  Nat.isDigit_of_mem_toDigits (by decide) (by decide) h

theorem ofNat_injective : Function.Injective Text.ofNat := by
  intro m n h
  calc
    m = Nat.ofDigitChars 10 (Nat.toDigits 10 m) 0 := Nat.ofDigitChars_ten_toDigits.symm
    _ = Nat.ofDigitChars 10 (Nat.toDigits 10 n) 0 := congrArg (Nat.ofDigitChars 10 · 0) h
    _ = n := Nat.ofDigitChars_ten_toDigits

namespace Text

/-- What starts so does not go on with a numeral that stands before it. -/
def EndsNumeral (t : Text) : Prop :=
  ∀ c, t.head? = some c → c.isDigit = false

theorem endsNumeral_cons {c : Char} (h : c.isDigit = false) (t : Text) : EndsNumeral (c :: t) := by
  intro d hd
  rwa [← Option.some.inj hd]

/-- The digits at the front of a text that starts with a numeral are the numeral. -/
theorem takeWhile_isDigit_ofNat_append (n : Nat) {t : Text} (h : EndsNumeral t) :
    (ofNat n ++ t).takeWhile Char.isDigit = ofNat n := by
  rw [List.takeWhile_append_of_pos fun c hc => isDigit_of_mem_ofNat hc]
  cases t with
  | nil => exact List.append_nil _
  | cons c t => rw [List.takeWhile_cons_of_neg (by rw [h c rfl]; decide), List.append_nil]

theorem ofNat_append_inj {m n : Nat} {s t : Text} (hs : EndsNumeral s) (ht : EndsNumeral t)
    (h : ofNat m ++ s = ofNat n ++ t) : m = n ∧ s = t := by
  have hnumeral : ofNat m = ofNat n := by
    rw [← takeWhile_isDigit_ofNat_append m hs, h, takeWhile_isDigit_ofNat_append n ht]
  rw [hnumeral] at h
  exact ⟨ofNat_injective hnumeral, List.append_cancel_left h⟩

/-- The first character of a numeral is a digit. -/
theorem exists_cons_ofNat (n : Nat) : ∃ c t, ofNat n = c :: t ∧ c.isDigit = true := by
  obtain ⟨c, t, h⟩ := List.exists_cons_of_ne_nil (Nat.toDigits_ne_nil (n := n) (b := 10))
  refine ⟨c, t, h, isDigit_of_mem_ofNat (n := n) ?_⟩
  show c ∈ Nat.toDigits 10 n
  rw [h]
  exact List.mem_cons_self

/-- A numeral without a sign is no numeral with one. -/
theorem ofNat_append_ne_minus (n : Nat) (s t : Text) : ofNat n ++ s ≠ '-' :: t := by
  obtain ⟨c, rest, hn, hdigit⟩ := exists_cons_ofNat n
  rw [hn]
  intro h
  rw [(List.cons.inj h).1] at hdigit
  exact absurd hdigit (by decide)

/-- **An integer can be read off again**, together with what follows its numeral. -/
theorem ofInt_append_inj {m n : Int} {s t : Text} (hs : EndsNumeral s) (ht : EndsNumeral t)
    (h : ofInt m ++ s = ofInt n ++ t) : m = n ∧ s = t := by
  cases m with
  | ofNat m =>
    cases n with
    | ofNat n =>
      obtain ⟨rfl, hrest⟩ := ofNat_append_inj hs ht h
      exact ⟨rfl, hrest⟩
    | negSucc n => exact absurd h (ofNat_append_ne_minus m s _)
  | negSucc m =>
    cases n with
    | ofNat n => exact absurd h.symm (ofNat_append_ne_minus n t _)
    | negSucc n =>
      obtain ⟨hsucc, hrest⟩ := ofNat_append_inj hs ht (List.cons.inj h).2
      exact ⟨by rw [Nat.succ.inj hsucc], hrest⟩

/-! ### Hexadecimal numerals -/

theorem hex_one {n : Nat} (h : n < 16) : hex 1 n = [n.digitChar] := by
  simp [hex, fill, Nat.toDigits_of_lt_base h]

/-- The last digit of a hexadecimal numeral, and the numeral of the rest. -/
theorem hex_succ (width n : Nat) (hwidth : 0 < width) :
    hex (width + 1) n = hex width (n / 16) ++ [(n % 16).digitChar] := by
  by_cases hn : n < 16
  · -- One digit, and zeros in front of it on both sides.
    obtain ⟨w, rfl⟩ : ∃ w, width = w + 1 := ⟨width - 1, by omega⟩
    rw [Nat.div_eq_of_lt hn, Nat.mod_eq_of_lt hn]
    simp [hex, fill, Nat.toDigits_of_lt_base hn, List.replicate_succ']
  · have hdigits : Nat.toDigits 16 n = Nat.toDigits 16 (n / 16) ++ [(n % 16).digitChar] :=
      Nat.toDigits_of_base_le (by decide) (by omega)
    simp only [hex, hdigits, List.length_append, List.length_singleton, Nat.add_sub_add_right,
      List.append_assoc]

end Text

end SqlInventory
