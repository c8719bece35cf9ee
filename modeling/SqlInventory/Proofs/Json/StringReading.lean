import SqlInventory.Json.Parser
import SqlInventory.Json.Printer
import SqlInventory.Proofs.Text.Numerals

/-!
# Strings are read as they were written

A character of a string is written as itself, by a short escape, or by its UTF-16 units. Reading
undoes this one character at a time:

* `unit?_hex`: four hexadecimal digits denote the unit that they were written for;
* `readString_escapeChar_append`: whatever follows, the reader takes exactly the escape of one
  character off the front. This is where half a pair of units would do harm: a unit of one kind is
  never a character by itself, so a single escape is never taken for the first half of a pair;
* `readString_escaped`: so a whole string is read back, and the reader stops behind its quote.
-/

namespace SqlInventory

namespace Json

/-! ### Units -/

theorem hexValue?_digitChar {n : Nat} (h : n < 16) : hexValue? n.digitChar = some n := by
  have htable : ∀ n : Fin 16, hexValue? n.val.digitChar = some n.val := by decide
  exact htable ⟨n, h⟩

/-- The four digits of a unit. -/
theorem hex_four {n : Nat} (h : n < 0x10000) :
    Text.hex 4 n = [(n / 16 / 16 / 16).digitChar, (n / 16 / 16 % 16).digitChar,
      (n / 16 % 16).digitChar, (n % 16).digitChar] := by
  rw [Text.hex_succ 3 n (by decide), Text.hex_succ 2 _ (by decide), Text.hex_succ 1 _ (by decide),
    Text.hex_one (by omega)]
  rfl

/-- The four digits of a unit denote the unit. -/
theorem unit?_hex {n : Nat} (h : n < 0x10000) :
    ∃ a b c d, Text.hex 4 n = [a, b, c, d] ∧ unit? a b c d = some n := by
  refine ⟨_, _, _, _, hex_four h, ?_⟩
  unfold unit?
  rw [hexValue?_digitChar (by omega), hexValue?_digitChar (by omega),
    hexValue?_digitChar (by omega), hexValue?_digitChar (by omega)]
  show some _ = some n
  congr 1
  omega

theorem isHighUnit_iff {unit : Nat} :
    isHighUnit unit = true ↔ 0xD800 ≤ unit ∧ unit < 0xDC00 := by
  rw [isHighUnit, Bool.and_eq_true, decide_eq_true_iff, decide_eq_true_iff]

theorem isLowUnit_iff {unit : Nat} : isLowUnit unit = true ↔ 0xDC00 ≤ unit ∧ unit < 0xE000 := by
  rw [isLowUnit, Bool.and_eq_true, decide_eq_true_iff, decide_eq_true_iff]

/-! ### One character -/

/-- The reader at the escape of a unit that is no half of a pair. -/
theorem readString_unitEscape {n : Nat} (h : n < 0x10000) (hhigh : isHighUnit n = false)
    (hlow : isLowUnit n = false) (rest : Text) :
    readString 0 (unitEscape n ++ rest) =
      (readString 0 rest).map fun (t, after) => (Char.ofNat n :: t, after) := by
  obtain ⟨a, b, c, d, hdigits, hunit⟩ := unit?_hex h
  have hchar : unitChar n = Char.ofNat n := by
    rw [unitChar, hhigh, hlow]
    rfl
  rw [unitEscape, hdigits]
  show readString 0 ('\\' :: 'u' :: a :: b :: c :: d :: rest) = _
  simp [readString, hunit, hhigh, hchar]

/-- The reader at the escapes of the two units of a pair. -/
theorem readString_pairEscape {high low : Nat} (hhigh : isHighUnit high = true)
    (hlow : isLowUnit low = true) (rest : Text) :
    readString 0 (unitEscape high ++ unitEscape low ++ rest) =
      (readString 0 rest).map fun (t, after) => (pairChar high low :: t, after) := by
  have hhighLt := (isHighUnit_iff.mp hhigh).2
  have hlowLt := (isLowUnit_iff.mp hlow).2
  obtain ⟨a, b, c, d, hdigits, hunit⟩ := unit?_hex (Nat.lt_trans hhighLt (by decide))
  obtain ⟨e, f, g, k, hdigits', hunit'⟩ := unit?_hex (Nat.lt_trans hlowLt (by decide))
  rw [unitEscape, unitEscape, hdigits, hdigits']
  show readString 0
    ('\\' :: 'u' :: a :: b :: c :: d :: '\\' :: 'u' :: e :: f :: g :: k :: rest) = _
  simp [readString, lowUnit?, hunit, hunit', hhigh, hlow]

/-- **The reader takes one escape off the front**, whatever follows it. -/
theorem readString_escapeChar_append (c : Char) (rest : Text) :
    readString 0 (escapeChar c ++ rest) =
      (readString 0 rest).map fun (t, after) => (c :: t, after) := by
  have hvalid : c.toNat < 0xD800 ∨ 0xDFFF < c.toNat ∧ c.toNat < 0x110000 := c.valid
  unfold escapeChar
  split_ifs with hquote hslash hfeed hreturn htab hback hform hplain hunit
  · subst hquote
    rfl
  · subst hslash
    rfl
  · subst hfeed
    rfl
  · subst hreturn
    rfl
  · subst htab
    rfl
  · obtain rfl : c = Char.ofNat 8 := by rw [← hback, Char.ofNat_toNat]
    rfl
  · obtain rfl : c = Char.ofNat 12 := by rw [← hform, Char.ofNat_toNat]
    rfl
  · -- Printable ASCII stands for itself.
    have hcontrol : ¬c.toNat < 32 := by omega
    show readString 0 (c :: rest) = _
    rw [readString.eq_def]
    simp only [hquote, hcontrol, hslash, if_false]
  · -- Halves of pairs are no characters.
    have hhigh : isHighUnit c.toNat = false := by
      rw [Bool.eq_false_iff, Ne, isHighUnit_iff]
      omega
    have hlow : isLowUnit c.toNat = false := by
      rw [Bool.eq_false_iff, Ne, isLowUnit_iff]
      omega
    rw [readString_unitEscape hunit hhigh hlow, Char.ofNat_toNat]
  · have hhigh : isHighUnit (0xD800 + (c.toNat - 0x10000) / 0x400) = true := by
      rw [isHighUnit_iff]
      omega
    have hlow : isLowUnit (0xDC00 + (c.toNat - 0x10000) % 0x400) = true := by
      rw [isLowUnit_iff]
      omega
    have hpair : pairChar (0xD800 + (c.toNat - 0x10000) / 0x400)
        (0xDC00 + (c.toNat - 0x10000) % 0x400) = c := by
      have hcode : 0x10000 + (0xD800 + (c.toNat - 0x10000) / 0x400 - 0xD800) * 0x400 +
          (0xDC00 + (c.toNat - 0x10000) % 0x400 - 0xDC00) = c.toNat := by omega
      rw [pairChar, hcode, Char.ofNat_toNat]
    show readString 0 (unitEscape _ ++ unitEscape _ ++ rest) = _
    rw [readString_pairEscape hhigh hlow, hpair]

/-! ### Whole strings -/

/-- **A string is read back**, and the reader stops behind its closing quote. -/
theorem readString_escaped (t rest : Text) :
    readString 0 (t.flatMap escapeChar ++ '"' :: rest) = some (t, rest) := by
  induction t with
  | nil => rfl
  | cons c t ih =>
    rw [List.flatMap_cons, List.append_assoc, readString_escapeChar_append, ih]
    rfl

/-- A string is written in one way only, and its end can be told from what follows. -/
theorem stringText_append_inj {t u r s : Text} (h : stringText t ++ r = stringText u ++ s) :
    t = u ∧ r = s := by
  have hopened : ∀ t r : Text, stringText t ++ r = '"' :: (t.flatMap escapeChar ++ '"' :: r) := by
    intro t r
    simp [stringText]
  rw [hopened, hopened] at h
  have hread := congrArg (readString 0) (List.cons.inj h).2
  rw [readString_escaped, readString_escaped] at hread
  exact Prod.mk.inj (Option.some.inj hread)

end Json

end SqlInventory
