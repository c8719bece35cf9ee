import SqlInventory.Json.Parser
import SqlInventory.Json.Printer
import SqlInventory.Proofs.Number.ShortestDecimals

/-!
# Numbers are read as they were written

A number is written as a whole part, perhaps a fraction and perhaps an exponent. `Numeral` holds
these parts, and the reader gives back what they denote (`readNumber_text`), provided that nothing
follows that could belong to the number. Every form in which a number is written is such a numeral:

* `exists_numeral`: digits with the point in its place, or with an exponent, are a numeral that
  denotes the same decimal. Where the point stands behind all digits, the zeros between them and a
  zero behind the point are part of the coefficient; elsewhere the coefficients agree;
* `readScalar_ofInt` and `readScalar_numberText`: so whole numbers and numbers of double precision
  are read back. The latter have to be in the form in which they are stored (`IsCanonical`).
-/

namespace SqlInventory

namespace Json

open Text

/-! ### Runs of digits -/

/-- What starts so does not go on with a number that stands before it. -/
def EndsNumber (t : Text) : Prop :=
  ∀ c, t.head? = some c → c.isDigit = false ∧ c ≠ '.' ∧ c ≠ 'e' ∧ c ≠ 'E'

theorem endsNumber_nil : EndsNumber [] := by
  intro c h
  cases h

theorem endsNumber_cons {c : Char}
    (h : c.isDigit = false ∧ c ≠ '.' ∧ c ≠ 'e' ∧ c ≠ 'E') (t : Text) : EndsNumber (c :: t) := by
  intro d hd
  rwa [← Option.some.inj hd]

theorem EndsNumber.endsNumeral {t : Text} (h : EndsNumber t) : EndsNumeral t :=
  fun c hc => (h c hc).1

/-- The digits at the front of a text are taken off, up to what is no digit. -/
theorem takeDigits_append {digits rest : Text} (hdigits : ∀ c ∈ digits, c.isDigit = true)
    (hrest : EndsNumeral rest) : takeDigits (digits ++ rest) = (digits, rest) := by
  have hsame : ∀ c : Char, (decide ('0' ≤ c) && decide (c ≤ '9')) = c.isDigit := fun c => rfl
  have htake : rest.takeWhile Char.isDigit = [] := by
    cases rest with
    | nil => rfl
    | cons c rest => exact List.takeWhile_cons_of_neg (by rw [hrest c rfl]; decide)
  have hdrop : rest.dropWhile Char.isDigit = rest := by
    cases rest with
    | nil => rfl
    | cons c rest => exact List.dropWhile_cons_of_neg (by rw [hrest c rfl]; decide)
  simp only [takeDigits, hsame]
  rw [List.takeWhile_append_of_pos hdigits, List.dropWhile_append_of_pos hdigits, htake, hdrop,
    List.append_nil]

theorem digitsValue_eq (digits : Text) : digitsValue digits = Nat.ofDigitChars 10 digits 0 := by
  have hstep : (fun (n : Nat) (c : Char) => n * 10 + (c.toNat - 48)) =
      fun n c => 10 * n + (c.toNat - '0'.toNat) := by
    funext n c
    rw [Nat.mul_comm]
    rfl
  rw [digitsValue, hstep]
  rfl

/-! ### Numerals -/

/-- The parts of a numeral. -/
structure Numeral where
  /-- The digits before the point. -/
  whole : Text
  /-- The digits behind the point; without any there is no point. -/
  fraction : Text
  /-- Whether the exponent is negative, and its digits. -/
  exponent : Option (Bool × Text)

namespace Numeral

/-- A point and the digits behind it, if there are any. -/
def fractionText (fraction : Text) : Text :=
  if fraction = [] then [] else '.' :: fraction

/-- An exponent with its sign, if there is one. -/
def exponentText : Option (Bool × Text) → Text
  | none => []
  | some (negative, digits) => 'e' :: (if negative then '-' else '+') :: digits

/-- The text of a numeral. -/
def text (n : Numeral) : Text :=
  n.whole ++ fractionText n.fraction ++ exponentText n.exponent

/-- A numeral is made of digits, and its whole part starts with a zero only if it is one. -/
structure IsProper (n : Numeral) : Prop where
  /-- The whole part is zero, or starts with another digit. -/
  leading : n.whole = ['0'] ∨ ∃ c rest, n.whole = c :: rest ∧ c ≠ '0'
  /-- The whole part has digits only. -/
  whole : ∀ c ∈ n.whole, c.isDigit = true
  /-- The fraction has digits only. -/
  fraction : ∀ c ∈ n.fraction, c.isDigit = true
  /-- The exponent has digits, and digits only. -/
  exponent : ∀ negative digits, n.exponent = some (negative, digits) →
    digits ≠ [] ∧ ∀ c ∈ digits, c.isDigit = true

/-- The exponent that is written. -/
def power (n : Numeral) : Option Int :=
  n.exponent.map fun (negative, digits) =>
    if negative then -(digitsValue digits : Int) else digitsValue digits

/-- The number of double precision that a numeral denotes. -/
def rounded (n : Numeral) (negative : Bool) : Double :=
  .ofDecimal negative (digitsValue (n.whole ++ n.fraction)) (n.power.getD 0 - n.fraction.length)

end Numeral

/-- The sign of a negative number. -/
def signText (negative : Bool) : Text :=
  if negative then ['-'] else []

/-! ### Reading the parts -/

theorem endsNumeral_exponentText {exponent : Option (Bool × Text)} {rest : Text}
    (hrest : EndsNumber rest) : EndsNumeral (Numeral.exponentText exponent ++ rest) := by
  cases exponent with
  | none => exact hrest.endsNumeral
  | some e => exact endsNumeral_cons (by decide) _

/-- Neither an exponent nor what ends a number starts with a point. -/
theorem ne_point_of_head? {exponent : Option (Bool × Text)} {rest : Text} (hrest : EndsNumber rest)
    {c : Char} (hc : (Numeral.exponentText exponent ++ rest).head? = some c) : c ≠ '.' := by
  cases exponent with
  | none => exact (hrest c hc).2.1
  | some e =>
    rw [← Option.some.inj hc]
    decide

theorem endsNumeral_fractionText (fraction : Text) {rest : Text} (hrest : EndsNumeral rest) :
    EndsNumeral (Numeral.fractionText fraction ++ rest) := by
  unfold Numeral.fractionText
  split
  · exact hrest
  · exact endsNumeral_cons (by decide) _

theorem takeWhole_append {n : Numeral} (h : n.IsProper) {rest : Text} (hrest : EndsNumeral rest) :
    takeWhole (n.whole ++ rest) = (n.whole, rest) := by
  rcases h.leading with hzero | ⟨c, more, hwhole, hc⟩
  · rw [hzero]
    rfl
  · have htake := takeDigits_append h.whole hrest
    rw [hwhole, List.cons_append] at htake ⊢
    unfold takeWhole
    split
    · next heq => exact absurd (List.cons.inj heq).1 hc
    · exact htake

theorem takeFraction_append {n : Numeral} (h : n.IsProper) {rest : Text}
    (hrest : EndsNumeral rest) (hpoint : ∀ {c : Char}, rest.head? = some c → c ≠ '.') :
    takeFraction (Numeral.fractionText n.fraction ++ rest) = (n.fraction, rest) := by
  unfold Numeral.fractionText
  split
  · next hnone =>
    rw [hnone, List.nil_append]
    unfold takeFraction
    split
    · next more => exact absurd rfl (hpoint (c := '.') rfl)
    · rfl
  · next hsome =>
    obtain ⟨c, more, hcons⟩ := List.exists_cons_of_ne_nil hsome
    have htake := takeDigits_append h.fraction hrest
    rw [hcons] at htake ⊢
    rw [List.cons_append]
    simp only [takeFraction, htake]

theorem takeExponent_append {n : Numeral} (h : n.IsProper) {rest : Text} (hrest : EndsNumber rest) :
    takeExponent (Numeral.exponentText n.exponent ++ rest) = (n.power, rest) := by
  unfold Numeral.power
  cases hexponent : n.exponent with
  | none =>
    show takeExponent rest = (none, rest)
    cases rest with
    | nil => rfl
    | cons c rest =>
      obtain ⟨-, -, he, hE⟩ := hrest c rfl
      simp [takeExponent, he, hE]
  | some e =>
    obtain ⟨negative, digits⟩ := e
    obtain ⟨hne, hdigits⟩ := h.exponent negative digits hexponent
    obtain ⟨c, more, rfl⟩ := List.exists_cons_of_ne_nil hne
    have htake := takeDigits_append hdigits hrest.endsNumeral
    have hsign : takeSign ((if negative then '-' else '+') :: (c :: more ++ rest)) =
        (negative, c :: more ++ rest) := by
      cases negative <;> rfl
    show takeExponent ('e' :: (if negative then '-' else '+') :: (c :: more ++ rest)) = _
    simp only [takeExponent, decide_true, Bool.true_or, if_true, hsign, htake, Option.map_some]

/-! ### Reading a numeral -/

/-- The first character of a numeral. -/
theorem Numeral.IsProper.exists_cons {n : Numeral} (h : n.IsProper) :
    ∃ c rest, n.whole = c :: rest ∧ c.isDigit = true := by
  rcases h.leading with hzero | ⟨c, rest, hwhole, -⟩
  · exact ⟨'0', [], hzero, by decide⟩
  · exact ⟨c, rest, hwhole, h.whole c (by rw [hwhole]; exact List.mem_cons_self)⟩

/-- The sign of a numeral is told by the first character. -/
theorem Numeral.IsProper.isNegative_front {n : Numeral} (h : n.IsProper) (negative : Bool)
    (rest : Text) : ((signText negative ++ n.text ++ rest).head? == some '-') = negative := by
  cases negative with
  | true => rfl
  | false =>
    obtain ⟨c, more, hwhole, hdigit⟩ := h.exists_cons
    have hminus : c ≠ '-' := by
      rintro rfl
      exact absurd hdigit (by decide)
    rw [Numeral.text, hwhole]
    simpa [signText] using hminus

/-- **The reader takes a numeral off the front** and gives what its parts denote. -/
theorem readNumber_text {n : Numeral} (h : n.IsProper) (limit : Nat) (negative : Bool) {rest : Text}
    (hrest : EndsNumber rest) :
    readNumber limit (signText negative ++ n.text ++ rest) =
      if n.fraction.isEmpty && n.power.isNone then
        if limit < n.whole.length then .error (.tooLong n.whole.length)
        else
          .ok (.integer (if negative then -(digitsValue n.whole : Int) else digitsValue n.whole),
            rest)
      else .ok (.decimal (n.rounded negative), rest) := by
  obtain ⟨c, more, hwhole, -⟩ := h.exists_cons
  have hbehind : EndsNumeral (Numeral.exponentText n.exponent ++ rest) :=
    endsNumeral_exponentText hrest
  have hbody : (if negative then (signText negative ++ n.text ++ rest).drop 1
      else signText negative ++ n.text ++ rest) = n.text ++ rest := by
    cases negative <;> rfl
  -- The parts are taken off one after the other.
  have htext : n.text ++ rest = n.whole ++ (Numeral.fractionText n.fraction ++
      (Numeral.exponentText n.exponent ++ rest)) := by
    simp only [Numeral.text, List.append_assoc]
  have htake := takeWhole_append h (endsNumeral_fractionText n.fraction hbehind)
  rw [← htext, hwhole] at htake
  unfold readNumber
  simp only [h.isNegative_front, hbody, htake,
    takeFraction_append h hbehind (ne_point_of_head? hrest), takeExponent_append h hrest]
  rw [← hwhole]
  rfl

/-- No word starts like a numeral, which has a digit as its first or second character. -/
theorem readScalar_text {n : Numeral} (h : n.IsProper) (limit : Nat) (negative : Bool)
    (rest : Text) :
    readScalar limit (signText negative ++ n.text ++ rest) =
      readNumber limit (signText negative ++ n.text ++ rest) := by
  have hletters : ∀ w ∈ words, 2 ≤ w.1.length ∧ ∀ c ∈ w.1, c.isDigit = false := by decide
  obtain ⟨c, more, hwhole, hdigit⟩ := h.exists_cons
  have hnone : words.find? (fun w => w.1.isPrefixOf (signText negative ++ n.text ++ rest)) =
      none := by
    rw [List.find?_eq_none]
    intro w hw hfront
    obtain ⟨hlength, hnoDigit⟩ := hletters w hw
    obtain ⟨first, second, others, hword⟩ :
        ∃ first second others, w.1 = first :: second :: others :=
      match w.1, hlength with
      | first :: second :: others, _ => ⟨first, second, others, rfl⟩
    obtain ⟨after, hsplit⟩ := List.isPrefixOf_iff_prefix.mp hfront
    rw [hword] at hsplit hnoDigit
    have hmem : c ∈ first :: second :: others := by
      rw [Numeral.text, hwhole] at hsplit
      cases negative with
      | false =>
        rw [← (List.cons.inj hsplit).1]
        exact List.mem_cons_self
      | true =>
        rw [← (List.cons.inj (List.cons.inj hsplit).2).1]
        exact List.mem_cons_of_mem first List.mem_cons_self
    rw [hnoDigit c hmem] at hdigit
    cases hdigit
  rw [readScalar, hnone]

/-! ### Whole numbers -/

theorem isProper_ofNat (n : Nat) : (⟨ofNat n, [], none⟩ : Numeral).IsProper where
  leading := by
    rcases Nat.eq_zero_or_pos n with rfl | hn
    · exact Or.inl rfl
    · exact Or.inr (exists_cons_ofNat_of_pos hn)
  whole := fun c hc => isDigit_of_mem_ofNat hc
  fraction := fun c hc => absurd hc List.not_mem_nil
  exponent := fun negative digits h => nomatch h

theorem digitsValue_ofNat (n : Nat) : digitsValue (ofNat n) = n := by
  rw [digitsValue_eq]
  exact Nat.ofDigitChars_ten_toDigits

/-- **A whole number is read back** if it is not longer than the limit. -/
theorem readScalar_ofInt (n : Int) {limit : Nat} (hlimit : (ofInt n).length ≤ limit) {rest : Text}
    (hrest : EndsNumber rest) : readScalar limit (ofInt n ++ rest) = .ok (.integer n, rest) := by
  have hread : ∀ (m : Nat) (negative : Bool), (ofNat m).length ≤ limit →
      readScalar limit (signText negative ++ ofNat m ++ rest) =
        .ok (.integer (if negative then -(m : Int) else m), rest) := by
    intro m negative hlength
    have htext : (⟨ofNat m, [], none⟩ : Numeral).text = ofNat m := by
      simp [Numeral.text, Numeral.fractionText, Numeral.exponentText]
    have hscalar := readScalar_text (isProper_ofNat m) limit negative rest
    rw [readNumber_text (isProper_ofNat m) limit negative hrest, htext] at hscalar
    rw [hscalar]
    simp only [Numeral.power, List.isEmpty_nil, Option.map_none, Option.isNone_none, Bool.and_self,
      if_true, digitsValue_ofNat, if_neg (not_lt.mpr hlength)]
  cases n with
  | ofNat n => exact hread n false hlimit
  | negSucc n => exact hread (n + 1) true ((Nat.le_succ _).trans hlimit)

/-! ### Decimals -/

/-- A numeral that is the text `t`, and denotes the same as some digits. -/
structure Numeral.Writes (n : Numeral) (d : DecimalDigits) (t : Text) : Prop where
  /-- It is a numeral. -/
  isProper : n.IsProper
  /-- Its text. -/
  text : n.text = t
  /-- There is a fraction or an exponent. -/
  isDecimal : (n.fraction.isEmpty && n.power.isNone) = false
  /-- What it denotes. -/
  rounded : ∀ negative, n.rounded negative = d.rounded negative

/-- Zeros in front do not count. -/
theorem digitsValue_zeros_append (k : Nat) (digits : Text) :
    digitsValue (List.replicate k '0' ++ digits) = Nat.ofDigitChars 10 digits 0 := by
  rw [digitsValue_eq, Nat.ofDigitChars_append, Nat.ofDigitChars_replicate_zero, Nat.mul_zero]

theorem isDigit_of_mem_fill {k : Nat} {c : Char} (h : c ∈ fill k '0') : c.isDigit = true := by
  rw [List.eq_of_mem_replicate h]
  decide

section

variable {d : DecimalDigits}

/-- The point in front of all digits. -/
theorem writes_before (h : d.IsProper) (hpoint : d.point ≤ 0) :
    (⟨['0'], fill (-d.point).toNat '0' ++ d.digits, none⟩ : Numeral).Writes d d.positional := by
  obtain ⟨c, rest, hdigits, -⟩ := h.leading
  have hne : fill (-d.point).toNat '0' ++ d.digits ≠ [] := by
    rw [hdigits]
    exact List.append_ne_nil_of_right_ne_nil _ (List.cons_ne_nil c rest)
  refine ⟨⟨Or.inl rfl, ?_, ?_, fun negative digits h => nomatch h⟩, ?_, ?_, ?_⟩
  · intro c hc
    rw [List.mem_singleton.mp hc]
    decide
  · intro c hc
    rcases List.mem_append.mp hc with hc | hc
    · exact isDigit_of_mem_fill hc
    · exact h.isDigit c hc
  · rw [DecimalDigits.positional, if_pos hpoint, Numeral.text, Numeral.fractionText, if_neg hne]
    simp [Numeral.exponentText]
  · simp [hne]
  · intro negative
    have hvalue : digitsValue (['0'] ++ (fill (-d.point).toNat '0' ++ d.digits)) =
        Nat.ofDigitChars 10 d.digits 0 :=
      digitsValue_zeros_append ((-d.point).toNat + 1) d.digits
    have hpower : (0 : Int) - (fill (-d.point).toNat '0' ++ d.digits).length =
        d.point - d.digits.length := by
      rw [List.length_append, fill, List.length_replicate]
      omega
    show Double.ofDecimal negative (digitsValue (['0'] ++ (fill (-d.point).toNat '0' ++ d.digits)))
      (0 - (fill (-d.point).toNat '0' ++ d.digits).length) = _
    rw [hvalue, hpower]
    rfl

/-- The point between the digits. -/
theorem writes_within (h : d.IsProper) (hpoint : 0 < d.point)
    (hwithin : d.point < d.digits.length) :
    (⟨d.digits.take d.point.toNat, d.digits.drop d.point.toNat, none⟩ : Numeral).Writes d
      d.positional := by
  obtain ⟨c, rest, hdigits, hc⟩ := h.leading
  have hplaces : d.point.toNat < d.digits.length := by omega
  have hne : d.digits.drop d.point.toNat ≠ [] := by
    rw [Ne, List.drop_eq_nil_iff]
    omega
  refine ⟨⟨Or.inr ?_, ?_, ?_, fun negative digits h => nomatch h⟩, ?_, ?_, ?_⟩
  · obtain ⟨n, hn⟩ : ∃ n, d.point.toNat = n + 1 := ⟨d.point.toNat - 1, by omega⟩
    show ∃ c rest, d.digits.take d.point.toNat = c :: rest ∧ c ≠ '0'
    rw [hn, hdigits, List.take_succ_cons]
    exact ⟨c, _, rfl, hc⟩
  · exact fun c hc => h.isDigit c (List.mem_of_mem_take hc)
  · exact fun c hc => h.isDigit c (List.mem_of_mem_drop hc)
  · have hfill : d.point.toNat - d.digits.length = 0 := by omega
    have hnotEmpty : (d.digits.drop d.point.toNat).isEmpty = false := by simpa using hne
    simp only [DecimalDigits.positional, if_neg (not_le.mpr hpoint), hfill, hnotEmpty, Numeral.text,
      Numeral.fractionText, if_neg hne, Numeral.exponentText]
    simp [fill]
  · simp [hne]
  · intro negative
    have hpower : (0 : Int) - (d.digits.drop d.point.toNat).length =
        d.point - d.digits.length := by
      rw [List.length_drop]
      omega
    show Double.ofDecimal negative
      (digitsValue (d.digits.take d.point.toNat ++ d.digits.drop d.point.toNat))
      (0 - (d.digits.drop d.point.toNat).length) = _
    rw [List.take_append_drop, hpower, digitsValue_eq]
    rfl

/-- The point behind all digits: zeros up to the point, and one behind it. -/
theorem writes_behind (h : d.IsProper) (hbehind : d.digits.length ≤ d.point) :
    (⟨d.digits ++ fill (d.point.toNat - d.digits.length) '0', ['0'], none⟩ : Numeral).Writes d
      d.positional := by
  obtain ⟨c, rest, hdigits, hc⟩ := h.leading
  have hpos : 0 < d.digits.length := by
    rw [hdigits]
    exact Nat.succ_pos _
  have hplaces : d.digits.length ≤ d.point.toNat := by omega
  refine ⟨⟨Or.inr ?_, ?_, ?_, fun negative digits h => nomatch h⟩, ?_, rfl, ?_⟩
  · show ∃ c rest, d.digits ++ fill _ '0' = c :: rest ∧ c ≠ '0'
    rw [hdigits, List.cons_append]
    exact ⟨c, _, rfl, hc⟩
  · intro c hc
    rcases List.mem_append.mp hc with hc | hc
    · exact h.isDigit c hc
    · exact isDigit_of_mem_fill hc
  · intro c hc
    rw [List.mem_singleton.mp hc]
    decide
  · have hnot : ¬d.point ≤ 0 := by omega
    simp only [DecimalDigits.positional, if_neg hnot, List.take_of_length_le hplaces,
      List.drop_of_length_le hplaces, Numeral.text, Numeral.fractionText, Numeral.exponentText]
    simp
  · intro negative
    obtain ⟨k, hk⟩ : ∃ k, k = d.point.toNat - d.digits.length := ⟨_, rfl⟩
    have hvalue : digitsValue (d.digits ++ fill k '0' ++ ['0']) =
        Nat.ofDigitChars 10 d.digits 0 * 10 ^ (k + 1) := by
      have hzeros : fill k '0' ++ ['0'] = List.replicate (k + 1) '0' := by
        rw [fill, List.replicate_succ']
      rw [digitsValue_eq, List.append_assoc, hzeros, Nat.ofDigitChars_append,
        Nat.ofDigitChars_replicate_zero, Nat.mul_comm]
    have hpower : (0 : Int) - 1 + (k + 1 : Nat) = d.point - d.digits.length := by omega
    show Double.ofDecimal negative
      (digitsValue (d.digits ++ fill (d.point.toNat - d.digits.length) '0' ++ ['0'])) (0 - 1) = _
    rw [← hk, hvalue, Double.ofDecimal_mul_pow, hpower]
    rfl

/-- One digit before the point, and an exponent. -/
theorem writes_scientific (h : d.IsProper) :
    (⟨d.digits.take 1, d.digits.drop 1, some (decide (d.point - 1 < 0),
      fill (2 - (ofNat (d.point - 1).natAbs).length) '0' ++ ofNat (d.point - 1).natAbs)⟩ :
        Numeral).Writes d d.scientific := by
  obtain ⟨c, rest, hdigits, hc⟩ := h.leading
  refine ⟨⟨Or.inr ?_, ?_, ?_, ?_⟩, ?_, ?_, ?_⟩
  · show ∃ c rest, d.digits.take 1 = c :: rest ∧ c ≠ '0'
    rw [hdigits, List.take_succ_cons]
    exact ⟨c, _, rfl, hc⟩
  · exact fun c hc => h.isDigit c (List.mem_of_mem_take hc)
  · exact fun c hc => h.isDigit c (List.mem_of_mem_drop hc)
  · intro negative digits hexponent
    obtain ⟨-, rfl⟩ := Prod.mk.inj (Option.some.inj hexponent)
    refine ⟨List.append_ne_nil_of_right_ne_nil _ Nat.toDigits_ne_nil, ?_⟩
    intro c hc
    rcases List.mem_append.mp hc with hc | hc
    · exact isDigit_of_mem_fill hc
    · exact isDigit_of_mem_ofNat hc
  · simp only [DecimalDigits.scientific, Numeral.text, Numeral.fractionText, Numeral.exponentText,
      decide_eq_true_eq]
    cases d.digits.drop 1 with
    | nil => simp
    | cons c more => simp
  · simp [Numeral.power]
  · intro negative
    have hdigitsValue : digitsValue (fill (2 - (ofNat (d.point - 1).natAbs).length) '0' ++
        ofNat (d.point - 1).natAbs) = (d.point - 1).natAbs := by
      rw [fill, digitsValue_zeros_append]
      exact Nat.ofDigitChars_ten_toDigits
    have hpower : (if decide (d.point - 1 < 0) = true then -((d.point - 1).natAbs : Int)
        else (d.point - 1).natAbs) - (d.digits.drop 1).length = d.point - d.digits.length := by
      rw [List.length_drop, hdigits, List.length_cons]
      simp only [decide_eq_true_eq]
      split <;> omega
    simp only [Numeral.rounded, Numeral.power, Option.map_some, Option.getD_some, hdigitsValue,
      hpower, List.take_append_drop]
    rw [digitsValue_eq]
    rfl

/-- **Digits are written as a numeral** that denotes the same. -/
theorem exists_numeral (h : d.IsProper) : ∃ n : Numeral, n.Writes d d.text := by
  by_cases hnear : -4 < d.point ∧ d.point ≤ 16
  · have htext : d.text = d.positional := by rw [DecimalDigits.text, if_pos hnear]
    rw [htext]
    by_cases hpoint : d.point ≤ 0
    · exact ⟨_, writes_before h hpoint⟩
    · by_cases hwithin : d.point < d.digits.length
      · exact ⟨_, writes_within h (not_le.mp hpoint) hwithin⟩
      · exact ⟨_, writes_behind h (not_lt.mp hwithin)⟩
  · have htext : d.text = d.scientific := by rw [DecimalDigits.text, if_neg hnear]
    rw [htext]
    exact ⟨_, writes_scientific h⟩

end

end Json

/-! ### Numbers of double precision -/

/-- The form in which numbers are stored: zero has the exponent zero, and any other finite number
fills its places if it can. -/
def Double.IsCanonical : Double → Prop
  | .finite _ significand exponent =>
    (significand = 0 ∧ exponent = 0) ∨ Double.IsPlaced significand exponent
  | .infinite _ => True
  | .undefined => True

namespace Json

/-- A finite number is written as a sign and a numeral that denotes it. -/
theorem exists_numeral_numberText {negative : Bool} {significand : Nat} {exponent : Int}
    (h : (Double.finite negative significand exponent).IsCanonical) :
    ∃ n : Numeral, n.IsProper ∧ (n.fraction.isEmpty && n.power.isNone) = false ∧
      numberText (.finite negative significand exponent) = signText negative ++ n.text ∧
      n.rounded negative = .finite negative significand exponent := by
  rcases h with ⟨rfl, rfl⟩ | hplaced
  · -- Zero, with its sign.
    have hzero : ∀ c ∈ ['0'], c.isDigit = true := by decide
    refine ⟨⟨['0'], ['0'], none⟩, ⟨Or.inl rfl, hzero, hzero, fun _ _ h => nomatch h⟩, rfl, ?_, rfl⟩
    cases negative <;> rfl
  · obtain ⟨n, hn⟩ := exists_numeral (Double.isProper_shortest hplaced)
    refine ⟨n, hn.isProper, hn.isDecimal, ?_, ?_⟩
    · simp only [numberText, Double.text, if_neg hplaced.pos.ne', hn.text]
      cases negative <;> rfl
    · rw [hn.rounded, Double.rounded_shortest hplaced]

/-- **A number of double precision is read back.** -/
theorem readScalar_numberText {d : Double} (h : d.IsCanonical) (limit : Nat) {rest : Text}
    (hrest : EndsNumber rest) :
    readScalar limit (numberText d ++ rest) = .ok (.decimal d, rest) := by
  cases d with
  | undefined => rfl
  | infinite negative => cases negative <;> rfl
  | finite negative significand exponent =>
    obtain ⟨n, hproper, hdecimal, htext, hrounded⟩ := exists_numeral_numberText h
    rw [htext, readScalar_text hproper, readNumber_text hproper limit negative hrest, hdecimal,
      hrounded]
    rfl

end Json

end SqlInventory
