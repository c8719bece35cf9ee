import SqlInventory.Perl.Lexeme
import Mathlib.Data.List.Basic
import Mathlib.Data.List.TakeWhile

/-!
# Quoting and decoding

A quoting (`Quoting`) is an operator, blanks, and a mark on either side of what is quoted. Decoding a
literal takes the quoting off, whatever the quoted text is: it may start with `q`, with blanks or with
a mark, and may hold the marks themselves.

That the quoting can be found again rests on the characters at its front. Neither a blank nor a mark
is the letter `q`, so the operator ends where the blanks and the opening mark say
(`afterQuoteOperator_quote`), and no mark is a blank, so the opening mark is where the blanks end. The
closing mark is the last character, so marks within the quoted text are not taken for it.

In the other direction, each text is an operator, blanks and a rest
(`exists_eq_append_afterQuoteOperator`), and a rest with a mark on either side makes it a quoted text.
-/

namespace SqlInventory.Perl

open Text

/-- The operators that may stand before a quoted text; the first one is none. -/
def quoteOperators : List Text := ["".toList, "q".toList, "qq".toList]

/-- A way to quote a text: an operator, blanks behind it, and a mark on either side of the text. -/
structure Quoting where
  operator : Text
  blanks : Text
  opening : Char
  closing : Char
  operator_mem : operator ∈ quoteOperators
  isBlank_of_mem : ∀ c ∈ blanks, isBlank c = true
  isMark_opening : isMark opening = true
  isMark_closing : isMark closing = true

/-- A text in quotes. -/
def Quoting.quote (q : Quoting) (body : Text) : Text :=
  q.operator ++ q.blanks ++ [q.opening] ++ body ++ [q.closing]

theorem isBlank_eq_false_of_isMark {c : Char} (h : isMark c = true) : isBlank c = false := by
  unfold isMark at h
  simpa using (Bool.and_eq_true_iff.mp h).2

/-! ### The front of a quoted text -/

/-- Blanks and a mark do not start with the letter of an operator. -/
theorem Quoting.head?_blanks_ne (q : Quoting) (rest : Text) :
    (q.blanks ++ q.opening :: rest).head? ≠ some 'q' := by
  intro h
  cases hblanks : q.blanks with
  | nil =>
    rw [hblanks, List.nil_append, List.head?_cons] at h
    have hmark := q.isMark_opening
    rw [Option.some.inj h] at hmark
    exact absurd hmark (by decide)
  | cons c blanks =>
    rw [hblanks, List.cons_append, List.head?_cons] at h
    have hblank := q.isBlank_of_mem c (hblanks ▸ List.mem_cons_self)
    rw [Option.some.inj h] at hblank
    exact absurd hblank (by decide)

/-- An operator is taken off whole, if no letter of an operator follows. -/
theorem afterQuoteOperator_append {operator t : Text} (hoperator : operator ∈ quoteOperators)
    (ht : t.head? ≠ some 'q') : afterQuoteOperator (operator ++ t) = t.dropWhile isBlank := by
  simp only [quoteOperators, List.mem_cons, List.not_mem_nil, or_false] at hoperator
  rcases hoperator with rfl | rfl | rfl
  · show afterQuoteOperator t = _
    unfold afterQuoteOperator
    split
    · exact absurd rfl ht
    · exact absurd rfl ht
    · rfl
  · show afterQuoteOperator ('q' :: t) = _
    cases t with
    | nil => rfl
    | cons c t =>
      -- A single letter is the operator only if the next character is another one.
      have hc : c ≠ 'q' := fun hc => ht (congrArg some hc)
      simp [afterQuoteOperator, hc]
  · rfl

/-- **Behind the operator and the blanks of a quoted text comes its opening mark.** -/
theorem Quoting.afterQuoteOperator_quote (q : Quoting) (body : Text) :
    afterQuoteOperator (q.quote body) = q.opening :: (body ++ [q.closing]) := by
  have hopening : ¬isBlank q.opening = true := by
    rw [isBlank_eq_false_of_isMark q.isMark_opening]
    exact Bool.false_ne_true
  calc afterQuoteOperator (q.quote body)
      = afterQuoteOperator (q.operator ++ (q.blanks ++ q.opening :: (body ++ [q.closing]))) := by
        simp [Quoting.quote]
    _ = (q.blanks ++ q.opening :: (body ++ [q.closing])).dropWhile isBlank :=
        afterQuoteOperator_append q.operator_mem (q.head?_blanks_ne _)
    _ = (q.opening :: (body ++ [q.closing])).dropWhile isBlank :=
        List.dropWhile_append_of_pos q.isBlank_of_mem
    _ = q.opening :: (body ++ [q.closing]) := List.dropWhile_cons_of_neg hopening

/-- **Each text is an operator, blanks, and what is left behind them.** -/
theorem exists_eq_append_afterQuoteOperator (t : Text) :
    ∃ operator ∈ quoteOperators, ∃ blanks : Text, (∀ c ∈ blanks, isBlank c = true) ∧
      t = operator ++ blanks ++ afterQuoteOperator t := by
  have hrest : ∀ operator rest : Text,
      operator ++ rest = operator ++ rest.takeWhile isBlank ++ rest.dropWhile isBlank := by
    intro operator rest
    rw [List.append_assoc, List.takeWhile_append_dropWhile]
  unfold afterQuoteOperator
  split
  · next rest =>
    exact ⟨"qq".toList, by decide, rest.takeWhile isBlank, fun c hc => List.mem_takeWhile_imp hc,
      hrest "qq".toList rest⟩
  · next rest _ =>
    exact ⟨"q".toList, by decide, rest.takeWhile isBlank, fun c hc => List.mem_takeWhile_imp hc,
      hrest "q".toList rest⟩
  · exact ⟨"".toList, by decide, t.takeWhile isBlank, fun c hc => List.mem_takeWhile_imp hc,
      hrest "".toList t⟩

/-! ### Decoding -/

theorem Quoting.decodeLiteral_quote (q : Quoting) (body : Text) :
    decodeLiteral (q.quote body) = body := by
  unfold decodeLiteral
  simp only [q.afterQuoteOperator_quote, List.getLast?_concat, q.isMark_opening, q.isMark_closing,
    Bool.and_self, if_true, List.dropLast_concat]

/-- A text with a mark on either side of what is left behind operator and blanks is quoted. -/
theorem exists_quote_of_afterQuoteOperator {t body : Text} {opening closing : Char}
    (h : afterQuoteOperator t = opening :: (body ++ [closing])) (hopening : isMark opening = true)
    (hclosing : isMark closing = true) : ∃ q : Quoting, t = q.quote body := by
  obtain ⟨operator, hoperator, blanks, hblanks, ht⟩ := exists_eq_append_afterQuoteOperator t
  refine ⟨⟨operator, blanks, opening, closing, hoperator, hblanks, hopening, hclosing⟩, ?_⟩
  rw [ht, h]
  simp [Quoting.quote]

/-- A text that is not quoted stays as it is. -/
theorem decodeLiteral_of_forall_ne {t : Text} (h : ∀ (q : Quoting) (body : Text), t ≠ q.quote body) :
    decodeLiteral t = t := by
  unfold decodeLiteral
  split
  · next opening rest hafter =>
    split
    · next closing hclosing =>
      rw [if_neg]
      intro hmarks
      obtain ⟨hopen, hclose⟩ := Bool.and_eq_true_iff.mp hmarks
      rw [← List.dropLast_append_getLast? closing hclosing] at hafter
      obtain ⟨q, hq⟩ := exists_quote_of_afterQuoteOperator hafter hopen hclose
      exact h q _ hq
    · rfl
  · rfl

/-- Quotes add to a text. -/
theorem Quoting.quote_ne_self (q : Quoting) (body : Text) : q.quote body ≠ body := by
  intro h
  have hlength := congrArg List.length h
  simp only [Quoting.quote, List.length_append, List.length_singleton] at hlength
  omega

/-- **Decoding undoes quoting.** Whatever the quoted text is and however it is quoted, decoding gives
it back. A text is left unchanged exactly if it is not quoted in any way. -/
theorem decodeLiteral_undoes_quoting :
    (∀ (q : Quoting) (body : Text), decodeLiteral (q.quote body) = body) ∧
      ∀ t : Text, decodeLiteral t = t ↔ ∀ (q : Quoting) (body : Text), t ≠ q.quote body := by
  refine ⟨fun q body => q.decodeLiteral_quote body, fun t => ⟨?_, decodeLiteral_of_forall_ne⟩⟩
  rintro hsame q body rfl
  rw [q.decodeLiteral_quote] at hsame
  exact q.quote_ne_self body hsame.symm

/-- Angle quotes behind `qq` and a line break. -/
def angleQuoting : Quoting where
  operator := "qq".toList
  blanks := " \n".toList
  opening := '«'
  closing := '»'
  operator_mem := by decide
  isBlank_of_mem := by decide
  isMark_opening := by decide +kernel
  isMark_closing := by decide +kernel

/-- A quoted text that starts with the letter of an operator and holds both marks, and a text with
one letter too many for an operator. -/
theorem angleQuoting_undone :
    decodeLiteral "qq \n«q »«\n»".toList = "q »«\n".toList ∧
      ∀ (q : Quoting) (body : Text), "qqq(a)".toList ≠ q.quote body := by
  obtain ⟨hundone, hunchanged⟩ := decodeLiteral_undoes_quoting
  have hquote : angleQuoting.quote "q »«\n".toList = "qq \n«q »«\n»".toList := by decide
  have hplain : decodeLiteral "qqq(a)".toList = "qqq(a)".toList := by decide
  refine ⟨?_, (hunchanged _).mp hplain⟩
  rw [← hquote]
  exact hundone angleQuoting _

end SqlInventory.Perl
