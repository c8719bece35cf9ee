import SqlInventory.Perl.Gap
import SqlInventory.Proofs.Text.Matching
import Mathlib.Data.List.Basic

/-!
# What is between the spans

The spans that the grammar gives leave gaps, and `fillGaps` reads the gaps again. Here is what it
puts there, said of the bytes of the source and without the reading.

* `Lexeme` describes the three sorts of lexemes, and `lexeme_of_mem` finds one of them behind every
  match. As the recogniser answers at every byte (`gapLexeme_total`), the lexemes leave none out.
* `IsGap` says which stretches count as gaps. `mem_fillFrom` and `exists_gap` tie the walk to them:
  what is not given comes from a gap, and a byte that no span holds lies in one.
* `InComment` is a comment as a reader sees it: a `#` outside the spans, and what follows it on its
  line up to the next span. A token from a gap never lies in one (`not_inComment_of_mem_gapSpans`).

The spans of `fillGaps` come in order of their starts (`pairwise_start_fillGaps`), and apart from
each other if those given are apart (`pairwise_fillGaps`); every byte that none of them holds is a
blank or in a comment (`exists_holds_or`).
-/

namespace SqlInventory.Perl

/-- A span holds an offset. -/
def Span.Holds (s : Span) (x : Nat) : Prop :=
  s.start ≤ x ∧ x < s.stop

instance (s : Span) (x : Nat) : Decidable (s.Holds x) :=
  inferInstanceAs (Decidable (_ ∧ _))

/-- Two members of a list whose members are related in order. -/
theorem eq_or_of_pairwise {α : Type} {R : α → α → Prop} {l : List α} (h : l.Pairwise R) {a b : α}
    (ha : a ∈ l) (hb : b ∈ l) : a = b ∨ R a b ∨ R b a := by
  induction h with
  | nil => simp at ha
  | cons hhead _ ih =>
    rcases List.mem_cons.mp ha with rfl | ha' <;> rcases List.mem_cons.mp hb with rfl | hb'
    · exact .inl rfl
    · exact .inr (.inl (hhead b hb'))
    · exact .inr (.inr (hhead a ha'))
    · exact ih ha' hb'

/-! ### Runs of elements -/

theorem lt_length_takeWhile_iff {α : Type} (p : α → Bool) (l : List α) (k : Nat) :
    k < (l.takeWhile p).length ↔ ∀ i ≤ k, l[i]?.any p = true := by
  induction l generalizing k with
  | nil => simpa using ⟨0, Nat.zero_le k⟩
  | cons a rest ih =>
    by_cases ha : p a = true
    · rw [List.takeWhile_cons_of_pos ha, List.length_cons]
      cases k with
      | zero => simp [ha]
      | succ k =>
        rw [Nat.add_lt_add_iff_right, ih]
        constructor
        · intro h i hi
          cases i with
          | zero => simpa using ha
          | succ i => simpa using h i (by omega)
        · intro h i hi
          simpa using h (i + 1) (by omega)
    · rw [List.takeWhile_cons_of_neg ha]
      refine ⟨fun h => absurd h (Nat.not_lt_zero k), fun h => absurd (h 0 (Nat.zero_le k)) ?_⟩
      simpa using ha

/-- A count of elements that are all there is no more than the length. -/
theorem le_length_of_any {α : Type} {p : α → Bool} {l : List α} {n : Nat}
    (h : ∀ i < n, l[i]?.any p = true) : n ≤ l.length := by
  by_contra hlong
  have hlast := h l.length (by omega)
  simp at hlast

theorem any_imp {α : Type} {p q : α → Bool} (hpq : ∀ a, p a = true → q a = true) {o : Option α}
    (h : o.any p = true) : o.any q = true := by
  cases o with
  | none => exact h
  | some a => exact hpq a h

/-- A qualified name is made of word elements and colons. -/
theorem any_of_lt_qualifiedLength {α : Type} (isWord isColon : α → Bool) (l : List α) :
    ∀ i < qualifiedLength isWord isColon l, l[i]?.any (fun a => isWord a || isColon a) = true := by
  fun_induction qualifiedLength isWord isColon l with
  | case1 => intro i hi; exact absurd hi (Nat.not_lt_zero i)
  | case2 a rest ha ih =>
    intro i hi
    cases i with
    | zero => simp [ha]
    | succ i => simpa using ih i (by omega)
  | case3 a ha b c more h ih =>
    simp only [Bool.and_eq_true] at h
    intro i hi
    match i with
    | 0 => simp [h.1.1]
    | 1 => simp [h.1.2]
    | i + 2 => simpa using ih i (by omega)
  | case4 => intro i hi; exact absurd hi (Nat.not_lt_zero i)
  | case5 => intro i hi; exact absurd hi (Nat.not_lt_zero i)

/-! ### Lexemes -/

/-- The bytes that a token may take: neither a blank nor a `#`. -/
def isTokenByte (b : UInt8) : Bool :=
  !isBlankByte b && b != byteOf '#'

theorem isTokenByte_of_nameByte (b : UInt8) (h : (isWordByte b || b == byteOf ':') = true) :
    isTokenByte b = true := by
  rw [isTokenByte, Bool.and_eq_true, Bool.not_eq_true', bne_iff_ne]
  constructor
  · -- A blank has a smaller code than any byte of a name.
    have hlow : 48 ≤ b.toNat := by
      rcases Bool.or_eq_true_iff.mp h with hword | hcolon
      · simp only [isWordByte, startsIdentifierByte, Bool.or_eq_true, Bool.and_eq_true,
          decide_eq_true_eq, beq_iff_eq] at hword
        omega
      · rw [beq_iff_eq.mp hcolon]
        decide
    simp only [isBlankByte, Bool.or_eq_false_iff, Bool.and_eq_false_iff, decide_eq_false_iff_not,
      beq_eq_false_iff_ne]
    omega
  · rintro rfl
    exact absurd h (by decide)

theorem isTokenByte_of_mem_gapOperators :
    ∀ op ∈ gapOperators, op ≠ [] ∧ ∀ b ∈ op, isTokenByte b = true := by
  decide +kernel

theorem any_of_lt_nameLengthBytes (bytes : Bytes) :
    ∀ i < nameLengthBytes bytes, bytes[i]?.any isTokenByte = true :=
  fun i hi => any_imp isTokenByte_of_nameByte (any_of_lt_qualifiedLength _ _ bytes i hi)

/-- A token takes at least one byte, and neither a blank nor a `#`. -/
theorem gapTokenLength_spec (b : UInt8) (rest : Bytes) (hb : isTokenByte b = true) :
    0 < gapTokenLength (b :: rest) ∧
      ∀ i < gapTokenLength (b :: rest), (b :: rest)[i]?.any isTokenByte = true := by
  simp only [gapTokenLength]
  split_ifs with hsigil hname
  · refine ⟨by omega, fun i hi => ?_⟩
    cases i with
    | zero => simpa using hb
    | succ i => simpa using any_of_lt_nameLengthBytes rest i (by omega)
  · refine ⟨?_, any_of_lt_nameLengthBytes _⟩
    have hword : isWordByte b = true := by simp [isWordByte, hname]
    rw [nameLengthBytes, qualifiedLength.eq_def]
    simp only [hword, if_true]
    omega
  · split
    · next op hop =>
      obtain ⟨hne, hbytes⟩ := isTokenByte_of_mem_gapOperators op (List.mem_of_find?_eq_some hop)
      have hfront := List.find?_some hop
      obtain ⟨more, hmore⟩ := List.isPrefixOf_iff_prefix.mp hfront
      refine ⟨List.length_pos_iff.mpr hne, fun i hi => ?_⟩
      rw [← hmore, List.getElem?_append_left hi, List.getElem?_eq_getElem hi]
      exact hbytes _ (List.getElem_mem hi)
    · refine ⟨Nat.one_pos, fun i hi => ?_⟩
      obtain rfl : i = 0 := by omega
      simpa using hb

/-- The sorts of lexemes in a gap that ends at `limit`, and whether they are tokens. -/
inductive Lexeme (source : Bytes) (limit start stop : Nat) : Bool → Prop
  /-- Blanks. -/
  | blanks (all : ∀ i, start ≤ i → i < stop → source[i]?.any isBlankByte = true) :
      Lexeme source limit start stop false
  /-- A `#` with the bytes behind it on its line. -/
  | comment (hash : source[start]? = some (byteOf '#'))
      (line : ∀ k, start ≤ k → k < limit →
        (k < stop ↔ ∀ i, start ≤ i → i ≤ k → source[i]?.any (· != byteOf '\n') = true)) :
      Lexeme source limit start stop false
  /-- Any other text. -/
  | token (all : ∀ i, start ≤ i → i < stop → source[i]?.any isTokenByte = true) :
      Lexeme source limit start stop true

/-- The recogniser answers wherever there is a byte, and with one of the three sorts. -/
theorem gapLexeme_total (before : Option UInt8) {bytes : Bytes} (limit : Nat) (h : bytes ≠ []) :
    ∃ n isToken, gapLexeme before bytes = some (n + 1, isToken) ∧ n < bytes.length ∧
      Lexeme bytes limit 0 (n + 1) isToken := by
  obtain ⟨b, rest, rfl⟩ := List.exists_cons_of_ne_nil h
  by_cases hblank : isBlankByte b = true
  · have hrun := lt_length_takeWhile_iff isBlankByte (b :: rest)
    have hpos := (hrun 0).mpr (fun i hi => by
      obtain rfl : i = 0 := by omega
      simpa using hblank)
    obtain ⟨n, hn⟩ := Nat.exists_eq_succ_of_ne_zero (Nat.pos_iff_ne_zero.mp hpos)
    have hall : ∀ i < n + 1, (b :: rest)[i]?.any isBlankByte = true :=
      fun i hi => (hrun i).mp (by omega) i (Nat.le_refl i)
    refine ⟨n, false, ?_, le_length_of_any hall, .blanks fun i _ hi => hall i hi⟩
    simp only [gapLexeme, hblank, if_true]
    rw [hn]
  · by_cases hhash : b = byteOf '#'
    · have hrun := lt_length_takeWhile_iff (· != byteOf '\n') rest
      refine ⟨(rest.takeWhile (· != byteOf '\n')).length, false, ?_, ?_,
        .comment (by simp [hhash]) fun k _ hk => ?_⟩
      · simp only [gapLexeme, hhash, beq_self_eq_true, if_true]
        rw [if_neg (by decide), Nat.add_comm]
      · exact Nat.lt_succ_of_le (List.takeWhile_prefix _).length_le
      · cases k with
        | zero =>
          refine ⟨fun _ i _ hi => ?_, fun _ => Nat.succ_pos _⟩
          obtain rfl : i = 0 := by omega
          simp [hhash]; decide
        | succ k =>
          rw [Nat.add_lt_add_iff_right, hrun]
          constructor
          · intro hline i _ hi
            cases i with
            | zero => simp [hhash]; decide
            | succ i => simpa using hline i (by omega)
          · intro hline i hi
            simpa using hline (i + 1) (Nat.zero_le _) (by omega)
    · have hb : isTokenByte b = true := by
        rw [isTokenByte, Bool.eq_false_iff.mpr hblank, bne_iff_ne.mpr hhash]
        rfl
      obtain ⟨hpos, hall⟩ := gapTokenLength_spec b rest hb
      obtain ⟨n, hn⟩ := Nat.exists_eq_succ_of_ne_zero (Nat.pos_iff_ne_zero.mp hpos)
      rw [hn] at hall
      refine ⟨n, true, ?_, le_length_of_any hall, .token fun i _ hi => hall i hi⟩
      simp only [gapLexeme, hblank, beq_iff_eq, hhash, if_false, hn, Bool.false_eq_true]

/-- What the recogniser is shown at a place of a gap is the source from that place on, up to the
end of the gap. -/
theorem getElem?_gap (source : Bytes) (a b s i : Nat) :
    (((source.drop a).take (b - a)).drop s)[i]? =
      if a + s + i < b then source[a + s + i]? else none := by
  rw [List.getElem?_drop, List.getElem?_take, List.getElem?_drop, ← Nat.add_assoc]
  exact if_congr (by omega) rfl rfl

/-- A lexeme of the gap from `a` to `b` is one of the three sorts, and lies in the gap. -/
theorem lexeme_of_mem {source : Bytes} {a b : Nat} {m : Match Bool}
    (h : m ∈ Recogniser.findAll gapLexeme ((source.drop a).take (b - a))) :
    m.start < m.stop ∧ a + m.stop ≤ b ∧ a + m.stop ≤ source.length ∧
      Lexeme source b (a + m.start) (a + m.stop) m.value := by
  obtain ⟨hstart, hlt, hanswer⟩ := Recogniser.answerAt_of_mem_findAll h
  rw [List.length_take, List.length_drop] at hstart
  have hne : ((source.drop a).take (b - a)).drop m.start ≠ [] := by
    rw [Ne, List.drop_eq_nil_iff, List.length_take, List.length_drop]
    omega
  obtain ⟨n, isToken, htotal, hlength, hsort⟩ := gapLexeme_total
    ((source.drop a).take (b - a) |>.take m.start).getLast? b hne
  have hsame : m.stop - m.start = n + 1 ∧ m.value = isToken := by
    have := hanswer.symm.trans htotal
    simpa using this
  obtain rfl := hsame.2
  have hstop : m.stop = m.start + (n + 1) := by omega
  rw [List.length_drop, List.length_take, List.length_drop] at hlength
  -- An offset of the source from the lexeme's start on is an index of what is shown.
  have hat : ∀ i, a + m.start ≤ i → i < b →
      (((source.drop a).take (b - a)).drop m.start)[i - (a + m.start)]? = source[i]? := by
    intro i hi hib
    rw [getElem?_gap, if_pos (by omega)]
    congr 1
    omega
  refine ⟨hlt, by omega, by omega, ?_⟩
  cases hvalue : m.value
  · rw [hvalue] at hsort
    cases hsort with
    | blanks hall =>
      refine .blanks fun i hi hstop' => ?_
      rw [← hat i hi (by omega)]
      exact hall _ (Nat.zero_le _) (by omega)
    | comment hhash hline =>
      refine .comment ?_ fun k hk hkb => ?_
      · rw [← hat _ (Nat.le_refl _) (by omega), Nat.sub_self]
        exact hhash
      · obtain ⟨j, rfl⟩ := Nat.exists_eq_add_of_le hk
        have hrun := hline j (Nat.zero_le _) (by omega)
        rw [hstop, ← Nat.add_assoc, Nat.add_lt_add_iff_left, hrun]
        constructor
        · intro hall i hi hik
          rw [← hat i hi (by omega)]
          exact hall _ (Nat.zero_le _) (by omega)
        · intro hall i _ hij
          have := hall (a + m.start + i) (by omega) (by omega)
          rwa [← hat _ (by omega) (by omega), Nat.add_sub_cancel_left] at this
  · rw [hvalue] at hsort
    cases hsort with
    | token hall =>
      refine .token fun i hi hstop' => ?_
      rw [← hat i hi (by omega)]
      exact hall _ (Nat.zero_le _) (by omega)

/-- The lexemes leave no byte of a gap out. -/
theorem exists_lexeme {source : Bytes} {a b x : Nat} (hax : a ≤ x) (hxb : x < b)
    (hx : x < source.length) :
    ∃ m ∈ Recogniser.findAll gapLexeme ((source.drop a).take (b - a)),
      a + m.start ≤ x ∧ x < a + m.stop := by
  have hin : x - a < ((source.drop a).take (b - a)).length := by
    rw [List.length_take, List.length_drop]
    omega
  obtain ⟨n, isToken, htotal, -⟩ := gapLexeme_total
    ((source.drop a).take (b - a) |>.take (x - a)).getLast? b
    (fun hnil => absurd (List.drop_eq_nil_iff.mp hnil) (Nat.not_le.mpr hin))
  have hanswer : Recogniser.answerAt gapLexeme ((source.drop a).take (b - a)) (x - a) =
      some (n + 1, isToken) := htotal
  obtain ⟨m, hm, hstart, hstop⟩ := Recogniser.exists_mem_findAll hin hanswer
  exact ⟨m, hm, by omega, by omega⟩

/-- Two lexemes that share a byte are the same. -/
theorem lexeme_unique {l : Bytes} {m m' : Match Bool} {i : Nat}
    (hm : m ∈ Recogniser.findAll gapLexeme l) (hm' : m' ∈ Recogniser.findAll gapLexeme l)
    (hi : m.start ≤ i ∧ i < m.stop) (hi' : m'.start ≤ i ∧ i < m'.stop) : m = m' := by
  have hapart : (Recogniser.findAll gapLexeme l).Pairwise fun m m' => m.stop ≤ m'.start :=
    Recogniser.pairwise_findAll l
  rcases eq_or_of_pairwise hapart hm hm' with heq | h | h
  · exact heq
  · omega
  · omega

/-! ### The tokens of one gap -/

theorem mem_gapSpans_iff {source : Bytes} {a b : Nat} {s : Span} :
    s ∈ gapSpans source a b ↔
      ∃ m ∈ Recogniser.findAll gapLexeme ((source.drop a).take (b - a)), m.value = true ∧
        s = { start := a + m.start, stop := a + m.stop, kind := some .operator } := by
  unfold gapSpans
  rw [List.mem_filterMap]
  refine exists_congr fun m => and_congr_right fun _ => ?_
  by_cases hvalue : m.value = true
  · rw [if_pos hvalue, Option.some.injEq, eq_comm]
    simp [hvalue]
  · simp [hvalue]

/-- A token of a gap takes some bytes, in the gap and in the source. -/
theorem bounds_of_mem_gapSpans {source : Bytes} {a b : Nat} {s : Span}
    (h : s ∈ gapSpans source a b) :
    a ≤ s.start ∧ s.start < s.stop ∧ s.stop ≤ b ∧ s.stop ≤ source.length := by
  obtain ⟨m, hm, -, rfl⟩ := mem_gapSpans_iff.mp h
  obtain ⟨hlt, hb, hlength, -⟩ := lexeme_of_mem hm
  exact ⟨Nat.le_add_right _ _, Nat.add_lt_add_left hlt a, hb, hlength⟩

theorem pairwise_gapSpans (source : Bytes) (a b : Nat) :
    (gapSpans source a b).Pairwise fun s t => s.stop ≤ t.start := by
  unfold gapSpans
  rw [List.pairwise_filterMap]
  refine (Recogniser.pairwise_findAll _).imp fun {m m'} hapart s hs t ht => ?_
  obtain ⟨-, hs⟩ := Option.ite_none_right_eq_some.mp hs
  obtain ⟨-, ht⟩ := Option.ite_none_right_eq_some.mp ht
  cases hs
  cases ht
  exact Nat.add_le_add_left hapart a

/-! ### Gaps and comments -/

/-- A stretch between spans: no span reaches into it, and it starts with the source or where a span
ends. -/
structure IsGap (spans : List Span) (a b : Nat) : Prop where
  apart : ∀ s ∈ spans, s.stop ≤ a ∨ b ≤ s.start
  left : a = 0 ∨ ∃ s ∈ spans, s.stop = a

/-- An offset is in a comment outside the spans: there is a `#` at or before it, on its line and
with no span between. -/
def InComment (source : Bytes) (spans : List Span) (x : Nat) : Prop :=
  ∃ c ≤ x, source[c]? = some (byteOf '#') ∧
    ∀ i, c ≤ i → i ≤ x → source[i]? ≠ some (byteOf '\n') ∧ ∀ s ∈ spans, ¬ s.Holds i

/-- **A gap is read to its end**: a byte in it is in a token, or a blank, or in a comment. -/
theorem exists_mem_gapSpans_or {source : Bytes} {spans : List Span} {a b x : Nat}
    (hgap : IsGap spans a b) (hax : a ≤ x) (hxb : x < b) (hx : x < source.length) :
    (∃ s ∈ gapSpans source a b, s.Holds x) ∨ source[x]?.any isBlankByte = true ∨
      InComment source spans x := by
  obtain ⟨m, hm, hstart, hstop⟩ := exists_lexeme hax hxb hx
  obtain ⟨-, hb, -, hsort⟩ := lexeme_of_mem hm
  cases hvalue : m.value
  · rw [hvalue] at hsort
    cases hsort with
    | blanks hall => exact .inr (.inl (hall x hstart hstop))
    | comment hhash hline =>
      refine .inr (.inr ⟨_, hstart, hhash, fun i hi hix => ⟨fun hnewline => ?_, ?_⟩⟩)
      · have := (hline x hstart (by omega)).mp hstop i hi hix
        simp [hnewline] at this
      · rintro s hs ⟨hsi, his⟩
        have := hgap.apart s hs
        omega
  · exact .inl ⟨_, mem_gapSpans_iff.mpr ⟨m, hm, hvalue, rfl⟩, hstart, hstop⟩

/-- A token of a gap lies in no comment. -/
theorem not_inComment_of_mem_gapSpans {source : Bytes} {spans : List Span} {a b y : Nat} {s : Span}
    (hgap : IsGap spans a b) (hne : ∀ t ∈ spans, t.start < t.stop) (hs : s ∈ gapSpans source a b)
    (hy : s.Holds y) : ¬ InComment source spans y := by
  rintro ⟨c, hcy, hhash, hline⟩
  obtain ⟨has, -, hsb, hslength⟩ := bounds_of_mem_gapSpans hs
  obtain ⟨hsy, hys⟩ := hy
  -- The `#` is in the same gap: a span that ends where the gap starts would stand between.
  have hac : a ≤ c := by
    rcases hgap.left with rfl | ⟨t, ht, rfl⟩
    · exact Nat.zero_le c
    · by_contra hca
      have hlt := hne t ht
      exact (hline (t.stop - 1) (by omega) (by omega)).2 t ht ⟨by omega, by omega⟩
  have hcb : c < b := by omega
  have hclength : c < source.length := by omega
  obtain ⟨m, hm, hstart, hstop⟩ := exists_lexeme hac hcb hclength
  obtain ⟨-, hmb, -, hsort⟩ := lexeme_of_mem hm
  obtain ⟨m', hm', hvalue', rfl⟩ := mem_gapSpans_iff.mp hs
  have hvalue : m.value = false := by
    cases hvalue : m.value
    · rfl
    · rw [hvalue] at hsort
      cases hsort with
      | token hall =>
        have := hall c hstart hstop
        rw [hhash] at this
        exact absurd this (by decide)
  rw [hvalue] at hsort
  cases hsort with
  | blanks hall =>
    have := hall c hstart hstop
    rw [hhash] at this
    exact absurd this (by decide)
  | comment _ hrun =>
    -- The comment goes on to `y`, so it is the lexeme of the token.
    have hym : y < a + m.stop := by
      refine (hrun y (by omega) (by omega)).mpr fun i hi hiy => ?_
      by_cases hic : i ≤ c
      · exact (hrun c hstart (by omega)).mp hstop i hi hic
      · have hi' : i < source.length := by omega
        have := (hline i (by omega) hiy).1
        rw [List.getElem?_eq_getElem hi'] at this ⊢
        simpa using this
    have hin : m.start ≤ y - a ∧ y - a < m.stop := by omega
    have hin' : m'.start ≤ y - a ∧ y - a < m'.stop := by
      simp only [] at hsy hys
      omega
    have hsame : m = m' := lexeme_unique hm hm' hin hin'
    rw [hsame, hvalue'] at hvalue
    exact absurd hvalue (by decide)

/-! ### The walk over the spans -/

/-- `reached` is how far the spans that the walk has passed reach. -/
structure Reached (passed : List Span) (reached : Nat) : Prop where
  upper : ∀ s ∈ passed, s.stop ≤ reached
  attained : reached = 0 ∨ ∃ s ∈ passed, s.stop = reached

theorem Reached.nil : Reached [] 0 :=
  ⟨by simp, .inl rfl⟩

theorem Reached.snoc {passed : List Span} {reached : Nat} (h : Reached passed reached)
    (span : Span) : Reached (passed ++ [span]) (max reached span.stop) := by
  constructor
  · intro s hs
    rcases List.mem_append.mp hs with hs | hs
    · exact Nat.le_trans (h.upper s hs) (Nat.le_max_left _ _)
    · rw [List.mem_singleton.mp hs]
      exact Nat.le_max_right _ _
  · rcases Nat.le_total reached span.stop with hle | hle
    · rw [Nat.max_eq_right hle]
      exact .inr ⟨span, by simp, rfl⟩
    · rw [Nat.max_eq_left hle]
      exact h.attained.imp_right fun ⟨s, hs, hstop⟩ => ⟨s, List.mem_append_left _ hs, hstop⟩

/-- What is between the spans passed and those to come is a gap. -/
theorem Reached.isGap {passed later : List Span} {reached b : Nat} (h : Reached passed reached)
    (hlater : ∀ s ∈ later, b ≤ s.start) : IsGap (passed ++ later) reached b := by
  constructor
  · intro s hs
    exact (List.mem_append.mp hs).imp (h.upper s) (hlater s)
  · exact h.attained.imp_right fun ⟨s, hs, hstop⟩ => ⟨s, List.mem_append_left _ hs, hstop⟩

variable {source : Bytes}

/-- Where the next span of the walk starts, a gap ends. -/
theorem Reached.isGap_cons {passed rest : List Span} {span : Span} {reached : Nat}
    (h : Reached passed reached) (hsorted : (span :: rest).Pairwise fun s t => s.start ≤ t.start) :
    IsGap (passed ++ span :: rest) reached span.start := by
  refine h.isGap fun s hs => ?_
  rcases List.mem_cons.mp hs with rfl | hs
  · exact Nat.le_refl _
  · exact (List.pairwise_cons.mp hsorted).1 s hs

/-- The walk gives the spans themselves and tokens of gaps. -/
theorem mem_fillFrom {passed later : List Span} {reached : Nat} (h : Reached passed reached)
    (hsorted : later.Pairwise fun s t => s.start ≤ t.start) {g : Span}
    (hg : g ∈ fillFrom source reached later) :
    g ∈ later ∨ ∃ a b, IsGap (passed ++ later) a b ∧ g ∈ gapSpans source a b := by
  induction later generalizing passed reached with
  | nil => exact .inr ⟨reached, source.length, h.isGap (by simp), hg⟩
  | cons span rest ih =>
    rcases List.mem_append.mp hg with hg | hg
    · exact .inr ⟨reached, span.start, h.isGap_cons hsorted, hg⟩
    · rcases List.mem_cons.mp hg with rfl | hg
      · exact .inl List.mem_cons_self
      · rcases ih (h.snoc span) hsorted.of_cons hg with hg | hg
        · exact .inl (List.mem_cons_of_mem _ hg)
        · rw [List.append_assoc, List.singleton_append] at hg
          exact .inr hg

/-- A byte that the walk has yet to reach, and that no span to come holds, lies in a gap that the
walk reads. -/
theorem exists_gap {passed later : List Span} {reached x : Nat} (h : Reached passed reached)
    (hsorted : later.Pairwise fun s t => s.start ≤ t.start) (hreached : reached ≤ x)
    (hx : x < source.length) (hfree : ∀ s ∈ later, ¬ s.Holds x) :
    ∃ a b, IsGap (passed ++ later) a b ∧ a ≤ x ∧ x < b ∧
      ∀ g ∈ gapSpans source a b, g ∈ fillFrom source reached later := by
  induction later generalizing passed reached with
  | nil => exact ⟨reached, source.length, h.isGap (by simp), hreached, hx, fun g hg => hg⟩
  | cons span rest ih =>
    by_cases hbefore : x < span.start
    · exact ⟨reached, span.start, h.isGap_cons hsorted, hreached, hbefore,
        fun g hg => List.mem_append_left _ hg⟩
    · have hbehind : span.stop ≤ x := by
        by_contra hin
        exact hfree span List.mem_cons_self ⟨by omega, by omega⟩
      obtain ⟨a, b, hgap, hax, hxb, hread⟩ := ih (h.snoc span) hsorted.of_cons (by omega)
        (fun s hs => hfree s (List.mem_cons_of_mem _ hs))
      rw [List.append_assoc, List.singleton_append] at hgap
      exact ⟨a, b, hgap, hax, hxb, fun g hg =>
        List.mem_append_right _ (List.mem_cons_of_mem _ (hread g hg))⟩

theorem mem_fillFrom_of_mem {later : List Span} (reached : Nat) {s : Span} (hs : s ∈ later) :
    s ∈ fillFrom source reached later := by
  induction later generalizing reached with
  | nil => simp at hs
  | cons span rest ih =>
    refine List.mem_append_right _ (List.mem_cons.mpr ?_)
    exact (List.mem_cons.mp hs).imp_right (ih _)

/-- Spans that come in order and apart from each other stay so with the gaps filled. -/
theorem pairwise_fillFrom {later : List Span} {reached : Nat}
    (hne : ∀ s ∈ later, s.start < s.stop) (hapart : later.Pairwise fun s t => s.stop ≤ t.start)
    (hreached : ∀ s ∈ later, reached ≤ s.start) :
    (∀ g ∈ fillFrom source reached later, reached ≤ g.start) ∧
      (fillFrom source reached later).Pairwise fun s t => s.stop ≤ t.start := by
  induction later generalizing reached with
  | nil => exact ⟨fun g hg => (bounds_of_mem_gapSpans hg).1, pairwise_gapSpans _ _ _⟩
  | cons span rest ih =>
    obtain ⟨hnext, hrest⟩ := List.pairwise_cons.mp hapart
    have hlt := hne span List.mem_cons_self
    have hfrom := hreached span List.mem_cons_self
    have hmax : max reached span.stop = span.stop := by omega
    obtain ⟨hstart, hpairwise⟩ := ih (fun s hs => hne s (List.mem_cons_of_mem _ hs)) hrest hnext
    rw [fillFrom, hmax]
    constructor
    · intro g hg
      rcases List.mem_append.mp hg with hg | hg
      · exact (bounds_of_mem_gapSpans hg).1
      · rcases List.mem_cons.mp hg with rfl | hg
        · exact hfrom
        · have := hstart g hg
          omega
    · rw [List.pairwise_append, List.pairwise_cons]
      refine ⟨pairwise_gapSpans _ _ _, ⟨hstart, hpairwise⟩, fun g hg t ht => ?_⟩
      have hstop := (bounds_of_mem_gapSpans hg).2.2.1
      rcases List.mem_cons.mp ht with rfl | ht
      · exact hstop
      · have := hstart t ht
        omega

/-- Spans that come in order of their starts stay so with the gaps filled, even if they overlap;
`low` is where the spans that the walk has passed start at most. -/
theorem pairwise_start_fillFrom {later : List Span} {reached low : Nat}
    (hne : ∀ s ∈ later, s.start < s.stop) (hsorted : later.Pairwise fun s t => s.start ≤ t.start)
    (hreached : low ≤ reached) (hlow : ∀ s ∈ later, low ≤ s.start) :
    (∀ g ∈ fillFrom source reached later, low ≤ g.start) ∧
      (fillFrom source reached later).Pairwise fun s t => s.start ≤ t.start := by
  have hgap : ∀ a b, (gapSpans source a b).Pairwise fun s t => s.start ≤ t.start := by
    intro a b
    refine List.Pairwise.imp_of_mem (fun {s t} hs _ hapart => ?_) (pairwise_gapSpans source a b)
    exact Nat.le_trans (Nat.le_of_lt (bounds_of_mem_gapSpans hs).2.1) hapart
  induction later generalizing reached low with
  | nil => exact ⟨fun g hg => Nat.le_trans hreached (bounds_of_mem_gapSpans hg).1, hgap _ _⟩
  | cons span rest ih =>
    obtain ⟨hnext, hrest⟩ := List.pairwise_cons.mp hsorted
    have hlt := hne span List.mem_cons_self
    have hspan := hlow span List.mem_cons_self
    -- Behind the span everything starts where it starts or later.
    have hfrom : span.start ≤ max reached span.stop := by omega
    obtain ⟨hstart, hpairwise⟩ :=
      ih (fun s hs => hne s (List.mem_cons_of_mem _ hs)) hrest hfrom hnext
    rw [fillFrom]
    constructor
    · intro g hg
      rcases List.mem_append.mp hg with hg | hg
      · exact Nat.le_trans hreached (bounds_of_mem_gapSpans hg).1
      · rcases List.mem_cons.mp hg with rfl | hg
        · exact hspan
        · exact Nat.le_trans hspan (hstart g hg)
    · rw [List.pairwise_append, List.pairwise_cons]
      refine ⟨hgap _ _, ⟨hstart, hpairwise⟩, fun g hg t ht => ?_⟩
      obtain ⟨-, hglt, hgstop, -⟩ := bounds_of_mem_gapSpans hg
      rcases List.mem_cons.mp ht with rfl | ht
      · omega
      · have := hstart t ht
        omega

/-! ### All spans of a source -/

/-- The spans are non-empty, lie in the source and are apart from each other. -/
structure SpansFit (source : Bytes) (spans : List Span) : Prop where
  nonempty : ∀ s ∈ spans, s.start < s.stop
  inBounds : ∀ s ∈ spans, s.stop ≤ source.length
  apart : spans.Pairwise fun s t => s.stop ≤ t.start ∨ t.stop ≤ s.start

variable {spans : List Span}

theorem pairwise_start_sorted (spans : List Span) :
    (spans.mergeSort fun a b => a.start ≤ b.start).Pairwise fun s t => s.start ≤ t.start := by
  have hsorted : (spans.mergeSort fun a b => a.start ≤ b.start).Pairwise
      fun s t => decide (s.start ≤ t.start) = true :=
    List.pairwise_mergeSort (by simpa using fun a b c => Nat.le_trans)
      (by simpa using fun a b => Nat.le_total _ _) spans
  simpa using hsorted

theorem mem_fillGaps_of_mem {s : Span} (hs : s ∈ spans) : s ∈ fillGaps source spans :=
  mem_fillFrom_of_mem 0 (List.mem_mergeSort.mpr hs)

theorem IsGap.of_mem_iff {spans' : List Span} {a b : Nat} (h : IsGap spans a b)
    (hmem : ∀ s, s ∈ spans' ↔ s ∈ spans) : IsGap spans' a b :=
  ⟨fun s hs => h.apart s ((hmem s).mp hs),
    h.left.imp_right fun ⟨s, hs, hstop⟩ => ⟨s, (hmem s).mpr hs, hstop⟩⟩

/-- A span of the filled source is given, or is a token of a gap. -/
theorem mem_or_of_mem_fillGaps {g : Span} (hg : g ∈ fillGaps source spans) :
    g ∈ spans ∨ ∃ a b, IsGap spans a b ∧ g ∈ gapSpans source a b := by
  rcases mem_fillFrom Reached.nil (pairwise_start_sorted spans) hg with hg | ⟨a, b, hgap, hg⟩
  · exact .inl (List.mem_mergeSort.mp hg)
  · exact .inr ⟨a, b, hgap.of_mem_iff fun s => List.mem_mergeSort.symm, hg⟩

/-- **Nothing is lost between the spans**: a byte of the source is held by a span of the filled
source, or it is a blank or in a comment outside the spans. -/
theorem exists_holds_or (spans : List Span) {x : Nat} (hx : x < source.length) :
    (∃ s ∈ fillGaps source spans, s.Holds x) ∨ source[x]?.any isBlankByte = true ∨
      InComment source spans x := by
  by_cases hheld : ∃ s ∈ spans, s.Holds x
  · obtain ⟨s, hs, hholds⟩ := hheld
    exact .inl ⟨s, mem_fillGaps_of_mem hs, hholds⟩
  · have hfree : ∀ s ∈ spans.mergeSort fun a b => a.start ≤ b.start, ¬ s.Holds x :=
      fun s hs hholds => hheld ⟨s, List.mem_mergeSort.mp hs, hholds⟩
    obtain ⟨a, b, hgap, hax, hxb, hread⟩ :=
      exists_gap Reached.nil (pairwise_start_sorted spans) (Nat.zero_le x) hx hfree
    have hgap := hgap.of_mem_iff fun s => List.mem_mergeSort.symm
    exact (exists_mem_gapSpans_or hgap hax hxb hx).imp_left
      fun ⟨s, hs, hholds⟩ => ⟨s, hread s hs, hholds⟩

theorem nonempty_of_mem_fillGaps (h : SpansFit source spans) {g : Span}
    (hg : g ∈ fillGaps source spans) : g.start < g.stop := by
  rcases mem_or_of_mem_fillGaps hg with hg | ⟨a, b, -, hg⟩
  · exact h.nonempty g hg
  · exact (bounds_of_mem_gapSpans hg).2.1

/-- The spans of the filled source come in order of their starts. -/
theorem pairwise_start_fillGaps (hne : ∀ s ∈ spans, s.start < s.stop) :
    (fillGaps source spans).Pairwise fun s t => s.start ≤ t.start :=
  (pairwise_start_fillFrom (fun s hs => hne s (List.mem_mergeSort.mp hs))
    (pairwise_start_sorted spans) (Nat.le_refl 0) fun _ _ => Nat.zero_le _).2

/-- The spans of the filled source come in order and apart from each other. -/
theorem pairwise_fillGaps (h : SpansFit source spans) :
    (fillGaps source spans).Pairwise fun s t => s.stop ≤ t.start := by
  have hne : ∀ s ∈ spans.mergeSort fun a b => a.start ≤ b.start, s.start < s.stop :=
    fun s hs => h.nonempty s (List.mem_mergeSort.mp hs)
  have hapart : (spans.mergeSort fun a b => a.start ≤ b.start).Pairwise
      fun s t => s.stop ≤ t.start ∨ t.stop ≤ s.start :=
    (List.mergeSort_perm _ _).symm.pairwise h.apart Or.symm
  refine (pairwise_fillFrom hne ?_ fun s _ => Nat.zero_le _).2
  -- Of two spans that are apart, the one that starts first ends first.
  refine List.Pairwise.imp_of_mem ?_ (hapart.and (pairwise_start_sorted spans))
  intro s t hs ht hst
  have := hne t ht
  omega

end SqlInventory.Perl
