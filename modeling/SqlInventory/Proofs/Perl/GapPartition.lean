import SqlInventory.Proofs.Perl.GapFilling

/-!
# Filling the gaps divides the source

`fillGaps` is given spans in any order, which may overlap, lie one in the other or reach beyond the
source, as long as each has some extent. What it gives back divides the source (`FillsGaps`): the
spans themselves, sorted and none of them lost, and between them tokens that keep clear of the spans
and of each other. A byte is left over only if it is a blank or in a comment, and tokens take no
such byte.

* The spans: `filter_mem_fillFrom` finds them again in the result, in the order of the sorting, and
  `filter_start_sorted` says that sorting leaves spans with one start in their order.
* The tokens: none of them is a span (`notMem_of_mem_gapSpans`), and each ends before the next one
  starts (`pairwise_inserted_fillFrom`), since the walk never goes back.
* The bytes: `exists_holds_or` leaves blanks and comments over, and a comment outside the spans is
  outside the tokens as well (`inComment_fillGaps`).
-/

namespace SqlInventory.Perl

variable {source : Bytes} {spans : List Span}

/-- What filling the gaps promises: `filled` consists of the spans and of tokens between them. -/
structure FillsGaps (source : Bytes) (spans filled : List Span) : Prop where
  /-- The result is in order of starts. -/
  sorted : filled.Pairwise fun s t => s.start ≤ t.start
  /-- Each span is there as often as it was given. -/
  given_perm : (filled.filter (· ∈ spans)).Perm spans
  /-- Spans with the same start stay in their order. -/
  given_stable : ∀ x, filled.filter (fun s => s ∈ spans ∧ s.start = x) =
    spans.filter fun s => s.start = x
  /-- A token takes some bytes of the source. -/
  inserted_bounds : ∀ g ∈ filled, g ∉ spans → g.start < g.stop ∧ g.stop ≤ source.length
  /-- A token shares no byte with a span. -/
  inserted_free : ∀ g ∈ filled, g ∉ spans → ∀ s ∈ spans, ∀ x, g.Holds x → ¬ s.Holds x
  /-- A token ends before the next one starts. -/
  inserted_apart : (filled.filter (· ∉ spans)).Pairwise fun g h => g.stop ≤ h.start
  /-- A byte that is left over is a blank, or in a comment that is left over. -/
  uncovered : ∀ x < source.length, (∀ s ∈ filled, ¬ s.Holds x) →
    source[x]?.any isBlankByte = true ∨ InComment source filled x
  /-- A token takes no blank and nothing of a comment. -/
  inserted_exact : ∀ g ∈ filled, g ∉ spans → ∀ x, g.Holds x →
    source[x]?.any isBlankByte = false ∧ ¬ InComment source spans x

/-! ### The spans in the result -/

/-- A token of a gap is none of the spans, as these keep out of the gap. -/
theorem notMem_of_mem_gapSpans {a b : Nat} {g : Span} (hgap : IsGap spans a b)
    (hg : g ∈ gapSpans source a b) : g ∉ spans := by
  intro hmem
  obtain ⟨hstart, hlt, hstop, -⟩ := bounds_of_mem_gapSpans hg
  rcases hgap.apart g hmem with h | h
  · omega
  · omega

theorem filter_mem_gapSpans {a b : Nat} (hgap : IsGap spans a b) :
    (gapSpans source a b).filter (· ∈ spans) = [] := by
  rw [List.filter_eq_nil_iff]
  intro g hg
  simpa using notMem_of_mem_gapSpans hgap hg

/-- **The walk keeps the spans**: without the tokens, its result is what it was given. -/
theorem filter_mem_fillFrom {passed later : List Span} {reached : Nat} (h : Reached passed reached)
    (hsorted : later.Pairwise fun s t => s.start ≤ t.start) :
    (fillFrom source reached later).filter (· ∈ passed ++ later) = later := by
  induction later generalizing passed reached with
  | nil =>
    rw [fillFrom]
    exact filter_mem_gapSpans (h.isGap (by simp))
  | cons span rest ih =>
    -- Behind `span` the walk goes on with `span` among the spans that it has passed.
    have hrest := ih (h.snoc span) hsorted.of_cons
    rw [List.append_assoc, List.singleton_append] at hrest
    rw [fillFrom, List.filter_append, filter_mem_gapSpans (h.isGap_cons hsorted), List.nil_append,
      List.filter_cons_of_pos (by simp), hrest]

theorem filter_mem_fillGaps (spans : List Span) :
    (fillGaps source spans).filter (· ∈ spans) = spans.mergeSort fun a b => a.start ≤ b.start := by
  have hkept : (fillGaps source spans).filter
      (· ∈ [] ++ spans.mergeSort fun a b => a.start ≤ b.start) = _ :=
    filter_mem_fillFrom Reached.nil (pairwise_start_sorted spans)
  simpa only [List.nil_append, List.mem_mergeSort] using hkept

/-- Sorting leaves spans with one start in their order. -/
theorem filter_start_sorted (spans : List Span) (x : Nat) :
    (spans.mergeSort fun a b => a.start ≤ b.start).filter (fun s => s.start = x) =
      spans.filter fun s => s.start = x := by
  have hequal : (spans.filter fun s => s.start = x).Pairwise
      fun a b => decide (a.start ≤ b.start) = true := by
    refine List.pairwise_of_forall_mem_list fun a ha b hb => ?_
    have ha := of_decide_eq_true (List.mem_filter.mp ha).2
    have hb := of_decide_eq_true (List.mem_filter.mp hb).2
    exact decide_eq_true (Nat.le_of_eq (ha.trans hb.symm))
  have hsublist : (spans.filter fun s => s.start = x).Sublist
      (spans.mergeSort fun a b => a.start ≤ b.start) :=
    List.sublist_mergeSort (by simpa using fun a b c => Nat.le_trans)
      (by simpa using fun a b => Nat.le_total _ _) hequal List.filter_sublist
  -- They stand in their order among the sorted spans, and there are no others with that start.
  have hfilter := hsublist.filter fun s => decide (s.start = x)
  simp only [List.filter_filter, Bool.and_self] at hfilter
  refine (hfilter.eq_of_length ?_).symm
  exact ((List.mergeSort_perm spans _).filter _).length_eq.symm

/-! ### The tokens in the result -/

/-- **The walk never goes back**: its tokens come one behind the other, from where it is now. -/
theorem pairwise_inserted_fillFrom {all later : List Span} (reached : Nat)
    (hall : ∀ s ∈ later, s ∈ all) (hne : ∀ s ∈ later, s.start < s.stop) :
    (∀ g ∈ (fillFrom source reached later).filter (· ∉ all), reached ≤ g.start) ∧
      ((fillFrom source reached later).filter (· ∉ all)).Pairwise fun g h => g.stop ≤ h.start := by
  induction later generalizing reached with
  | nil =>
    rw [fillFrom]
    exact ⟨fun g hg => (bounds_of_mem_gapSpans (List.mem_of_mem_filter hg)).1,
      (pairwise_gapSpans _ _ _).filter _⟩
  | cons span rest ih =>
    obtain ⟨hspan, hrest⟩ := List.forall_mem_cons.mp hall
    obtain ⟨hlt, hnerest⟩ := List.forall_mem_cons.mp hne
    obtain ⟨hfrom, hpairwise⟩ := ih (max reached span.stop) hrest hnerest
    rw [fillFrom, List.filter_append, List.filter_cons_of_neg (by simpa using hspan)]
    constructor
    · intro g hg
      rcases List.mem_append.mp hg with hg | hg
      · exact (bounds_of_mem_gapSpans (List.mem_of_mem_filter hg)).1
      · exact Nat.le_trans (Nat.le_max_left _ _) (hfrom g hg)
    · refine List.pairwise_append.mpr ⟨(pairwise_gapSpans _ _ _).filter _, hpairwise, ?_⟩
      intro g hg t ht
      calc g.stop ≤ span.start := (bounds_of_mem_gapSpans (List.mem_of_mem_filter hg)).2.2.1
        _ ≤ span.stop := Nat.le_of_lt hlt
        _ ≤ max reached span.stop := Nat.le_max_right _ _
        _ ≤ t.start := hfrom t ht

/-- What is in the result and is no span is a token of a gap. -/
theorem exists_gap_of_notMem {g : Span} (hg : g ∈ fillGaps source spans) (hinserted : g ∉ spans) :
    ∃ a b, IsGap spans a b ∧ g ∈ gapSpans source a b :=
  (mem_or_of_mem_fillGaps hg).resolve_left hinserted

theorem any_isTokenByte_of_mem_gapSpans {a b x : Nat} {g : Span} (hg : g ∈ gapSpans source a b)
    (hx : g.Holds x) : source[x]?.any isTokenByte = true := by
  obtain ⟨m, hm, hvalue, rfl⟩ := mem_gapSpans_iff.mp hg
  obtain ⟨-, -, -, hsort⟩ := lexeme_of_mem hm
  rw [hvalue] at hsort
  cases hsort with
  | token hall => exact hall x hx.1 hx.2

/-! ### The bytes left over -/

/-- A comment outside the spans is outside the tokens too: it is a comment for all of the result. -/
theorem inComment_fillGaps (hne : ∀ s ∈ spans, s.start < s.stop) {x : Nat}
    (h : InComment source spans x) : InComment source (fillGaps source spans) x := by
  obtain ⟨c, hcx, hhash, hline⟩ := h
  refine ⟨c, hcx, hhash, fun i hci hix => ⟨(hline i hci hix).1, fun s hs hholds => ?_⟩⟩
  rcases mem_or_of_mem_fillGaps hs with hs | ⟨a, b, hgap, hs⟩
  · exact (hline i hci hix).2 s hs hholds
  · -- The comment that starts at `c` has come as far as `i`.
    exact not_inComment_of_mem_gapSpans hgap hne hs hholds
      ⟨c, hci, hhash, fun j hcj hji => hline j hcj (Nat.le_trans hji hix)⟩

/-- **Filling the gaps divides the source**, whatever the spans are, if each has some extent. -/
theorem fillGaps_divides (source : Bytes) (spans : List Span)
    (hne : ∀ s ∈ spans, s.start < s.stop) :
    FillsGaps source spans (fillGaps source spans) where
  sorted := pairwise_start_fillGaps hne
  given_perm := by
    rw [filter_mem_fillGaps]
    exact List.mergeSort_perm spans _
  given_stable := by
    intro x
    calc (fillGaps source spans).filter (fun s => s ∈ spans ∧ s.start = x)
        = ((fillGaps source spans).filter (· ∈ spans)).filter fun s => s.start = x := by
          rw [List.filter_filter]
          refine List.filter_congr fun s _ => ?_
          rw [Bool.decide_and, Bool.and_comm]
      _ = spans.filter fun s => s.start = x := by
          rw [filter_mem_fillGaps, filter_start_sorted]
  inserted_bounds := by
    intro g hg hinserted
    obtain ⟨a, b, -, hg⟩ := exists_gap_of_notMem hg hinserted
    obtain ⟨-, hlt, -, hlength⟩ := bounds_of_mem_gapSpans hg
    exact ⟨hlt, hlength⟩
  inserted_free := by
    rintro g hg hinserted s hs x ⟨hgx, hxg⟩ ⟨hsx, hxs⟩
    obtain ⟨a, b, hgap, hg⟩ := exists_gap_of_notMem hg hinserted
    obtain ⟨hstart, -, hstop, -⟩ := bounds_of_mem_gapSpans hg
    have := hgap.apart s hs
    omega
  inserted_apart := by
    refine (pairwise_inserted_fillFrom 0 (fun s hs => List.mem_mergeSort.mp hs) ?_).2
    exact fun s hs => hne s (List.mem_mergeSort.mp hs)
  uncovered := by
    intro x hx hfree
    rcases exists_holds_or spans hx with ⟨s, hs, hholds⟩ | hblank | hcomment
    · exact absurd hholds (hfree s hs)
    · exact .inl hblank
    · exact .inr (inComment_fillGaps hne hcomment)
  inserted_exact := by
    intro g hg hinserted x hx
    obtain ⟨a, b, hgap, hg⟩ := exists_gap_of_notMem hg hinserted
    refine ⟨?_, not_inComment_of_mem_gapSpans hgap hne hg hx⟩
    have htoken := any_isTokenByte_of_mem_gapSpans hg hx
    cases hbyte : source[x]? with
    | none => rfl
    | some b =>
      rw [hbyte, Option.any_some, isTokenByte, Bool.and_eq_true, Bool.not_eq_true'] at htoken
      exact htoken.1

/-- Two statements on a line, and a comment behind them. -/
def commentedLine : Bytes :=
  "f;$x==1; # a;\nb".toList.map byteOf

/-- Spans of `commentedLine` that are out of order: one lies in another, and two have the same
start. -/
def tangledSpans : List Span :=
  [{ start := 2, stop := 7, kind := some .operator }, { start := 0, stop := 1, kind := none },
    { start := 4, stop := 6, kind := some .operator }, { start := 2, stop := 4, kind := some .var }]

/-- The tokens put between `tangledSpans` are the two semicolons and the word on the second line. -/
theorem tangledSpans_divide :
    fillGaps commentedLine tangledSpans =
        [{ start := 0, stop := 1, kind := none }, { start := 1, stop := 2, kind := some .operator },
          { start := 2, stop := 7, kind := some .operator },
          { start := 2, stop := 4, kind := some .var },
          { start := 4, stop := 6, kind := some .operator },
          { start := 7, stop := 8, kind := some .operator },
          { start := 14, stop := 15, kind := some .operator }] ∧
      (∀ s ∈ tangledSpans, s.start < s.stop) ∧
      FillsGaps commentedLine tangledSpans (fillGaps commentedLine tangledSpans) := by
  have hsorted : (tangledSpans.mergeSort fun a b => a.start ≤ b.start) =
      [{ start := 0, stop := 1, kind := none }, { start := 2, stop := 7, kind := some .operator },
        { start := 2, stop := 4, kind := some .var },
        { start := 4, stop := 6, kind := some .operator }] := by
    simp [tangledSpans, List.mergeSort]
  have hne : ∀ s ∈ tangledSpans, s.start < s.stop := by decide
  refine ⟨?_, hne, fillGaps_divides commentedLine tangledSpans hne⟩
  rw [fillGaps, hsorted]
  decide +kernel

end SqlInventory.Perl
