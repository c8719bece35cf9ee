import SqlInventory.Perl.Source
import SqlInventory.Proofs.Perl.HeredocWalk

/-!
# Which bytes of a source its tokens cover

A source is covered exactly if every byte that ought to be in a token is in one token and no more,
and no token starts in the body of a here-document (`ExactlyCovered`). The bytes that ought to be in
a token are those that are no blank, and lie neither in a span that the grammar marks as no token,
nor in a comment, nor in the body of a here-document whose opener is a token (`Owed`).

Exact coverage fails for some sources. The walk drops a span whole if its start is in a range to be
skipped, even where the span goes on behind the range, and it drops spans on behalf of openers that
are themselves dropped. `SkipsTaken` is what is needed: the spans dropped are those in bodies, and
those whose bytes an opener has taken in. `parse_covers_exactly_iff` shows that coverage is exact if
and only if this holds, and `SkipsTaken.of_tidy` gives a condition on the ranges alone under which it
does: they do not overlap, hold no opener, and no span sticks out of one.
-/

namespace SqlInventory.Perl

variable {source : Bytes} {spans : List Span}

/-! ### Exact coverage -/

/-- The walk over the spans of a source, with the gaps filled. -/
def walkOf (source : Bytes) (tree : Tree) : List Visit :=
  visits source {} (fillGaps source tree.root.spans)

/-- The spans of a source that become tokens. -/
def tokenSpans (source : Bytes) (tree : Tree) : List Span :=
  (sourceSpans source tree).filter (·.kind.isSome)

/-- The byte at an offset ought to be in a token. -/
structure Owed (source : Bytes) (spans : List Span) (walk : List Visit) (x : Nat) : Prop where
  notBlank : source[x]?.any (!isBlankByte ·) = true
  notMarked : ∀ s ∈ spans, s.kind = none → ¬ s.Holds x
  notComment : ¬ InComment source spans x
  notBody : ¬ InBody walk x

/-- Every byte that ought to be in a token is in exactly one, and no token starts in a body. -/
structure ExactlyCovered (source : Bytes) (tree : Tree) : Prop where
  once : ∀ x, Owed source tree.root.spans (walkOf source tree) x →
    (tokenSpans source tree).countP (fun s => decide (s.Holds x)) = 1
  outside : ∀ s ∈ tokenSpans source tree, ¬ InBody (walkOf source tree) s.start

/-- What is dropped is what lies in a body or is taken in by an opener. -/
structure SkipsTaken (source : Bytes) (spans : List Span) (walk : List Visit) : Prop where
  body : ∀ v ∈ walk, v.given.kind.isSome = true → InBody walk v.given.start → LeftOut walk v
  taken : ∀ v ∈ walk, v.given.kind.isSome = true → ∀ x, v.given.Holds x →
    Owed source spans walk x → (LeftOut walk v ↔ TakenIn walk x)

/-! ### Tokens and visits -/

/-- In a list without repetition, exactly one member satisfies a test if and only if one does and
every other that does is the same. -/
theorem countP_eq_one_iff {α : Type} {p : α → Bool} {l : List α} (h : l.Nodup) :
    l.countP p = 1 ↔ ∃ a ∈ l, p a = true ∧ ∀ b ∈ l, p b = true → b = a := by
  rw [List.countP_eq_length_filter, List.length_eq_one_iff]
  constructor
  · rintro ⟨a, ha⟩
    have hmem : ∀ b, b ∈ l ∧ p b = true ↔ b = a := fun b => by
      rw [← List.mem_filter, ha, List.mem_singleton]
    obtain ⟨hal, hpa⟩ := (hmem a).mpr rfl
    exact ⟨a, hal, hpa, fun b hb hpb => (hmem b).mp ⟨hb, hpb⟩⟩
  · rintro ⟨a, hal, hpa, hall⟩
    refine ⟨a, List.perm_singleton.mp ((List.perm_ext_iff_of_nodup (h.filter p)
      (List.pairwise_singleton _ a)).mpr fun b => ?_)⟩
    rw [List.mem_filter, List.mem_singleton]
    exact ⟨fun hb => hall b hb.1 hb.2, fun hb => hb ▸ ⟨hal, hpa⟩⟩

/-- The tokens are the visits in the arena. -/
theorem tokenSpans_eq (source : Bytes) (tree : Tree) :
    tokenSpans source tree =
      ((walkOf source tree).filter fun v => decide (InArena (walkOf source tree) v)).map
        Visit.kept := by
  rw [tokenSpans, sourceSpans, attachHeredocs_eq, List.filter_map, List.filter_filter]
  congr 1
  refine List.filter_congr fun v _ => ?_
  rw [Bool.eq_iff_iff, decide_eq_true_iff, Bool.and_eq_true, Bool.not_eq_true',
    decide_eq_false_iff_not]
  exact Iff.rfl

theorem walkOf_of_sorted {tree : Tree}
    (h : tree.root.spans.Pairwise fun s t => s.start ≤ t.start) :
    walkOf source tree = visits source {} (fillFrom source 0 tree.root.spans) := by
  rw [walkOf, fillGaps, List.mergeSort_of_pairwise (by simpa using h)]

theorem given_mem_of_mem_visits {found : Attachment} {v : Visit}
    (hv : v ∈ visits source found spans) : v.given ∈ spans := by
  rw [← map_given_visits source found spans]
  exact List.mem_map_of_mem hv

section Walk

variable {tree : Tree} (hfit : SpansFit source tree.root.spans)
include hfit

/-- The spans given to the walk come in order and apart from each other. -/
theorem pairwise_walkOf :
    (walkOf source tree).Pairwise fun v w => v.given.stop ≤ w.given.start := by
  have hgiven : ((walkOf source tree).map Visit.given).Pairwise fun s t => s.stop ≤ t.start := by
    rw [walkOf, map_given_visits]
    exact pairwise_fillGaps hfit
  exact List.pairwise_map.mp hgiven

theorem nonempty_of_mem_walkOf {v : Visit} (hv : v ∈ walkOf source tree) :
    v.given.start < v.given.stop :=
  nonempty_of_mem_fillGaps hfit (given_mem_of_mem_visits hv)

/-- Two visits whose spans share a byte are the same. -/
theorem visit_unique {v w : Visit} {x : Nat} (hv : v ∈ walkOf source tree)
    (hw : w ∈ walkOf source tree) (hvx : v.given.Holds x) (hwx : w.given.Holds x) : v = w := by
  obtain ⟨hv1, hv2⟩ := hvx
  obtain ⟨hw1, hw2⟩ := hwx
  rcases eq_or_of_pairwise (pairwise_walkOf hfit) hv hw with heq | h | h
  · exact heq
  · omega
  · omega

theorem nodup_walkOf : (walkOf source tree).Nodup := by
  refine List.Pairwise.imp_of_mem ?_ (pairwise_walkOf hfit)
  rintro v w hv - h rfl
  have := nonempty_of_mem_walkOf hfit hv
  omega

/-- How many tokens hold an offset is said by the visits. -/
theorem countP_tokenSpans_eq_one_iff (x : Nat) :
    (tokenSpans source tree).countP (fun s => decide (s.Holds x)) = 1 ↔
      ∃ v ∈ walkOf source tree, (InArena (walkOf source tree) v ∧ v.kept.Holds x) ∧
        ∀ w ∈ walkOf source tree, InArena (walkOf source tree) w → w.kept.Holds x → w = v := by
  rw [tokenSpans_eq, List.countP_map, List.countP_filter, countP_eq_one_iff (nodup_walkOf hfit)]
  simp only [Function.comp_apply, Bool.and_eq_true, decide_eq_true_eq, and_imp]
  refine exists_congr fun v => and_congr_right fun _ => and_congr And.comm ?_
  exact forall_congr' fun w => forall_congr' fun _ => imp.swap

/-! ### What holds a byte -/

omit hfit in
/-- A token holds a byte of its own span, or one that it has taken in. -/
theorem kept_holds_iff {v : Visit} (hv : v ∈ walkOf source tree) (x : Nat) :
    v.kept.Holds x ↔ v.given.Holds x ∨
      (v.given.start ≤ x ∧ v.given.stop ≤ x ∧ x < v.kept.stop) := by
  have hsound := sound_of_mem_visits hv
  have hstop := hsound.stop_le
  unfold Span.Holds
  rw [hsound.start_eq]
  omega

omit hfit in
/-- A byte that ought to be in a token is in a span that may become one. -/
theorem Owed.exists_visit {x : Nat}
    (h : Owed source tree.root.spans (walkOf source tree) x) :
    ∃ v ∈ walkOf source tree, v.given.Holds x ∧ v.given.kind.isSome = true := by
  have hx : x < source.length := by
    by_contra hlong
    have := h.notBlank
    rw [List.getElem?_eq_none (by omega)] at this
    exact absurd this (by decide)
  have hheld : ∃ s ∈ fillGaps source tree.root.spans, s.Holds x := by
    rcases exists_holds_or tree.root.spans hx with hheld | hblank | hcomment
    · exact hheld
    · have := h.notBlank
      rw [List.getElem?_eq_getElem hx] at this hblank
      simp_all
    · exact absurd hcomment h.notComment
  obtain ⟨s, hs, hsx⟩ := hheld
  have hkind : s.kind.isSome = true := by
    rcases mem_or_of_mem_fillGaps hs with hgiven | ⟨a, b, -, hgap⟩
    · by_contra hnone
      exact h.notMarked s hgiven (Option.not_isSome_iff_eq_none.mp hnone) hsx
    · obtain ⟨m, -, -, rfl⟩ := mem_gapSpans_iff.mp hgap
      rfl
  rw [← map_given_visits source {} (fillGaps source tree.root.spans)] at hs
  obtain ⟨v, hv, rfl⟩ := List.mem_map.mp hs
  exact ⟨v, hv, hsx, hkind⟩

/-- An opener that takes something in ought itself to be in a token, unless it is in a body. -/
theorem owed_start_of_opener {v : Visit} (hv : v ∈ walkOf source tree) (hranges : v.ranges ≠ [])
    (hbody : ¬ InBody (walkOf source tree) v.given.start) :
    Owed source tree.root.spans (walkOf source tree) v.given.start := by
  obtain ⟨hkind, hbyte⟩ := (sound_of_mem_visits hv).opener hranges
  have hgiven := given_mem_of_mem_visits hv
  have hstart : v.given.Holds v.given.start :=
    ⟨Nat.le_refl _, nonempty_of_mem_walkOf hfit hv⟩
  refine ⟨?_, fun s hs hnone hsx => ?_, fun hcomment => ?_, hbody⟩
  · rw [hbyte]
    decide
  · have hs : s ∈ fillGaps source tree.root.spans := mem_fillGaps_of_mem hs
    rcases eq_or_of_pairwise (pairwise_fillGaps hfit) hs hgiven with heq | h | h
    · rw [heq] at hnone
      simp [hnone] at hkind
    · have := hsx.2
      omega
    · have := hsx.1
      have := hstart.2
      omega
  · rcases mem_or_of_mem_fillGaps hgiven with hgiven | ⟨a, b, hgap, hmem⟩
    · obtain ⟨c, hc, -, hfree⟩ := hcomment
      exact (hfree _ hc (Nat.le_refl _)).2 _ hgiven hstart
    · exact not_inComment_of_mem_gapSpans hgap hfit.nonempty hmem hstart hcomment

/-- If only what is taken in is dropped, no two openers take in the same byte. -/
theorem SkipsTaken.taker_unique
    (h : SkipsTaken source tree.root.spans (walkOf source tree)) {v w : Visit} {x : Nat}
    (hv : v ∈ walkOf source tree) (hw : w ∈ walkOf source tree)
    (hva : InArena (walkOf source tree) v) (hwa : InArena (walkOf source tree) w)
    (hvx : v.given.stop ≤ x ∧ x < v.kept.stop) (hwx : w.given.stop ≤ x ∧ x < w.kept.stop) :
    v = w := by
  -- Otherwise the second opener starts in what the first takes in, and should have been dropped.
  have hcontra : ∀ v w : Visit, v ∈ walkOf source tree → w ∈ walkOf source tree →
      InArena (walkOf source tree) v → InArena (walkOf source tree) w →
      x < v.kept.stop → w.given.stop ≤ x → x < w.kept.stop → ¬ v.given.stop ≤ w.given.start := by
    intro v w hv hw hva hwa hvx hwx hwx' hbefore
    have hne := nonempty_of_mem_walkOf hfit hw
    have hranges : w.ranges ≠ [] := by
      have hlt : w.given.stop < w.kept.stop := by omega
      simp [Visit.ranges, hlt]
    have hkind := ((sound_of_mem_visits hw).opener hranges).1
    have hbody : ¬ InBody (walkOf source tree) w.given.start :=
      fun hbody => hwa.2 (h.body w hw hkind hbody)
    have howed := owed_start_of_opener hfit hw hranges hbody
    have htaken : TakenIn (walkOf source tree) w.given.start := ⟨v, hv, hva, hbefore, by omega⟩
    exact hwa.2 ((h.taken w hw hkind _ ⟨Nat.le_refl _, hne⟩ howed).mpr htaken)
  rcases eq_or_of_pairwise (pairwise_walkOf hfit) hv hw with heq | hbefore | hbefore
  · exact heq
  · exact absurd hbefore (hcontra v w hv hw hva hwa hvx.2 hwx.1 hwx.2)
  · exact absurd hbefore (hcontra w v hw hv hwa hva hwx.2 hvx.1 hvx.2)

/-! ### When coverage is exact -/

theorem SkipsTaken.exactlyCovered (h : SkipsTaken source tree.root.spans (walkOf source tree)) :
    ExactlyCovered source tree := by
  constructor
  · intro x howed
    obtain ⟨v, hv, hvx, hkind⟩ := howed.exists_visit
    have htaken := h.taken v hv hkind x hvx howed
    rw [countP_tokenSpans_eq_one_iff hfit]
    by_cases hleft : LeftOut (walkOf source tree) v
    · -- The byte's own span is dropped, so one opener has taken it in.
      obtain ⟨w, hw, hwa, hwx⟩ := htaken.mp hleft
      have hstart := nonempty_of_mem_walkOf hfit hw
      refine ⟨w, hw, ⟨hwa, (kept_holds_iff hw x).mpr (.inr ⟨by omega, hwx⟩)⟩,
        fun u hu hua hux => ?_⟩
      rcases (kept_holds_iff hu x).mp hux with hux | ⟨-, hux⟩
      · rw [visit_unique hfit hu hv hux hvx] at hua
        exact absurd hleft hua.2
      · exact h.taker_unique hfit hu hw hua hwa hux hwx
    · -- The byte's own span is a token, and nothing else has taken it in.
      have hva : InArena (walkOf source tree) v :=
        ⟨(sound_of_mem_visits hv).kind_isSome ▸ hkind, hleft⟩
      refine ⟨v, hv, ⟨hva, (kept_holds_iff hv x).mpr (.inl hvx)⟩, fun w hw hwa hwx => ?_⟩
      rcases (kept_holds_iff hw x).mp hwx with hwx | ⟨-, hwx⟩
      · exact visit_unique hfit hw hv hwx hvx
      · exact absurd (htaken.mpr ⟨w, hw, hwa, hwx⟩) hleft
  · intro s hs hbody
    rw [tokenSpans_eq] at hs
    obtain ⟨v, hv, rfl⟩ := List.mem_map.mp hs
    obtain ⟨hv, hva⟩ := List.mem_filter.mp hv
    have hva := of_decide_eq_true hva
    have hsound := sound_of_mem_visits hv
    rw [hsound.start_eq] at hbody
    exact hva.2 (h.body v hv (hsound.kind_isSome ▸ hva.1) hbody)

theorem ExactlyCovered.skipsTaken (h : ExactlyCovered source tree) :
    SkipsTaken source tree.root.spans (walkOf source tree) := by
  constructor
  · intro v hv hkind hbody
    by_contra hleft
    have hsound := sound_of_mem_visits hv
    have hmem : v.kept ∈ tokenSpans source tree := by
      rw [tokenSpans_eq]
      refine List.mem_map_of_mem (List.mem_filter.mpr ⟨hv, decide_eq_true ⟨?_, hleft⟩⟩)
      rw [hsound.kind_isSome, hkind]
    rw [← hsound.start_eq] at hbody
    exact h.outside _ hmem hbody
  · intro v hv hkind x hvx howed
    obtain ⟨u, hu, ⟨hua, hux⟩, hunique⟩ := (countP_tokenSpans_eq_one_iff hfit x).mp (h.once x howed)
    constructor
    · -- The one token is not the byte's own span, so it has taken the byte in.
      intro hleft
      refine ⟨u, hu, hua, ?_⟩
      rcases (kept_holds_iff hu x).mp hux with hux | ⟨-, hux⟩
      · rw [visit_unique hfit hu hv hux hvx] at hua
        exact absurd hleft hua.2
      · exact hux
    · -- If the byte's own span were a token too, there would be two.
      rintro ⟨w, hw, hwa, hwx⟩
      by_contra hleft
      have hva : InArena (walkOf source tree) v :=
        ⟨(sound_of_mem_visits hv).kind_isSome ▸ hkind, hleft⟩
      have hvu := hunique v hv hva ((kept_holds_iff hv x).mpr (.inl hvx))
      have hstart := nonempty_of_mem_walkOf hfit hw
      have hwu := hunique w hw hwa ((kept_holds_iff hw x).mpr (.inr ⟨by omega, hwx⟩))
      have := hvx.2
      rw [hvu, ← hwu] at this
      omega

end Walk

/-! ### Ranges that do not meet -/

/-- In ranges of which each ends before the next starts, the last one that starts at or before an
offset holds it if any does. -/
theorem inLastRange_iff {ranges : List (Nat × Nat)} (h : ranges.Pairwise fun r t => r.2 ≤ t.1)
    (x : Nat) : inLastRange ranges x = true ↔ ∃ r ∈ ranges, r.1 ≤ x ∧ x < r.2 := by
  unfold inLastRange
  constructor
  · intro hin
    split at hin
    · next r hr =>
      obtain ⟨hmem, hstart⟩ := List.mem_filter.mp (List.mem_of_getLast? hr)
      exact ⟨r, hmem, of_decide_eq_true hstart, of_decide_eq_true hin⟩
    · exact absurd hin (by decide)
  · rintro ⟨r, hr, hstart, hstop⟩
    have hpairwise := h.filter fun r => decide (r.1 ≤ x)
    have hmem : r ∈ ranges.filter fun r => decide (r.1 ≤ x) :=
      List.mem_filter.mpr ⟨hr, decide_eq_true hstart⟩
    obtain ⟨others, last, hlast⟩ :=
      (List.eq_nil_or_concat _).resolve_left (List.ne_nil_of_mem hmem)
    have hlaststart : last.1 ≤ x := by
      have hlastmem : last ∈ ranges.filter fun r => decide (r.1 ≤ x) := by simp [hlast]
      exact of_decide_eq_true (List.mem_filter.mp hlastmem).2
    rw [hlast] at hmem hpairwise ⊢
    rw [List.concat_eq_append, List.pairwise_append] at hpairwise
    rw [List.concat_eq_append] at hmem ⊢
    rw [List.getLast?_append]
    rcases List.mem_append.mp hmem with hmem | hmem
    · -- An earlier range ends before the last one starts, so it does not reach the offset.
      have := hpairwise.2.2 r hmem last (List.mem_singleton.mpr rfl)
      omega
    · rw [List.mem_singleton.mp hmem] at hstop
      simpa using hstop

/-- The ranges to be skipped do not overlap, no opener stands in one, and no token sticks out of
one. -/
structure Tidy (walk : List Visit) : Prop where
  apart : (skipRanges walk).Pairwise fun r t => r.2 ≤ t.1
  openers : ∀ v ∈ walk, v.ranges ≠ [] →
    ∀ r ∈ skipRanges walk, r.1 ≤ v.given.start → r.2 ≤ v.given.start
  inside : ∀ v ∈ walk, v.given.kind.isSome = true →
    ∀ r ∈ skipRanges walk, r.1 ≤ v.given.start → v.given.start < r.2 → v.given.stop ≤ r.2

theorem Tidy.leftOut_iff {walk : List Visit} (h : Tidy walk) (v : Visit) :
    LeftOut walk v ↔ ∃ r ∈ skipRanges walk, r.1 ≤ v.given.start ∧ v.given.start < r.2 :=
  inLastRange_iff h.apart _

/-- An opener with something to skip is a token. -/
theorem Tidy.inArena {tree : Tree} (h : Tidy (walkOf source tree)) {v : Visit}
    (hv : v ∈ walkOf source tree) (hranges : v.ranges ≠ []) : InArena (walkOf source tree) v := by
  have hsound := sound_of_mem_visits hv
  refine ⟨hsound.kind_isSome ▸ (hsound.opener hranges).1, fun hleft => ?_⟩
  obtain ⟨r, hr, hstart, hstop⟩ := (h.leftOut_iff v).mp hleft
  have := h.openers v hv hranges r hr hstart
  omega

theorem SkipsTaken.of_tidy {tree : Tree} (hfit : SpansFit source tree.root.spans)
    (h : Tidy (walkOf source tree)) : SkipsTaken source tree.root.spans (walkOf source tree) := by
  constructor
  · rintro v - - ⟨w, hw, -, b, hb, hstart, hstop⟩
    exact (h.leftOut_iff v).mpr ⟨_, mem_skipRanges_of_body hw hb, hstart, hstop⟩
  · intro v hv hkind x hvx howed
    rw [h.leftOut_iff]
    constructor
    · rintro ⟨r, hr, hstart, hstop⟩
      have hinside := h.inside v hv hkind r hr hstart hstop
      obtain ⟨w, hw, hwr⟩ := mem_skipRanges.mp hr
      have hwa := h.inArena hw (List.ne_nil_of_mem hwr)
      obtain ⟨hvx1, hvx2⟩ := hvx
      rcases List.mem_append.mp hwr with htaken | hbody
      · split_ifs at htaken
        · obtain rfl := List.mem_singleton.mp htaken
          exact ⟨w, hw, hwa, Nat.le_trans hstart hvx1, Nat.lt_of_lt_of_le hvx2 hinside⟩
        · simp at htaken
      · -- A byte in a body is not owed a token.
        obtain ⟨b, hb, rfl⟩ := List.mem_map.mp hbody
        exact absurd ⟨w, hw, hwa, b, Option.mem_toList.mp hb, Nat.le_trans hstart hvx1,
          Nat.lt_of_lt_of_le hvx2 hinside⟩ howed.notBody
    · rintro ⟨w, hw, -, hwx⟩
      refine ⟨_, mem_skipRanges_of_lt hw (by omega), ?_⟩
      obtain ⟨hvx1, hvx2⟩ := hvx
      have hne := nonempty_of_mem_walkOf hfit hw
      rcases eq_or_of_pairwise (pairwise_walkOf hfit) hv hw with rfl | h | h
      · omega
      · omega
      · exact ⟨h, by omega⟩

/-! ### The arena of a source -/

theorem isSome_token? (source : Bytes) (s : Span) : (s.token? source).isSome = s.kind.isSome :=
  Option.isSome_map

/-- There is one token for each token span. -/
theorem map_some_arenaOf (source : Bytes) (tree : Tree) :
    (arenaOf source tree).map some = (tokenSpans source tree).map (Span.token? source) := by
  rw [arenaOf, List.map_filterMap_some_eq_filter_map_isSome, List.filter_map, tokenSpans]
  congr 1
  exact List.filter_congr fun s _ => isSome_token? source s

/-- **Coverage is exact if and only if what is dropped is in a body or taken in.** A text whose spans
fit has an arena, with one token for each token span and in their order; the token spans cover it
exactly under this condition and no other, and in particular if its ranges to be skipped are tidy. -/
theorem parse_covers_exactly_iff (source : Bytes) (tree : Tree) (htext : 0 ∉ source)
    (hfit : SpansFit source tree.root.spans) :
    (∃ arena, parse source (.answered (some tree)) = .ok (arena, tree.hasError) ∧
      arena.map some = (tokenSpans source tree).map (Span.token? source)) ∧
    (ExactlyCovered source tree ↔
      SkipsTaken source tree.root.spans (walkOf source tree)) ∧
    (Tidy (walkOf source tree) → ExactlyCovered source tree) := by
  refine ⟨⟨arenaOf source tree, ?_, ?_⟩, ?_, ?_⟩
  · simp [parse, htext]
  · exact map_some_arenaOf source tree
  · exact ⟨fun h => h.skipsTaken hfit, fun h => h.exactlyCovered hfit⟩
  · exact fun h => (SkipsTaken.of_tidy hfit h).exactlyCovered hfit

/-- Two here-documents opened on one line, the marker of the first cut off by the grammar, and a
comment behind them. -/
def twoHeredocs : Bytes :=
  "f(<< \"B\", <<A); # two\ny\nB\n$x\nA\n;".toList.map byteOf

/-- A tree for `twoHeredocs`. -/
def twoHeredocsTree : Tree where
  root := .mk "source_file" 0 32 [.mk "<<" 2 4 [], .mk "interpolated_string_literal" 5 8 [],
    .mk "heredoc_token" 10 13 [], .mk "scalar" 26 28 []]

theorem tidy_twoHeredocs : Tidy (walkOf twoHeredocs twoHeredocsTree) := by
  rw [walkOf_of_sorted (by decide)]
  -- The marker that the first opener takes in, and the two bodies.
  have hranges : skipRanges (visits twoHeredocs {}
      (fillFrom twoHeredocs 0 twoHeredocsTree.root.spans)) = [(4, 8), (22, 26), (26, 31)] := by
    have hfound : (visits twoHeredocs {} (fillFrom twoHeredocs 0
        twoHeredocsTree.root.spans)).flatMap Visit.ranges = [(4, 8), (22, 26), (26, 31)] := by
      decide +kernel
    rw [skipRanges, hfound, List.mergeSort_of_pairwise (by decide)]
  constructor
  · rw [hranges]
    decide
  · rw [hranges]
    decide +kernel
  · rw [hranges]
    decide +kernel

theorem twoHeredocs_exactlyCovered :
    (0 ∉ twoHeredocs ∧ SpansFit twoHeredocs twoHeredocsTree.root.spans) ∧
      ExactlyCovered twoHeredocs twoHeredocsTree := by
  have htext : 0 ∉ twoHeredocs := by decide
  have hfit : SpansFit twoHeredocs twoHeredocsTree.root.spans :=
    ⟨by decide, by decide, by decide⟩
  exact ⟨⟨htext, hfit⟩, (parse_covers_exactly_iff _ _ htext hfit).2.2 tidy_twoHeredocs⟩

/-- A shift by a string that has a quotation mark in it. -/
def shiftByString : Bytes :=
  "$x << \"a\\\"b\";\n".toList.map byteOf

/-- A tree for `shiftByString`. -/
def shiftByStringTree : Tree where
  root := .mk "source_file" 0 14 [.mk "scalar" 0 2 [], .mk "<<" 3 5 [],
    .mk "interpolated_string_literal" 6 12 []]

theorem walkOf_shiftByString :
    walkOf shiftByString shiftByStringTree =
      visits shiftByString {} (fillFrom shiftByString 0 shiftByStringTree.root.spans) :=
  walkOf_of_sorted (by decide)

/-- The shift is taken for an opener that ends at the first quotation mark in the string. Its body is
empty, as there is no line behind its own. -/
theorem skipRanges_shiftByString :
    skipRanges (walkOf shiftByString shiftByStringTree) = [(5, 10), (14, 14)] := by
  have hfound : (walkOf shiftByString shiftByStringTree).flatMap Visit.ranges =
      [(5, 10), (14, 14)] := by
    rw [walkOf_shiftByString]
    decide +kernel
  rw [skipRanges, hfound, List.mergeSort_of_pairwise (by decide)]

/-- The letter behind the quotation mark in the string ought to be in a token. -/
theorem owed_shiftByString :
    Owed shiftByString shiftByStringTree.root.spans
      (walkOf shiftByString shiftByStringTree) 10 := by
  refine ⟨by decide, by decide, ?_, ?_⟩
  · rintro ⟨c, -, hhash, -⟩
    exact absurd (List.mem_of_getElem? hhash) (by decide)
  · have hbodies : ∀ v ∈ walkOf shiftByString shiftByStringTree, ∀ b ∈ v.body,
        ¬ (b.start ≤ 10 ∧ 10 < b.resume) := by
      rw [walkOf_shiftByString]
      decide +kernel
    rintro ⟨v, hv, -, b, hb, hholds⟩
    exact hbodies v hv b hb hholds

/-- **Coverage is not always exact.** The string is dropped, as it starts in what the opener takes
in, although it goes on behind that; its letter is then in no token. -/
theorem shiftByString_not_exactlyCovered :
    (0 ∉ shiftByString ∧ SpansFit shiftByString shiftByStringTree.root.spans) ∧
      Owed shiftByString shiftByStringTree.root.spans
        (walkOf shiftByString shiftByStringTree) 10 ∧
      (tokenSpans shiftByString shiftByStringTree).countP (fun s => decide (s.Holds 10)) = 0 ∧
      ¬ ExactlyCovered shiftByString shiftByStringTree := by
  have hfit : SpansFit shiftByString shiftByStringTree.root.spans :=
    ⟨by decide, by decide, by decide⟩
  have hcount : (tokenSpans shiftByString shiftByStringTree).countP
      (fun s => decide (s.Holds 10)) = 0 := by
    have hdropped : ∀ v ∈ walkOf shiftByString shiftByStringTree, v.kept.Holds 10 →
        inLastRange [(5, 10), (14, 14)] v.given.start = true := by
      rw [walkOf_shiftByString]
      decide +kernel
    rw [List.countP_eq_zero, tokenSpans_eq]
    intro s hs hholds
    obtain ⟨v, hv, rfl⟩ := List.mem_map.mp hs
    obtain ⟨hv, hva⟩ := List.mem_filter.mp hv
    refine (of_decide_eq_true hva).2 ?_
    rw [LeftOut, skipRanges_shiftByString]
    exact hdropped v hv (of_decide_eq_true hholds)
  refine ⟨⟨by decide, hfit⟩, owed_shiftByString, hcount, fun h => ?_⟩
  have honce := h.once 10 owed_shiftByString
  rw [hcount] at honce
  exact absurd honce (by decide)

end SqlInventory.Perl
