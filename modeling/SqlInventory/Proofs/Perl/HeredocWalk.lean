import SqlInventory.Perl.Heredoc
import SqlInventory.Proofs.Perl.GapFilling

/-!
# The walk that attaches here-documents

`attachFrom` carries along what it has found. Here the walk is laid open as a list of visits, one for
each span: the span as it was given and as it was kept, and the body that was attached to it.

* `visits` is that list; `attachFrom_eq` reads the result of the walk off it, the spans kept and the
  ranges to skip.
* `skipRanges` are those ranges in order, and `LeftOut` is the test by which a span is dropped.
* `InArena` says which visits become tokens in the end, `InBody` what lies in the body of one of
  these, and `TakenIn` what one of these has taken in behind its own span.

A step changes a span only where an opener stands, and then it only extends it
(`Visit.Sound`, `sound_of_mem_visits`).
-/

namespace SqlInventory.Perl

/-- What the walk made of one span. -/
structure Visit where
  /-- The span before the step. -/
  given : Span
  /-- The span behind the step. -/
  kept : Span
  /-- The body that the step attached. -/
  body : Option Body

/-- The opener that the walk sees at a span, behind what it has found. -/
def openerAt? (source : Bytes) (found : Attachment) (span : Span) : Option Opener :=
  if !span.mayOpen || (found.body.1 ≤ span.start && span.start < found.body.2) then none
  else opener? (source.drop span.start)

/-- The body that the walk attaches at a span. -/
def bodyAt? (source : Bytes) (found : Attachment) (span : Span) : Option Body :=
  (openerAt? source found span).bind fun opener =>
    heredocBody? source opener.marker opener.indented
      (max span.stop (span.start + opener.length)) found.cursor

/-- The visits of the walk, from left to right. -/
def visits (source : Bytes) : Attachment → List Span → List Visit
  | _, [] => []
  | found, span :: rest =>
    { given := span
      kept := (attachStep source found span).1
      body := bodyAt? source found span } :: visits source (attachStep source found span).2 rest

/-- The ranges that a visit adds to those to be skipped: what the opener takes in behind its span,
and its body. -/
def Visit.ranges (v : Visit) : List (Nat × Nat) :=
  (if v.given.stop < v.kept.stop then [(v.given.stop, v.kept.stop)] else []) ++
    v.body.toList.map fun b => (b.start, b.resume)

/-! ### One step -/

/-- A step without an opener does nothing. -/
theorem attachStep_of_none {source : Bytes} {found : Attachment} {span : Span}
    (h : openerAt? source found span = none) : attachStep source found span = (span, found) := by
  unfold openerAt? at h
  unfold attachStep
  split_ifs at h ⊢ with hskip
  · rfl
  · rw [h]

/-- A step at an opener extends the span to the opener's end and adds what is to be skipped. -/
theorem attachStep_of_some {source : Bytes} {found : Attachment} {span : Span} {opener : Opener}
    (h : openerAt? source found span = some opener) :
    (attachStep source found span).1.start = span.start ∧
      (attachStep source found span).1.stop = max span.stop (span.start + opener.length) ∧
      (attachStep source found span).1.kind = some .heredoc ∧
      (attachStep source found span).2.skips = found.skips ++
        (if span.stop < span.start + opener.length then
          [(span.stop, span.start + opener.length)] else []) ++
        (bodyAt? source found span).toList.map fun b => (b.start, b.resume) := by
  rw [bodyAt?, h, Option.bind_some]
  unfold openerAt? at h
  split_ifs at h with hskip
  simp only [attachStep, hskip, h]
  cases hbody : heredocBody? source opener.marker opener.indented
      (max span.stop (span.start + opener.length)) found.cursor <;> simp

/-- What a step may make of a span. -/
structure Visit.Sound (source : Bytes) (v : Visit) : Prop where
  start_eq : v.kept.start = v.given.start
  stop_le : v.given.stop ≤ v.kept.stop
  kind_isSome : v.kept.kind.isSome = v.given.kind.isSome
  /-- Only an opener has anything to skip. -/
  opener : v.ranges ≠ [] →
    v.given.kind.isSome = true ∧ source[v.given.start]? = some (byteOf '<')

theorem getElem?_of_opener? {bytes : Bytes} {opener : Opener} (h : opener? bytes = some opener) :
    bytes[0]? = some (byteOf '<') := by
  unfold opener? at h
  split_ifs at h with hfront
  have hfront := congrArg (·[0]?) (beq_iff_eq.mp hfront)
  simpa [List.getElem?_take] using hfront

theorem isSome_kind_of_mayOpen {span : Span} (h : span.mayOpen = true) :
    span.kind.isSome = true := by
  unfold Span.mayOpen at h
  cases hkind : span.kind
  · rw [hkind] at h
    exact absurd h (by decide)
  · rfl

theorem ranges_step (source : Bytes) (found : Attachment) (span : Span) :
    (attachStep source found span).2.skips = found.skips ++
      (Visit.mk span (attachStep source found span).1 (bodyAt? source found span)).ranges := by
  cases hopener : openerAt? source found span with
  | none =>
    rw [attachStep_of_none hopener]
    simp [Visit.ranges, bodyAt?, hopener]
  | some opener =>
    obtain ⟨-, hstop, -, hskips⟩ := attachStep_of_some hopener
    rw [hskips, List.append_assoc, Visit.ranges]
    simp only [hstop]
    congr 2
    by_cases htaken : span.stop < span.start + opener.length
    · rw [if_pos htaken, if_pos (by omega), Nat.max_eq_right (Nat.le_of_lt htaken)]
    · rw [if_neg htaken, if_neg (by omega)]

theorem sound_step (source : Bytes) (found : Attachment) (span : Span) :
    (Visit.mk span (attachStep source found span).1 (bodyAt? source found span)).Sound source := by
  cases hopener : openerAt? source found span with
  | none =>
    rw [attachStep_of_none hopener]
    refine ⟨rfl, Nat.le_refl _, rfl, fun hranges => ?_⟩
    simp [Visit.ranges, bodyAt?, hopener] at hranges
  | some opener =>
    obtain ⟨hstart, hstop, hkind, -⟩ := attachStep_of_some hopener
    unfold openerAt? at hopener
    split_ifs at hopener with hskip
    simp only [Bool.or_eq_true, not_or, Bool.not_eq_true', Bool.not_eq_false] at hskip
    have hopens := isSome_kind_of_mayOpen hskip.1
    refine ⟨hstart, hstop ▸ Nat.le_max_left _ _, by rw [hkind, hopens]; rfl, fun _ => ⟨hopens, ?_⟩⟩
    simpa using getElem?_of_opener? hopener

/-! ### The whole walk -/

/-- **The walk, read off its visits**: the spans that it keeps and the ranges that it skips. -/
theorem attachFrom_eq (source : Bytes) (found : Attachment) (spans : List Span) :
    (attachFrom source found spans).1 = (visits source found spans).map Visit.kept ∧
      (attachFrom source found spans).2.skips =
        found.skips ++ (visits source found spans).flatMap Visit.ranges := by
  induction spans generalizing found with
  | nil => exact ⟨rfl, (List.append_nil _).symm⟩
  | cons span rest ih =>
    obtain ⟨hkept, hskips⟩ := ih (attachStep source found span).2
    constructor
    · exact congrArg ((attachStep source found span).1 :: ·) hkept
    · change (attachFrom source (attachStep source found span).2 rest).2.skips = _
      rw [hskips, ranges_step, visits, List.flatMap_cons, List.append_assoc]

@[simp] theorem map_given_visits (source : Bytes) (found : Attachment) (spans : List Span) :
    (visits source found spans).map Visit.given = spans := by
  induction spans generalizing found with
  | nil => rfl
  | cons span rest ih => exact congrArg (span :: ·) (ih _)

theorem sound_of_mem_visits {source : Bytes} {found : Attachment} {spans : List Span} {v : Visit}
    (hv : v ∈ visits source found spans) : v.Sound source := by
  induction spans generalizing found with
  | nil => simp [visits] at hv
  | cons span rest ih =>
    rcases List.mem_cons.mp hv with rfl | hv
    · exact sound_step source found span
    · exact ih hv

/-! ### What becomes of a visit -/

/-- The ranges to be skipped, in order. -/
def skipRanges (walk : List Visit) : List (Nat × Nat) :=
  (walk.flatMap Visit.ranges).mergeSort rangeAtMost

/-- The span is dropped, as its start is taken to lie in a range to be skipped. -/
def LeftOut (walk : List Visit) (v : Visit) : Prop :=
  inLastRange (skipRanges walk) v.given.start = true

/-- The span becomes a token. -/
def InArena (walk : List Visit) (v : Visit) : Prop :=
  v.kept.kind.isSome = true ∧ ¬ LeftOut walk v

/-- The offset lies in the body, or in the terminator line, of a here-document whose opener is a
token. -/
def InBody (walk : List Visit) (x : Nat) : Prop :=
  ∃ v ∈ walk, InArena walk v ∧ ∃ b, v.body = some b ∧ b.start ≤ x ∧ x < b.resume

/-- The offset lies behind the span of an opener that is a token, in what that opener takes in. -/
def TakenIn (walk : List Visit) (x : Nat) : Prop :=
  ∃ w ∈ walk, InArena walk w ∧ w.given.stop ≤ x ∧ x < w.kept.stop

instance (walk : List Visit) (v : Visit) : Decidable (LeftOut walk v) :=
  inferInstanceAs (Decidable (_ = true))

instance (walk : List Visit) (v : Visit) : Decidable (InArena walk v) :=
  inferInstanceAs (Decidable (_ ∧ _))

theorem mem_skipRanges {walk : List Visit} {r : Nat × Nat} :
    r ∈ skipRanges walk ↔ ∃ v ∈ walk, r ∈ v.ranges := by
  rw [skipRanges, List.mem_mergeSort, List.mem_flatMap]

/-- The spans that a source ends up with are those that the walk keeps and does not leave out. -/
theorem attachHeredocs_eq (source : Bytes) (spans : List Span) :
    attachHeredocs source spans =
      ((visits source {} spans).filter fun v => !decide (LeftOut (visits source {} spans) v)).map
        Visit.kept := by
  obtain ⟨hkept, hskips⟩ := attachFrom_eq source {} spans
  have hranges : (attachFrom source {} spans).2.skips.mergeSort rangeAtMost =
      skipRanges (visits source {} spans) := by
    rw [hskips]
    rfl
  change (attachFrom source {} spans).1.filter (fun span => !inLastRange
    ((attachFrom source {} spans).2.skips.mergeSort rangeAtMost) span.start) = _
  rw [hranges, hkept, List.filter_map]
  congr 1
  refine List.filter_congr fun v hv => ?_
  rw [Function.comp_apply, (sound_of_mem_visits hv).start_eq, Bool.not_inj_iff, Bool.eq_iff_iff,
    decide_eq_true_iff]
  exact Iff.rfl

/-- Where the walk finds nothing to skip, every span that it keeps stays. -/
theorem attachHeredocs_of_skips_eq_nil {source : Bytes} {spans : List Span}
    (h : (attachFrom source {} spans).2.skips = []) :
    attachHeredocs source spans = (attachFrom source {} spans).1 := by
  unfold attachHeredocs
  simp only [h, List.mergeSort_nil]
  exact List.filter_eq_self.mpr fun _ _ => rfl

/-- The range of a body is among those to be skipped. -/
theorem mem_skipRanges_of_body {walk : List Visit} {v : Visit} {b : Body} (hv : v ∈ walk)
    (hbody : v.body = some b) : (b.start, b.resume) ∈ skipRanges walk := by
  refine mem_skipRanges.mpr ⟨v, hv, List.mem_append_right _ ?_⟩
  simp [hbody]

theorem mem_skipRanges_of_lt {walk : List Visit} {v : Visit} (hv : v ∈ walk)
    (hlt : v.given.stop < v.kept.stop) : (v.given.stop, v.kept.stop) ∈ skipRanges walk := by
  refine mem_skipRanges.mpr ⟨v, hv, List.mem_append_left _ ?_⟩
  simp [hlt]

end SqlInventory.Perl
