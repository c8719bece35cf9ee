import SqlInventory.Proofs.Perl.HeredocWalk

/-!
# Bodies of here-documents do not share text

The walk over the spans of a source attaches bodies to openers one after the other, and `cursor`
says where the next body may start. Whatever the spans are, in order or not, apart or overlapping,
no byte ends up in two bodies. The reason is an invariant of the walk: a line starts at `cursor`, or
the source ends there (`Attachment.Ready`).

* `flatten_lines`, `getLast?_of_lines`: lines put together give the bytes again, and only the last
  one may lack its newline. So behind a terminator there is again the start of a line or the end.
* `Body.Fits` is what finding a body promises: it lies in the source behind its opener and behind
  `cursor`, and starts a line (`fits_of_heredocBody?`).
* `attachStep_of_body` is the step: the cursor moves behind the body, and the span gets its text.

`heredoc_bodies_apart` puts the steps of the walk together.
-/

namespace SqlInventory.Perl

/-! ### Lines -/

/-- A line starts at the offset, or the source ends there. -/
def StartsLine (source : Bytes) (x : Nat) : Prop :=
  x = 0 ∨ x = source.length ∨ source[x - 1]? = some (byteOf '\n')

@[simp] theorem flatten_lines (bytes : Bytes) : (lines bytes).flatten = bytes := by
  induction bytes with
  | nil => rfl
  | cons b rest ih =>
    rw [lines]
    split
    · rw [List.flatten_cons, ih, List.singleton_append]
    · cases hlines : lines rest with
      | nil =>
        rw [hlines] at ih
        rw [← ih]
        rfl
      | cons first others =>
        rw [hlines] at ih
        rw [← ih]
        rfl

/-- Only the last line may lack its newline. -/
theorem getLast?_of_lines {bytes line : Bytes} {front back : List Bytes}
    (h : lines bytes = front ++ line :: back) (hback : back ≠ []) :
    line.getLast? = some (byteOf '\n') := by
  induction bytes generalizing front line with
  | nil =>
    have := congrArg List.length h
    simp [lines] at this
  | cons b rest ih =>
    rw [lines] at h
    split at h
    · next hnewline =>
      cases front with
      | nil =>
        obtain ⟨rfl, -⟩ := List.cons.inj h
        simpa using hnewline
      | cons _ front => exact ih (List.cons.inj h).2
    · cases hlines : lines rest with
      | nil =>
        rw [hlines] at h
        cases front with
        | nil => exact absurd (List.cons.inj h).2.symm hback
        | cons _ front => simp at h
      | cons first others =>
        rw [hlines] at h
        cases front with
        | nil =>
          -- The first line goes on with `b`, and ends as it did before.
          obtain ⟨rfl, rfl⟩ := List.cons.inj h
          have hfirst : first.getLast? = some (byteOf '\n') :=
            ih (hlines.trans (List.nil_append _).symm)
          rw [List.getLast?_cons, hfirst]
          rfl
        | cons _ front =>
          obtain ⟨-, rfl⟩ := List.cons.inj h
          exact ih (hlines.trans (List.cons_append ..).symm)

/-- The terminator that is found is a line, the first that ends a here-document with the marker. -/
theorem exists_of_terminator? {marker : Bytes} {indented : Bool} {place stop resume : Nat}
    {all : List Bytes} (h : terminator? marker indented place all = some (stop, resume)) :
    ∃ front line back, all = front ++ line :: back ∧ isTerminator marker indented line = true ∧
      (∀ l ∈ front, isTerminator marker indented l = false) ∧
      stop = place + front.flatten.length ∧ resume = stop + line.length := by
  induction all generalizing place with
  | nil => cases h
  | cons line rest ih =>
    rw [terminator?] at h
    split at h
    · next hends =>
      cases h
      exact ⟨[], line, rest, rfl, hends, by simp, by simp, rfl⟩
    · next hends =>
      obtain ⟨front, last, back, rfl, hlast, hfront, rfl, rfl⟩ := ih h
      refine ⟨line :: front, last, back, rfl, hlast, ?_, ?_, rfl⟩
      · intro l hl
        rcases List.mem_cons.mp hl with rfl | hl
        · exact Bool.eq_false_iff.mpr hends
        · exact hfront l hl
      · rw [List.flatten_cons, List.length_append, Nat.add_assoc]

/-- **Behind a line there is the start of the next line or the end of the source.** -/
theorem startsLine_of_lines {source line : Bytes} {front back : List Bytes} {start : Nat}
    (hstart : start ≤ source.length) (h : lines (source.drop start) = front ++ line :: back) :
    start + front.flatten.length + line.length ≤ source.length ∧
      StartsLine source (start + front.flatten.length + line.length) := by
  have hbytes : source.drop start = front.flatten ++ line ++ back.flatten := by
    rw [← flatten_lines (source.drop start), h]
    simp
  have hlength := congrArg List.length hbytes
  simp only [List.length_drop, List.length_append] at hlength
  refine ⟨by omega, ?_⟩
  by_cases hback : back = []
  · rw [hback, List.flatten_nil, List.length_nil] at hlength
    exact .inr (.inl (by omega))
  · have hlast := getLast?_of_lines h hback
    have hne : line ≠ [] := by
      rintro rfl
      cases hlast
    have hpos := List.length_pos_iff.mpr hne
    refine .inr (.inr ?_)
    -- The last byte of the line, seen from the start of the lines.
    calc source[start + front.flatten.length + line.length - 1]?
        = (source.drop start)[front.flatten.length + (line.length - 1)]? := by
          rw [List.getElem?_drop]
          congr 1
          omega
      _ = line.getLast? := by
          rw [hbytes, List.append_assoc, List.getElem?_append_right (Nat.le_add_right _ _),
            Nat.add_sub_cancel_left, List.getElem?_append_left (by omega),
            List.getLast?_eq_getElem?]
      _ = some (byteOf '\n') := hlast

/-! ### One body -/

/-- What a body promises that is found for an opener which ends at `openerStop`, with earlier bodies
before `cursor`. -/
structure Body.Fits (source : Bytes) (openerStop cursor : Nat) (b : Body) : Prop where
  openerStop_lt : openerStop < b.start
  cursor_le : cursor ≤ b.start
  start_le : b.start ≤ b.stop
  stop_le : b.stop ≤ b.resume
  resume_le : b.resume ≤ source.length
  startsLine : StartsLine source b.start
  resumesLine : StartsLine source b.resume

theorem newlineFrom?_spec {source : Bytes} {start newline : Nat}
    (h : newlineFrom? source start = some newline) :
    start ≤ newline ∧ newline < source.length ∧ source[newline]? = some (byteOf '\n') := by
  obtain ⟨n, hn, rfl⟩ := Option.map_eq_some_iff.mp h
  obtain ⟨hlength, hnewline, -⟩ := List.findIdx?_eq_some_iff_getElem.mp hn
  rw [List.length_drop] at hlength
  refine ⟨Nat.le_add_right _ _, by omega, ?_⟩
  rw [← List.getElem?_drop, List.getElem?_eq_getElem (by rw [List.length_drop]; exact hlength)]
  exact congrArg some (beq_iff_eq.mp hnewline)

/-- **A body fits behind its opener and behind the bodies before it.** -/
theorem fits_of_heredocBody? {source marker : Bytes} {indented : Bool} {openerStop cursor : Nat}
    {b : Body} (hcursor : cursor ≤ source.length) (hline : StartsLine source cursor)
    (h : heredocBody? source marker indented openerStop cursor = some b) :
    b.Fits source openerStop cursor := by
  obtain ⟨newline, hnewline, hb⟩ := Option.map_eq_some_iff.mp h
  obtain ⟨hopener, hlength, hbyte⟩ := newlineFrom?_spec hnewline
  -- The body starts behind the newline, or at the cursor if that is further on.
  have hstart : max (newline + 1) cursor ≤ source.length := by omega
  have hstartsLine : StartsLine source (max (newline + 1) cursor) := by
    rcases Nat.le_total cursor (newline + 1) with hle | hle
    · rw [Nat.max_eq_left hle]
      exact .inr (.inr hbyte)
    · rw [Nat.max_eq_right hle]
      exact hline
  cases hfound : terminator? marker indented (max (newline + 1) cursor)
      (lines (source.drop (max (newline + 1) cursor))) with
  | none =>
    simp only [hfound] at hb
    subst hb
    exact ⟨by simp only []; omega, Nat.le_max_right _ _, hstart, Nat.le_refl _, Nat.le_refl _,
      hstartsLine, .inr (.inl rfl)⟩
  | some found =>
    obtain ⟨stop, resume⟩ := found
    simp only [hfound] at hb
    subst hb
    obtain ⟨front, line, back, hlines, -, -, rfl, rfl⟩ := exists_of_terminator? hfound
    obtain ⟨hresume, hresumesLine⟩ := startsLine_of_lines hstart hlines
    exact ⟨by simp only []; omega, Nat.le_max_right _ _, Nat.le_add_right _ _,
      Nat.le_add_right _ _, hresume, hstartsLine, hresumesLine⟩

/-! ### One step of the walk -/

/-- The walk may look for a body: a line starts at its cursor, or the source ends there. -/
structure Attachment.Ready (source : Bytes) (found : Attachment) : Prop where
  cursor_le : found.cursor ≤ source.length
  startsLine : StartsLine source found.cursor

theorem Attachment.ready_init (source : Bytes) : Attachment.Ready source {} :=
  ⟨Nat.zero_le _, .inl rfl⟩

/-- The text of a body. -/
def Body.text (source : Bytes) (b : Body) : Text :=
  Utf8.decode ((source.drop b.start).take (b.stop - b.start))

/-- A step that finds a body gives its text to the span and moves the cursor behind it. -/
theorem attachStep_of_body {source : Bytes} {found : Attachment} {span : Span} {b : Body}
    (h : bodyAt? source found span = some b) :
    (attachStep source found span).1.value = some (b.text source) ∧
      (attachStep source found span).1.kind = some .heredoc ∧
      (attachStep source found span).2.cursor = b.resume := by
  obtain ⟨opener, hopener, hbody⟩ := Option.bind_eq_some_iff.mp h
  unfold openerAt? at hopener
  split_ifs at hopener with hskip
  simp only [attachStep, hskip, hopener, hbody]
  exact ⟨rfl, rfl, rfl⟩

/-- A step that finds no body leaves the text of the span and the cursor as they are. -/
theorem attachStep_of_body_none {source : Bytes} {found : Attachment} {span : Span}
    (h : bodyAt? source found span = none) :
    (attachStep source found span).1.value = span.value ∧
      (attachStep source found span).2.cursor = found.cursor := by
  cases hopener : openerAt? source found span with
  | none =>
    rw [attachStep_of_none hopener]
    exact ⟨rfl, rfl⟩
  | some opener =>
    rw [bodyAt?, hopener, Option.bind_some] at h
    unfold openerAt? at hopener
    split_ifs at hopener with hskip
    simp only [attachStep, hskip, hopener, h]
    exact ⟨rfl, rfl⟩

/-- The body that a step finds fits behind the span as the step keeps it. -/
theorem fits_of_bodyAt? {source : Bytes} {found : Attachment} {span : Span} {b : Body}
    (hready : found.Ready source) (h : bodyAt? source found span = some b) :
    b.Fits source (attachStep source found span).1.stop found.cursor := by
  obtain ⟨opener, hopener, hbody⟩ := Option.bind_eq_some_iff.mp h
  obtain ⟨-, hstop, -⟩ := attachStep_of_some hopener
  rw [hstop]
  exact fits_of_heredocBody? hready.cursor_le hready.startsLine hbody

/-- **A step keeps the walk ready**, and never moves the cursor back. -/
theorem Attachment.Ready.step {source : Bytes} {found : Attachment} (hready : found.Ready source)
    (span : Span) :
    (attachStep source found span).2.Ready source ∧
      found.cursor ≤ (attachStep source found span).2.cursor := by
  cases hbody : bodyAt? source found span with
  | none =>
    obtain ⟨-, hcursor⟩ := attachStep_of_body_none hbody
    exact ⟨⟨hcursor ▸ hready.cursor_le, hcursor ▸ hready.startsLine⟩, Nat.le_of_eq hcursor.symm⟩
  | some b =>
    obtain ⟨-, -, hcursor⟩ := attachStep_of_body hbody
    have hfits := fits_of_bodyAt? hready hbody
    have hle : found.cursor ≤ b.resume :=
      Nat.le_trans hfits.cursor_le (Nat.le_trans hfits.start_le hfits.stop_le)
    exact ⟨⟨hcursor ▸ hfits.resume_le, hcursor ▸ hfits.resumesLine⟩, hcursor ▸ hle⟩

/-! ### The whole walk -/

/-- A visit attached the body `b`: the span has become an opener with the text of the body, and the
body fits behind it. -/
structure Visit.Attached (source : Bytes) (cursor : Nat) (v : Visit) (b : Body) : Prop where
  fits : b.Fits source v.kept.stop cursor
  kind_eq : v.kept.kind = some .heredoc
  value_eq : v.kept.value = some (b.text source)

/-- Each body of the walk fits, and starts behind the cursor from which the walk set out. -/
theorem attached_of_mem_visits {source : Bytes} {found : Attachment} {spans : List Span}
    (hready : found.Ready source) {v : Visit} (hv : v ∈ visits source found spans) {b : Body}
    (hb : v.body = some b) : v.Attached source found.cursor b := by
  induction spans generalizing found with
  | nil => cases hv
  | cons span rest ih =>
    rcases List.mem_cons.mp hv with rfl | hv
    · obtain ⟨hvalue, hkind, -⟩ := attachStep_of_body hb
      exact ⟨fits_of_bodyAt? hready hb, hkind, hvalue⟩
    · obtain ⟨hnext, hcursor⟩ := hready.step span
      have hattached := ih hnext hv
      exact ⟨{ hattached.fits with cursor_le := Nat.le_trans hcursor hattached.fits.cursor_le },
        hattached.kind_eq, hattached.value_eq⟩

/-- The bodies of the walk come one behind the other. -/
theorem pairwise_bodies {source : Bytes} {found : Attachment} (hready : found.Ready source)
    (spans : List Span) :
    ((visits source found spans).filterMap Visit.body).Pairwise fun a b => a.resume ≤ b.start := by
  induction spans generalizing found with
  | nil => exact List.Pairwise.nil
  | cons span rest ih =>
    obtain ⟨hnext, -⟩ := hready.step span
    rw [visits, List.filterMap_cons]
    cases hbody : bodyAt? source found span with
    | none => exact ih hnext
    | some a =>
      refine List.Pairwise.cons (fun b hb => ?_) (ih hnext)
      -- The walk goes on with its cursor behind `a`.
      obtain ⟨-, -, hcursor⟩ := attachStep_of_body hbody
      obtain ⟨v, hv, hvb⟩ := List.mem_filterMap.mp hb
      exact hcursor ▸ (attached_of_mem_visits hnext hv hvb).fits.cursor_le

/-- **Bodies of here-documents do not share text.** The walk over any spans, of which each is
visited once, attaches bodies that come one behind the other, in the order of their openers. Each
lies in the source, behind the end of its opener, and starts where a line starts or the source ends;
the opener has the bytes of the body, decoded, as its value. -/
theorem heredoc_bodies_apart (source : Bytes) (spans : List Span) :
    let walk := visits source {} spans
    (walk.map Visit.given = spans ∧ walk.map Visit.kept = (attachFrom source {} spans).1 ∧
      walk.flatMap Visit.ranges = (attachFrom source {} spans).2.skips) ∧
    (walk.filterMap Visit.body).Pairwise (fun a b => a.resume ≤ b.start) ∧
    ∀ v ∈ walk, ∀ b, v.body = some b →
      v.kept.start = v.given.start ∧ v.kept.kind = some .heredoc ∧
      v.kept.stop < b.start ∧ b.start ≤ b.stop ∧ b.stop ≤ b.resume ∧
      b.resume ≤ source.length ∧
      (b.start = source.length ∨ source[b.start - 1]? = some (byteOf '\n')) ∧
      v.kept.value = some (Utf8.decode ((source.drop b.start).take (b.stop - b.start))) := by
  intro walk
  obtain ⟨hkept, hskips⟩ := attachFrom_eq source {} spans
  refine ⟨⟨map_given_visits source {} spans, hkept.symm, hskips.symm⟩,
    pairwise_bodies (Attachment.ready_init source) spans, fun v hv b hb => ?_⟩
  have hattached := attached_of_mem_visits (Attachment.ready_init source) hv hb
  have hfits := hattached.fits
  have hpos : b.start ≠ 0 := Nat.pos_iff_ne_zero.mp (Nat.zero_lt_of_lt hfits.openerStop_lt)
  exact ⟨(sound_of_mem_visits hv).start_eq, hattached.kind_eq, hfits.openerStop_lt, hfits.start_le,
    hfits.stop_le, hfits.resume_le, hfits.startsLine.resolve_left hpos, hattached.value_eq⟩

/-- Two openers on one line; the body of the second has no terminator. -/
def stackedOpeners : Bytes :=
  "f(<<A, <<\"B\");\nx\nA\ny".toList.map byteOf

/-- The spans of the two openers, the second cut short and given twice. -/
def stackedSpans : List Span :=
  [{ start := 2, stop := 5, kind := some .heredoc },
    { start := 7, stop := 9, kind := some .operator },
    { start := 7, stop := 12, kind := some .heredoc }]

/-- The second opener is visited twice, and its second body is empty. -/
theorem stackedOpeners_bodies_apart :
    (visits stackedOpeners {} stackedSpans).filterMap Visit.body =
        [⟨15, 17, 19⟩, ⟨19, 20, 20⟩, ⟨20, 20, 20⟩] ∧
      ([⟨15, 17, 19⟩, ⟨19, 20, 20⟩, ⟨20, 20, 20⟩] : List Body).Pairwise
        fun a b => a.resume ≤ b.start := by
  have hbodies : (visits stackedOpeners {} stackedSpans).filterMap Visit.body =
      [⟨15, 17, 19⟩, ⟨19, 20, 20⟩, ⟨20, 20, 20⟩] := by
    decide +kernel
  refine ⟨hbodies, ?_⟩
  rw [← hbodies]
  exact (heredoc_bodies_apart stackedOpeners stackedSpans).2.1

end SqlInventory.Perl
