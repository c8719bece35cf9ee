import SqlInventory.Proofs.Perl.HeredocBodies
import SqlInventory.Proofs.Text.Trimming

/-!
# Where a here-document ends

`heredocBody?` looks for a newline behind the opener, cuts what follows into lines and stops at the
first line that ends the body. Here is what it finds, said of the bytes and without the search.

* `LinesOf` says what it is to cut bytes into lines, and `linesOf_iff` that `lines` does so and that
  there is no other way.
* `MarkerAlone` says what may stand on a line beside the marker, and `isTerminator_iff` that the
  test by trimming asks for nothing else. Trimming is undone by `trim_eq_iff`: what is left
  when runs are taken off is what stands between such runs and does not have another one at an end.
* `Body.EndsAtMarker` puts the two together, and `heredoc_ends_at_first_marker` shows it of every
  body that is found. A body is found if and only if there is a newline behind the opener.
-/

namespace SqlInventory.Perl

/-! ### Lines -/

/-- Bytes cut into lines: each runs up to a newline, which it takes, and a last one without a
newline is there only if it has some byte. -/
inductive LinesOf : Bytes → List Bytes → Prop
  /-- Nothing is left. -/
  | done : LinesOf [] []
  /-- A line without a newline is the last one. -/
  | last {body : Bytes} (some_byte : body ≠ []) (single : byteOf '\n' ∉ body) : LinesOf body [body]
  /-- A line with its newline, and the lines behind it. -/
  | line {body rest : Bytes} {others : List Bytes} (single : byteOf '\n' ∉ body)
      (behind : LinesOf rest others) :
      LinesOf (body ++ byteOf '\n' :: rest) ((body ++ [byteOf '\n']) :: others)

theorem linesOf_lines (bytes : Bytes) : LinesOf bytes (lines bytes) := by
  induction bytes with
  | nil => exact .done
  | cons b rest ih =>
    rw [lines]
    split
    · next hnewline =>
      rw [beq_iff_eq.mp hnewline]
      exact .line (List.not_mem_nil) ih
    · next hother =>
      have hother : byteOf '\n' ≠ b := fun h => hother (beq_iff_eq.mpr h.symm)
      -- The first line of the rest is continued to the front by `b`.
      generalize lines rest = cut at ih
      cases ih with
      | done => exact .last (List.cons_ne_nil _ _) (by simpa using hother)
      | last _ hsingle =>
        exact .last (List.cons_ne_nil _ _) (List.not_mem_cons_of_ne_of_not_mem hother hsingle)
      | line hsingle hbehind =>
        exact .line (List.not_mem_cons_of_ne_of_not_mem hother hsingle) hbehind

theorem lines_append_newline {body : Bytes} (hbody : byteOf '\n' ∉ body) (rest : Bytes) :
    lines (body ++ byteOf '\n' :: rest) = (body ++ [byteOf '\n']) :: lines rest := by
  induction body with
  | nil => rfl
  | cons b body ih =>
    obtain ⟨hb, hbody⟩ := List.ne_and_not_mem_of_not_mem_cons hbody
    rw [List.cons_append, lines, if_neg (by simpa using Ne.symm hb), ih hbody]
    rfl

theorem lines_of_notMem {body : Bytes} (hsome : body ≠ []) (hbody : byteOf '\n' ∉ body) :
    lines body = [body] := by
  induction body with
  | nil => exact absurd rfl hsome
  | cons b body ih =>
    obtain ⟨hb, hbody⟩ := List.ne_and_not_mem_of_not_mem_cons hbody
    rw [lines, if_neg (by simpa using Ne.symm hb)]
    cases body with
    | nil => rfl
    | cons c body => rw [ih (List.cons_ne_nil _ _) hbody]

/-- **There is one way to cut bytes into lines.** -/
theorem linesOf_iff {bytes : Bytes} {cut : List Bytes} : LinesOf bytes cut ↔ cut = lines bytes := by
  constructor
  · intro h
    induction h with
    | done => rfl
    | last hsome hsingle => exact (lines_of_notMem hsome hsingle).symm
    | line hsingle _ ih => rw [lines_append_newline hsingle, ih]
  · rintro rfl
    exact linesOf_lines bytes

/-- A line is some bytes without a newline, or has a newline behind them. -/
theorem LinesOf.exists_body {bytes line : Bytes} {cut : List Bytes} (h : LinesOf bytes cut)
    (hline : line ∈ cut) :
    ∃ body, byteOf '\n' ∉ body ∧ (line = body ∨ line = body ++ [byteOf '\n']) := by
  induction h with
  | done => cases hline
  | @last body _ hsingle => exact ⟨body, hsingle, .inl (List.mem_singleton.mp hline)⟩
  | @line body _ _ hsingle _ ih =>
    rcases List.mem_cons.mp hline with rfl | hline
    · exact ⟨body, hsingle, .inr rfl⟩
    · exact ih hline

/-! ### Terminators -/

/-- What is left when the blanks on either side are taken off. -/
theorem stripBytes_eq_iff {line m : Bytes} :
    stripBytes line = m ↔
      ∃ left right, line = left ++ (m ++ right) ∧ (∀ b ∈ left, isBlankByte b = true) ∧
        (∀ b ∈ right, isBlankByte b = true) ∧ m.head?.any isBlankByte = false ∧
        m.getLast?.any isBlankByte = false :=
  trim_eq_iff

/-- The bytes of a line are the marker alone. There may be carriage returns behind it or, where the
terminator may be indented, blanks on either side; the marker has no such bytes at its own ends. -/
def MarkerAlone (marker : Bytes) (indented : Bool) (body : Bytes) : Prop :=
  if indented then
    ∃ left right, body = left ++ (marker ++ right) ∧ (∀ b ∈ left, isBlankByte b = true) ∧
      (∀ b ∈ right, isBlankByte b = true) ∧ marker.head?.any isBlankByte = false ∧
      marker.getLast?.any isBlankByte = false
  else
    ∃ right, body = marker ++ right ∧ (∀ b ∈ right, b = byteOf '\r') ∧
      marker.getLast? ≠ some (byteOf '\r')

/-- The line ends a body: without its newline it is the marker alone. -/
def HoldsMarker (marker : Bytes) (indented : Bool) (line : Bytes) : Prop :=
  ∃ body, byteOf '\n' ∉ body ∧ (line = body ∨ line = body ++ [byteOf '\n']) ∧
    MarkerAlone marker indented body

/-- Bytes without the carriage returns at their end. -/
def withoutReturns (body : Bytes) : Bytes :=
  (body.reverse.dropWhile (· == byteOf '\r')).reverse

theorem withoutReturns_eq_iff {body m : Bytes} :
    withoutReturns body = m ↔ ∃ right, body = m ++ right ∧ (∀ b ∈ right, b = byteOf '\r') ∧
      m.getLast? ≠ some (byteOf '\r') := by
  unfold withoutReturns
  rw [reverse_dropWhile_reverse_eq_iff]
  simp only [beq_iff_eq]
  refine exists_congr fun right => and_congr_right fun _ => and_congr_right fun _ => ?_
  cases m.getLast? <;> simp

/-- Carriage returns are blanks, so taking them off first makes no difference. -/
theorem stripBytes_withoutReturns (body : Bytes) :
    stripBytes (withoutReturns body) = stripBytes body := by
  obtain ⟨returns, hbody, hreturns, -⟩ := withoutReturns_eq_iff.mp (rfl : withoutReturns body = _)
  obtain ⟨left, right, hline, hleft, hright, hends⟩ :=
    stripBytes_eq_iff.mp (rfl : stripBytes (withoutReturns body) = _)
  refine (stripBytes_eq_iff.mpr ⟨left, right ++ returns, ?_, hleft, ?_, hends⟩).symm
  · calc body = withoutReturns body ++ returns := hbody
      _ = left ++ (stripBytes (withoutReturns body) ++ right) ++ returns := by rw [← hline]
      _ = left ++ (stripBytes (withoutReturns body) ++ (right ++ returns)) := by
        rw [List.append_assoc, List.append_assoc]
  · refine List.forall_mem_append.mpr ⟨hright, fun b hb => ?_⟩
    rw [hreturns b hb]
    decide

theorem lineContent_of_body {body line : Bytes} (hbody : byteOf '\n' ∉ body)
    (hline : line = body ∨ line = body ++ [byteOf '\n']) :
    lineContent line = withoutReturns body := by
  unfold lineContent withoutReturns
  rcases hline with rfl | rfl
  · rw [List.takeWhile_eq_self_iff.mpr (bne_of_mem_of_notMem hbody)]
  · rw [takeWhile_ne_append_cons hbody]

/-- **A line ends a body if and only if it is the marker alone.** -/
theorem isTerminator_iff {marker line : Bytes} {indented : Bool}
    (hline : ∃ body, byteOf '\n' ∉ body ∧ (line = body ∨ line = body ++ [byteOf '\n'])) :
    isTerminator marker indented line = true ↔ HoldsMarker marker indented line := by
  have halone : ∀ body, byteOf '\n' ∉ body → (line = body ∨ line = body ++ [byteOf '\n']) →
      (isTerminator marker indented line = true ↔ MarkerAlone marker indented body) := by
    intro body hbody hline
    unfold isTerminator MarkerAlone
    rw [lineContent_of_body hbody hline]
    cases indented
    · simpa using withoutReturns_eq_iff
    · simpa [stripBytes_withoutReturns] using stripBytes_eq_iff
  constructor
  · intro hends
    obtain ⟨body, hbody, hline⟩ := hline
    exact ⟨body, hbody, hline, (halone body hbody hline).mp hends⟩
  · rintro ⟨body, hbody, hline, hmarker⟩
    exact (halone body hbody hline).mpr hmarker

/-! ### Bodies -/

/-- `n` is the offset of the first newline at or behind `start`. -/
def FirstNewline (source : Bytes) (start n : Nat) : Prop :=
  start ≤ n ∧ source[n]? = some (byteOf '\n') ∧
    ∀ i, start ≤ i → i < n → source[i]? ≠ some (byteOf '\n')

theorem firstNewline_of_newlineFrom? {source : Bytes} {start n : Nat}
    (h : newlineFrom? source start = some n) : FirstNewline source start n := by
  obtain ⟨hstart, -, hbyte⟩ := newlineFrom?_spec h
  refine ⟨hstart, hbyte, fun i hi hin hnewline => ?_⟩
  obtain ⟨k, hk, rfl⟩ := Option.map_eq_some_iff.mp h
  obtain ⟨j, rfl⟩ := Nat.exists_eq_add_of_le hi
  obtain ⟨hlength, -, hfirst⟩ := List.findIdx?_eq_some_iff_getElem.mp hk
  have hjk : j < k := by omega
  -- The search has passed by the newline at `start + j`.
  refine hfirst j hjk ?_
  rw [← List.getElem?_drop, List.getElem?_eq_getElem (Nat.lt_trans hjk hlength)] at hnewline
  exact beq_iff_eq.mpr (Option.some.inj hnewline)

theorem newlineFrom?_eq_none_iff {source : Bytes} {start : Nat} :
    newlineFrom? source start = none ↔ ∀ i, start ≤ i → source[i]? ≠ some (byteOf '\n') := by
  rw [newlineFrom?, Option.map_eq_none_iff, List.findIdx?_eq_none_iff]
  constructor
  · intro hnone i hi hnewline
    obtain ⟨j, rfl⟩ := Nat.exists_eq_add_of_le hi
    rw [← List.getElem?_drop] at hnewline
    exact absurd (hnone _ (List.mem_of_getElem? hnewline)) (by simp)
  · intro hnone b hb
    obtain ⟨j, hj⟩ := List.mem_iff_getElem?.mp hb
    rw [List.getElem?_drop] at hj
    rw [beq_eq_false_iff_ne]
    rintro rfl
    exact hnone (start + j) (Nat.le_add_right _ _) hj

theorem terminator?_eq_none_iff {marker : Bytes} {indented : Bool} {place : Nat}
    {all : List Bytes} :
    terminator? marker indented place all = none ↔
      ∀ l ∈ all, isTerminator marker indented l = false := by
  induction all generalizing place with
  | nil => exact iff_of_true rfl (fun l hl => absurd hl List.not_mem_nil)
  | cons line rest ih =>
    rw [terminator?, List.forall_mem_cons]
    split
    · next hends => simp [hends]
    · next hends => simp [hends, ih]

/-- What is promised of a body. It starts behind the first newline behind the opener, or at the
cursor if that is further on. It ends where the first line starts that holds the marker, and is
resumed behind that line; without such a line it goes on to the end of the source. -/
structure Body.EndsAtMarker (source marker : Bytes) (indented : Bool) (openerStop cursor : Nat)
    (b : Body) : Prop where
  start_eq : ∃ newline, FirstNewline source openerStop newline ∧ b.start = max (newline + 1) cursor
  stop_eq : ∀ cut, LinesOf (source.drop b.start) cut →
    (∃ front line back, cut = front ++ line :: back ∧
      (∀ l ∈ front, ¬ HoldsMarker marker indented l) ∧ HoldsMarker marker indented line ∧
      b.stop = b.start + front.flatten.length ∧ b.resume = b.stop + line.length) ∨
    ((∀ l ∈ cut, ¬ HoldsMarker marker indented l) ∧
      b.stop = source.length ∧ b.resume = source.length)
  start_le : b.start ≤ b.stop
  stop_le : b.stop ≤ b.resume
  resume_le : b.resume ≤ source.length

/-- **A body ends at the first line that holds its marker.** There is a body if and only if there is
a newline at or behind the end of the opener. -/
theorem heredoc_ends_at_first_marker (source marker : Bytes) (indented : Bool)
    (openerStop cursor : Nat) (hcursor : cursor ≤ source.length) :
    (heredocBody? source marker indented openerStop cursor = none ↔
      ∀ i, openerStop ≤ i → source[i]? ≠ some (byteOf '\n')) ∧
    ∀ b, heredocBody? source marker indented openerStop cursor = some b →
      b.EndsAtMarker source marker indented openerStop cursor := by
  refine ⟨by rw [heredocBody?, Option.map_eq_none_iff, newlineFrom?_eq_none_iff], ?_⟩
  intro b hb
  obtain ⟨newline, hnewline, hb⟩ := Option.map_eq_some_iff.mp hb
  obtain ⟨-, hlength, -⟩ := newlineFrom?_spec hnewline
  have hstart : max (newline + 1) cursor ≤ source.length := by omega
  -- A line is tested by trimming; that is the same as to hold the marker.
  have hends : ∀ l ∈ lines (source.drop (max (newline + 1) cursor)),
      (isTerminator marker indented l = false ↔ ¬ HoldsMarker marker indented l) := by
    intro l hl
    rw [← isTerminator_iff ((linesOf_lines _).exists_body hl), Bool.not_eq_true]
  cases hfound : terminator? marker indented (max (newline + 1) cursor)
      (lines (source.drop (max (newline + 1) cursor))) with
  | none =>
    simp only [hfound] at hb
    subst hb
    refine ⟨⟨newline, firstNewline_of_newlineFrom? hnewline, rfl⟩, fun cut hcut => .inr ?_, hstart,
      Nat.le_refl _, Nat.le_refl _⟩
    obtain rfl := linesOf_iff.mp hcut
    exact ⟨fun l hl => (hends l hl).mp (terminator?_eq_none_iff.mp hfound l hl), rfl, rfl⟩
  | some found =>
    obtain ⟨stop, resume⟩ := found
    simp only [hfound] at hb
    subst hb
    obtain ⟨front, line, back, hlines, hline, hfront, rfl, rfl⟩ := exists_of_terminator? hfound
    obtain ⟨hresume, -⟩ := startsLine_of_lines hstart hlines
    refine ⟨⟨newline, firstNewline_of_newlineFrom? hnewline, rfl⟩, fun cut hcut => .inl ?_,
      Nat.le_add_right _ _, Nat.le_add_right _ _, hresume⟩
    obtain rfl := linesOf_iff.mp hcut
    refine ⟨front, line, back, hlines, fun l hl => ?_, ?_, rfl, rfl⟩
    · exact (hends l (hlines ▸ List.mem_append_left _ hl)).mp (hfront l hl)
    · have hmem : line ∈ lines (source.drop (max (newline + 1) cursor)) := by
        rw [hlines]
        exact List.mem_append_right _ List.mem_cons_self
      exact (isTerminator_iff ((linesOf_lines _).exists_body hmem)).mp hline

/-- Two openers on a line. The body of the second has a line that only starts as its terminator
does; the terminator is indented, has a carriage return behind it and is the last line. -/
def stackedBodies : Bytes :=
  "<<A;<<~B;\nA\n B c\n\n\tB\r".toList.map byteOf

/-- The body of the second opener, with the cursor behind that of the first. -/
theorem stackedBodies_end_at_marker :
    12 ≤ stackedBodies.length ∧
      heredocBody? stackedBodies [byteOf 'B'] true 8 12 = some ⟨12, 18, 21⟩ ∧
      Body.EndsAtMarker stackedBodies [byteOf 'B'] true 8 12 ⟨12, 18, 21⟩ := by
  have hcursor : 12 ≤ stackedBodies.length := by decide
  have hbody : heredocBody? stackedBodies [byteOf 'B'] true 8 12 = some ⟨12, 18, 21⟩ := by
    decide +kernel
  exact ⟨hcursor, hbody,
    (heredoc_ends_at_first_marker stackedBodies [byteOf 'B'] true 8 12 hcursor).2 _ hbody⟩

end SqlInventory.Perl
