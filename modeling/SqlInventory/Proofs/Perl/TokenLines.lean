import SqlInventory.Audit.Call
import SqlInventory.Proofs.Perl.Coverage
import SqlInventory.Proofs.Text.Decoding

/-!
# The lines of tokens

A token has its line from the bytes of the source, a call has its line from the decoded text. The
two agree: `lineAt_eq_lineOfOffset` counts the newlines before a byte in either way, and it does so
for every byte, not only for those where a token starts.

Tokens are listed in the order of their lines, for any tree (`pairwise_line_arenaOf`). The spans of
a tree all have some extent (`lt_stop_of_mem_spans`), filling the gaps between them puts them in
order of their starts, and attaching here-documents drops some and moves no start
(`pairwise_start_sourceSpans`).
-/

namespace SqlInventory.Perl

/-! ### Spans in order -/

mutual

/-- The spans of a tree have some extent. -/
theorem lt_stop_of_mem_spans (node : Node) : ∀ s ∈ node.spans, s.start < s.stop := by
  match node with
  | .mk rule start stop children =>
    intro s hs
    rw [Node.spans.eq_def] at hs
    simp only [] at hs
    split_ifs at hs with hempty hcovered
    · cases hs
    · obtain rfl := List.mem_singleton.mp hs
      exact Nat.lt_of_not_le hempty
    · split at hs
      · obtain rfl := List.mem_singleton.mp hs
        exact Nat.lt_of_not_le hempty
      · split at hs
        · obtain rfl := List.mem_singleton.mp hs
          exact Nat.lt_of_not_le hempty
        · next first others =>
          rcases List.mem_append.mp hs with hs | hs
          · exact lt_stop_of_mem_spans first s hs
          · exact lt_stop_of_mem_spansOfAll others s hs

theorem lt_stop_of_mem_spansOfAll (nodes : List Node) :
    ∀ s ∈ Node.spansOfAll nodes, s.start < s.stop := by
  match nodes with
  | [] =>
    intro s hs
    cases hs
  | node :: others =>
    intro s hs
    rcases List.mem_append.mp hs with hs | hs
    · exact lt_stop_of_mem_spans node s hs
    · exact lt_stop_of_mem_spansOfAll others s hs

end

/-- The spans of a source come in order of their starts, whatever its tree is. -/
theorem pairwise_start_sourceSpans (source : Bytes) (tree : Tree) :
    (sourceSpans source tree).Pairwise fun s t => s.start ≤ t.start := by
  have hgiven : ((walkOf source tree).map Visit.given).Pairwise fun s t => s.start ≤ t.start := by
    rw [walkOf, map_given_visits]
    exact pairwise_start_fillGaps (lt_stop_of_mem_spans tree.root)
  rw [sourceSpans, attachHeredocs_eq, List.pairwise_map]
  refine List.Pairwise.imp_of_mem ?_ ((List.pairwise_map.mp hgiven).filter _)
  intro v w hv hw hle
  rw [(sound_of_mem_visits (List.mem_of_mem_filter hv)).start_eq,
    (sound_of_mem_visits (List.mem_of_mem_filter hw)).start_eq]
  exact hle

/-! ### Lines -/

/-- Further on in the source, the line is the same or a later one. -/
theorem lineAt_mono (source : Bytes) {a b : Nat} (h : a ≤ b) :
    lineAt source a ≤ lineAt source b := by
  rw [lineAt_eq, lineAt_eq]
  exact Nat.add_le_add_right ((List.take_prefix_take_left h).sublist.count_le _) 1

/-- **Bytes and text have the same lines.** The line of a byte is the line of the character that its
place in the decoded text has. -/
theorem lineAt_eq_lineOfOffset (source : Bytes) (n : Nat) :
    lineAt source n =
      lineOfOffset (Utf8.decode source) (some (Utf8.decode (source.take n)).length) := by
  rw [lineAt_eq, lineOfOffset_eq, Option.getD_some, Int.toNat_natCast,
    Utf8.count_newline_take_decode]
  rfl

/-- The line of a token is that of its first byte. -/
theorem line_of_token? {source : Bytes} {s : Span} {t : Token} (h : s.token? source = some t) :
    t.line = .number (lineAt source s.start) := by
  obtain ⟨kind, -, rfl⟩ := Option.map_eq_some_iff.mp h
  cases kind <;> rfl

theorem map_line_arenaOf (source : Bytes) (tree : Tree) :
    (arenaOf source tree).map Token.line =
      (tokenSpans source tree).map fun s => .number (lineAt source s.start) := by
  rw [arenaOf, tokenSpans, List.map_filterMap, ← List.filterMap_eq_map, List.filterMap_filter]
  refine List.filterMap_congr fun s _ => ?_
  rw [← isSome_token? source]
  cases htoken : s.token? source with
  | none => rfl
  | some t =>
    rw [Option.map_some, line_of_token? htoken]
    rfl

/-- Tokens are listed in the order of their lines. -/
theorem pairwise_line_arenaOf (source : Bytes) (tree : Tree) :
    (arenaOf source tree).Pairwise fun t u => t.line.value ≤ u.line.value := by
  rw [arenaOf, List.pairwise_filterMap]
  refine (pairwise_start_sourceSpans source tree).imp fun {s s'} hle t ht u hu => ?_
  rw [line_of_token? ht, line_of_token? hu]
  exact Int.ofNat_le.mpr (lineAt_mono source hle)

/-- **The two ways to number a line agree.** A source is refused if it holds a NUL byte, and
otherwise has an arena with one token for each of its token spans. The line of a token is one more
than the newlines before its first byte; before any byte of the source there are as many newlines as
before its place in the decoded text; and the lines of the tokens never go back. -/
theorem token_lines_agree (source : Bytes) (tree : Tree) :
    parse source (.answered (some tree)) =
      (if 0 ∈ source then .error .binary else .ok (arenaOf source tree, tree.hasError)) ∧
    (arenaOf source tree).map some = (tokenSpans source tree).map (Span.token? source) ∧
    (arenaOf source tree).map Token.line = (tokenSpans source tree).map (fun s =>
      .number (1 + (source.take s.start).count (byteOf '\n') : Nat)) ∧
    (∀ b, 1 + (source.take b).count (byteOf '\n') =
      lineOfOffset (Utf8.decode source) (some (Utf8.decode (source.take b)).length)) ∧
    (arenaOf source tree).Pairwise fun t u => t.line.value ≤ u.line.value := by
  have hline : ∀ b, lineAt source b = 1 + (source.take b).count (byteOf '\n') := fun b => by
    rw [lineAt_eq, Nat.add_comm]
  refine ⟨?_, map_some_arenaOf source tree, ?_, fun b => ?_, pairwise_line_arenaOf source tree⟩
  · by_cases hnul : 0 ∈ source <;> simp [parse, hnul]
  · simp only [map_line_arenaOf, hline]
  · rw [← hline, lineAt_eq_lineOfOffset]

end SqlInventory.Perl
