import SqlInventory.Perl.Heredoc

/-!
# From source bytes to an arena

`parse` puts the parts together: the grammar's tree is flattened, gaps are filled, here-documents
are attached, and each remaining span becomes a token. A source with a NUL byte is not text and is
refused before the grammar is asked.
-/

namespace SqlInventory.Perl

/-- Why a source has no arena. -/
inductive Refusal where
  /-- The source holds a NUL byte. -/
  | binary
  /-- The grammar cannot be had, for the reason given. -/
  | grammarUnavailable (reason : Text)
  /-- The grammar gave no tree. -/
  | noTree
  deriving DecidableEq, Repr

/-- The reason in words. -/
def Refusal.message : Refusal → Text
  | .binary => "binary content"
  | .grammarUnavailable reason => "tree-sitter perl grammar unavailable: " ++ reason
  | .noTree => "parser returned no tree"

/-- What asking the grammar for a tree may give. -/
inductive GrammarAnswer where
  /-- The grammar cannot be had. -/
  | unavailable (reason : Text)
  /-- The grammar ran and gave a tree, or none. -/
  | answered (tree : Option Tree)
  deriving Repr

/-- How many newlines there are among the first `n` bytes, `found` added. -/
def newlinesBefore (found : Nat) : Nat → Bytes → Nat
  | 0, _ => found
  | _, [] => found
  | n + 1, b :: rest => newlinesBefore (if b == byteOf '\n' then found + 1 else found) n rest

/-- The line of an offset: one more than the newlines before it. -/
def lineAt (source : Bytes) (offset : Nat) : Nat :=
  newlinesBefore 1 offset source

theorem newlinesBefore_eq (found n : Nat) (source : Bytes) :
    newlinesBefore found n source = (source.take n).count (byteOf '\n') + found := by
  induction source generalizing found n with
  | nil => cases n <;> simp [newlinesBefore]
  | cons b rest ih =>
    cases n with
    | zero => simp [newlinesBefore]
    | succ n =>
      simp only [newlinesBefore, ih, List.take_succ_cons, List.count_cons]
      split <;> omega

theorem lineAt_eq (source : Bytes) (offset : Nat) :
    lineAt source offset = (source.take offset).count (byteOf '\n') + 1 :=
  newlinesBefore_eq 1 offset source

/-- The source text of a span. -/
def Span.text (source : Bytes) (span : Span) : Text :=
  Utf8.decode ((source.drop span.start).take (span.stop - span.start))

/-- The token of a span; a span that is merely covered has none. -/
def Span.token? (source : Bytes) (span : Span) : Option Token :=
  span.kind.map fun kind =>
    let content := span.text source
    let line := LineNumber.number (lineAt source span.start)
    match kind with
    | .literal => { kind, content, line, value := some (decodeLiteral content) }
    | .heredoc => { kind, content, line, value := span.value }
    | .var => { kind, content := variableName content, line }
    | _ =>
      let (kind, declarator) := classify content
      { kind, content, line, declarator }

/-- The spans of a source that its tree gives, with gaps filled and here-documents attached. -/
def sourceSpans (source : Bytes) (tree : Tree) : List Span :=
  attachHeredocs source (fillGaps source tree.root.spans)

/-- The arena of a source, given its tree. -/
def arenaOf (source : Bytes) (tree : Tree) : Arena :=
  (sourceSpans source tree).filterMap (Span.token? source)

/-- The arena of a source, given what the grammar answers for it, and whether the grammar had to
recover from an error. -/
def parse (source : Bytes) (answer : GrammarAnswer) : Except Refusal (Arena × Bool) :=
  if source.contains 0 then .error .binary
  else match answer with
    | .unavailable reason => .error (.grammarUnavailable reason)
    | .answered none => .error .noTree
    | .answered (some tree) => .ok (arenaOf source tree, tree.hasError)

end SqlInventory.Perl
