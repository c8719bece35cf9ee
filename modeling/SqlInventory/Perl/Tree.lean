import SqlInventory.Perl.Token

/-!
# The grammar's tree, flattened into spans

The grammar is a parameter of this library: it gives a tree whose nodes name a rule and a range of
byte offsets. Flattening keeps literals, here-document openers and variables whole, marks comments
and the like as covered without being tokens, and otherwise descends to the leaves. Nodes without
extent are left out, whatever is below them.
-/

namespace SqlInventory.Perl

/-- A node of the grammar's tree. -/
inductive Node where
  /-- The rule, the offsets of the first byte and of the byte behind the last, and the nodes
  below. -/
  | mk (rule : Text) (start stop : Nat) (children : List Node)
  deriving Repr

/-- The answer of the grammar for a source. -/
structure Tree where
  /-- The root node. -/
  root : Node
  /-- Whether the grammar had to recover from an error. -/
  hasError : Bool := false
  deriving Repr

/-- A range of source bytes. -/
structure Span where
  /-- The offset of the first byte. -/
  start : Nat
  /-- The offset behind the last byte. -/
  stop : Nat
  /-- The kind of the token, or nothing for a range that is covered without being a token. -/
  kind : Option TokenKind
  /-- The body of a here-document. -/
  value : Option Text := none
  deriving DecidableEq, Repr

namespace Node

/-- Rules whose range is covered but holds no token. -/
def coveredRules : List Text :=
  ["comment", "pod", "heredoc_content", "__DATA__", "__END__"]

/-- Rules whose range is one token, whatever is below. -/
def wholeRules : List (Text × TokenKind) :=
  [("string_literal", .literal), ("interpolated_string_literal", .literal),
    ("heredoc_token", .heredoc), ("command_heredoc_token", .operator),
    ("scalar", .var), ("array", .var), ("hash", .var), ("arraylen", .var), ("glob", .var),
    ("container_variable", .var), ("slice_container_variable", .var),
    ("keyval_container_variable", .var)]

/-- The kind of token that a rule stands for as a whole. -/
def wholeKind? (rule : Text) : Option TokenKind :=
  (wholeRules.find? fun entry => entry.1 == rule).map (·.2)

mutual

/-- The spans of a node, from left to right. -/
def spans : Node → List Span
  | .mk rule start stop children =>
    if stop ≤ start then []
    else if coveredRules.contains rule then [{ start, stop, kind := none }]
    else match wholeKind? rule with
      | some kind => [{ start, stop, kind := some kind }]
      | none =>
        match children with
        | [] => [{ start, stop, kind := some .operator }]
        | first :: others => spans first ++ spansOfAll others

/-- The spans of some nodes, one node after the other. -/
def spansOfAll : List Node → List Span
  | [] => []
  | node :: others => spans node ++ spansOfAll others

end

end Node

end SqlInventory.Perl
