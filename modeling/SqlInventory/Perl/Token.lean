import SqlInventory.LineNumber

/-!
# Tokens and arenas

A source file is seen as an *arena*: its tokens in source order. A token's index is its place in
the arena, and walks go by index; tokens hold no references to each other.
-/

namespace SqlInventory.Perl

/-- The coarse classes of tokens. -/
inductive TokenKind where
  /-- A quoted literal. -/
  | literal
  /-- A here-document, seen at its opener. -/
  | heredoc
  /-- A variable with its sigil. -/
  | var
  /-- A bare word, possibly qualified by packages. -/
  | word
  /-- An operator, or any other leaf. -/
  | operator
  /-- A bracket, comma or semicolon. -/
  | delimiter
  deriving DecidableEq, Repr

/-- The words that declare a variable. -/
inductive Declarator where
  /-- `my` -/
  | my
  /-- `our` -/
  | our
  /-- `local` -/
  | localized
  /-- `state` -/
  | state
  deriving DecidableEq, Repr

/-- The word itself. -/
def Declarator.word : Declarator → Text
  | .my => "my"
  | .our => "our"
  | .localized => "local"
  | .state => "state"

/-- The declarator that a word is, if it is one. -/
def Declarator.ofWord? (t : Text) : Option Declarator :=
  [my, our, localized, state].find? fun d => d.word == t

/-- One token of an arena. -/
structure Token where
  /-- Its class. -/
  kind : TokenKind
  /-- Its text in the source, cut to the name if it is a variable. -/
  content : Text
  /-- The line on which it starts, counted from one. -/
  line : LineNumber := 1
  /-- The decoded value of a literal or the body of a here-document. -/
  value : Option Text := none
  /-- The declarator that it is, if it is one. -/
  declarator : Option Declarator := none
  deriving DecidableEq, Repr

/-- The decoded value if there is one, and the content otherwise. -/
def Token.text (t : Token) : Text :=
  t.value.getD t.content

/-- The tokens of a file in source order. -/
abbrev Arena : Type := List Token

namespace Arena

/-- The token at a place counted from the front, or from the end when `i` is negative. -/
def get? (arena : Arena) (i : Int) : Option Token :=
  if i < 0 then
    if 0 ≤ arena.length + i then arena[(arena.length + i).toNat]? else none
  else arena[i.toNat]?

/-- The token before place `i`. -/
def previous? (arena : Arena) (i : Int) : Except Unit (Option Token) :=
  if 0 < i then
    match get? arena (i - 1) with
    | some t => .ok (some t)
    | none => .error ()
  else .ok none

/-- The token behind place `i`. -/
def next? (arena : Arena) (i : Int) : Except Unit (Option Token) :=
  if i + 1 < arena.length then
    match get? arena (i + 1) with
    | some t => .ok (some t)
    | none => .error ()
  else .ok none

/-- The places of the tokens whose kind is one of `kinds`. -/
def placesOf (arena : Arena) (kinds : List TokenKind) : List Nat :=
  arena.zipIdx.filterMap fun (t, i) => if kinds.contains t.kind then some i else none

/-- The tokens of one kind, in order and with their places. -/
def ofKind (arena : Arena) (kind : TokenKind) : List (Token × Nat) :=
  arena.zipIdx.filter fun (t, _) => t.kind == kind

end Arena

end SqlInventory.Perl
