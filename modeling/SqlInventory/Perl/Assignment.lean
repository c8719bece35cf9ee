import SqlInventory.Perl.Token

/-!
# The variable that a token is assigned to

Within one statement, the nearest assignment operator to the left of a token decides; the target is
read off to the left of the operator. This is a reading of the tokens alone, not of the data flow:

* `my $sql = "…"` and `our ($q) = <<SQL` name `$sql` and `$q`;
* `$self->{sql} = "…"` names `$self`, and `my ($a, $b) = (1, "…")` names `$b`;
* `$dbh->do("…")` has no assignment operator and names nothing.

Both walks look at the tokens before a place in reverse order, so each is a `find?` on
`before arena i`.
-/

namespace SqlInventory.Perl

/-- The operators that assign. -/
def assignmentOperators : List Text := ["=", ".=", "||=", "//="]

/-- The tokens that end a statement or a block. -/
def statementBounds : List Text := [[';'], ['{'], ['}']]

/-- Whether a token ends a statement or a block. -/
def Token.isBound (t : Token) : Bool :=
  statementBounds.contains t.content

/-- Whether a token is an assignment operator. -/
def Token.isAssignment (t : Token) : Bool :=
  t.kind == .operator && assignmentOperators.contains t.content

/-- Whether a token stops the search for a target. -/
def Token.stopsTarget (t : Token) : Bool :=
  t.kind == .var || t.declarator.isSome || t.content == [',']

/-- Whether a token stops the search for a declared variable. -/
def Token.stopsDeclared (t : Token) : Bool :=
  t.content == [';'] || t.kind == .var

namespace Arena

/-- The tokens before place `i` with their places, the nearest first. -/
def before (arena : Arena) (i : Nat) : List (Token × Nat) :=
  (arena.take i).zipIdx.reverse

/-- The place of the assignment operator that governs place `i`: the nearest one to the left in the
same statement. -/
def assignmentBefore? (arena : Arena) (i : Nat) : Option Nat :=
  match (arena.before i).find? fun (t, _) => t.isBound || t.isAssignment with
  | some (t, j) => if t.isBound then none else some j
  | none => none

/-- The first variable behind place `k` in the same statement. -/
def declaredAfter? (arena : Arena) (k : Nat) : Option Text :=
  match (arena.drop (k + 1)).find? Token.stopsDeclared with
  | some t => if t.content == [';'] then none else some t.content
  | none => none

/-- The variable to the left of an assignment operator at place `j`: the nearest variable, or the
one that the nearest declarator declares, unless a comma is nearer. -/
def targetBefore? (arena : Arena) (j : Nat) : Option Text :=
  match (arena.before j).find? fun (t, _) => t.stopsTarget with
  | some (t, k) =>
    if t.kind == .var then some t.content
    else if t.declarator.isSome then arena.declaredAfter? k
    else none
  | none => none

/-- The variable that the token at place `i` is assigned to. -/
def target? (arena : Arena) (i : Nat) : Option Text :=
  match arena.assignmentBefore? i with
  | some j => arena.targetBefore? j
  | none => none

end Arena

end SqlInventory.Perl
