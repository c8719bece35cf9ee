import SqlInventory.Audit.Finding
import SqlInventory.Audit.Snippet
import SqlInventory.Audit.Vocabulary
import SqlInventory.Perl.Assignment

/-!
# Literals that read like SQL

The quoted literals of an arena come first, in source order, then its here-documents. Each is
reported with the variable that it is assigned to.
-/

namespace SqlInventory

open Perl

/-- The finding for the literal token `t` at place `i`. -/
def literalFinding (v : Vocabulary) (arena : Arena) (form : LiteralForm) (t : Token) (i : Nat) :
    LiteralFinding where
  form := form
  line := some t.line
  snippet := snippet t.text v.snippetLimit
  target := arena.target? i
  statement := t.text

/-- The findings for the SQL literals of one form, whose tokens are of `kind`. -/
def literalsOf (v : Vocabulary) (arena : Arena) (kind : TokenKind) (form : LiteralForm) :
    List LiteralFinding :=
  (arena.ofKind kind).filterMap fun (t, i) =>
    if v.isSql t.text then some (literalFinding v arena form t i) else none

/-- The findings for the SQL literals of an arena. -/
def sqlLiterals (v : Vocabulary) (arena : Arena) : List LiteralFinding :=
  literalsOf v arena .literal .string ++ literalsOf v arena .heredoc .heredoc

end SqlInventory
