import SqlInventory.Audit.Call
import SqlInventory.Audit.Inline
import SqlInventory.Audit.Literal
import SqlInventory.Audit.Name
import SqlInventory.Audit.Undeclared
import SqlInventory.Perl.Source

/-!
# The audit of one file

The findings of a file are its SQL literals and its calls, without the literals that a call shows,
with names, and then the variables that lack an SQL literal.
-/

namespace SqlInventory

open Perl

/-- The literals and calls of a file, before any is left out. -/
def located (v : Vocabulary) (content : Text) (arena : Arena) : List Finding :=
  (sqlLiterals v arena).map .literal ++ (callSites v content).map .call

/-- The findings of a file, given its text and its arena. -/
def scanArena (v : Vocabulary) (content : Text) (arena : Arena) : List Finding :=
  let kept := nameFindings v (deduplicate (located v content arena))
  kept ++ (undeclaredVariables v kept).map .undeclared

/-- The findings of a source, given what the grammar answers for it. -/
def scanSource (v : Vocabulary) (source : Bytes) (answer : GrammarAnswer) :
    Except Refusal (List Finding) :=
  (parse source answer).map fun (arena, _) => scanArena v (Utf8.decode source) arena

end SqlInventory
