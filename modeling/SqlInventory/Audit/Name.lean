import SqlInventory.Audit.Finding
import SqlInventory.Audit.Vocabulary

/-!
# Names of literals

A literal that is assigned to a variable is named after the variable, its line and what it does:
`sql_14_SELECT`.
-/

namespace SqlInventory

/-- A text without the sigils at its front. -/
def withoutSigils (t : Text) : Text :=
  t.dropWhile fun c => c = '$' || c = '@' || c = '%' || c = '&'

/-- A text without the braces around it. The closing brace is the last character or has one final
newline behind it, and there is no other newline. -/
def withoutBraces (t : Text) : Text :=
  match t with
  | '{' :: rest =>
    -- A newline at the very end is passed over and kept.
    let final := if rest.getLast? = some '\n' then ['\n'] else []
    let inner := if final.isEmpty then rest else rest.dropLast
    if inner.getLast? = some '}' && !inner.contains '\n' then inner.dropLast ++ final else t
  | _ => t

/-- A variable's name without sigils and braces: `sql` for `$sql` and for `${sql}`. -/
def bareVariable (t : Text) : Text :=
  withoutBraces (withoutSigils t)

/-- A line number in a name; a missing one is a question mark. -/
def linePart : Option LineNumber → Text
  | some n => n.text
  | none => "?"

/-- The name of a literal that is assigned to `target` on `line` and says `t`. -/
def nameOf (v : Vocabulary) (target : Text) (line : Option LineNumber) (t : Text) : Text :=
  bareVariable target ++ '_' :: (linePart line ++ '_' :: v.verbOf t)

/-- A literal with its name, if it is assigned to a variable. -/
def LiteralFinding.named (v : Vocabulary) (f : LiteralFinding) : LiteralFinding :=
  match f.target with
  | some target => { f with name := some (nameOf v target f.line f.snippet) }
  | none => f

/-- The findings with every literal named that is assigned to a variable. -/
def nameFindings (v : Vocabulary) (findings : List Finding) : List Finding :=
  findings.map fun f => match f with
    | .literal l => .literal (l.named v)
    | other => other

end SqlInventory
