import SqlInventory.Audit.Finding
import SqlInventory.Audit.Vocabulary
import SqlInventory.Text.Matching

/-!
# Variables without an SQL literal

A variable that is used at a call, and to which no SQL literal of the file is assigned, is reported
once, at the first call that uses it. The report is a hint: a variable may well be filled in a way
that the audit does not see.
-/

namespace SqlInventory

/-- Recognises a scalar variable: a dollar sign and a whole identifier that does not go on with a
package separator. -/
def scalarRule : Recogniser Char Text := fun _ t =>
  match t with
  | '$' :: first :: rest =>
    if Text.startsIdentifier first then
      let more := rest.takeWhile Text.isWord
      if (rest.drop more.length).take 2 = [':', ':'] then none
      else some (more.length + 2, '$' :: first :: more)
    else none
  | _ => none

/-- The scalar variables of a context, in order. -/
def variablesIn (context : Text) : List Text :=
  (scalarRule.findAll context).map (·.value)

/-- The variables to which some literal is assigned. -/
def declaredVariables (findings : List Finding) : List Text :=
  findings.filterMap fun f => match f with
    | .literal l => l.target
    | _ => none

/-- The uses of variables at calls, in order of calls and then of places. -/
def variableUses (findings : List Finding) : List (Text × CallFinding) :=
  findings.flatMap fun f => match f with
    | .call c => (variablesIn c.context).map fun name => (name, c)
    | _ => []

/-- The first use of each variable, those in `seen` left out. -/
def firstUses : List Text → List (Text × CallFinding) → List (Text × CallFinding)
  | _, [] => []
  | seen, (name, c) :: rest =>
    if seen.contains name then firstUses seen rest
    else (name, c) :: firstUses (name :: seen) rest

/-- The variables that are used at a call without an SQL literal, in order of their first use. -/
def undeclaredVariables (v : Vocabulary) (findings : List Finding) : List UndeclaredFinding :=
  (firstUses (v.ignoredVariables ++ declaredVariables findings) (variableUses findings)).map
    fun (name, c) => { target := name, usedInLine := c.line, context := c.context }

end SqlInventory
