import SqlInventory.Audit.Finding
import SqlInventory.Text.Case
import SqlInventory.Text.Matching

/-!
# Literals already seen at a call

A literal that is passed to a call inline is seen twice: as a literal, and within the context of
the call. The copy is left out if it is assigned to nothing and some call shows it, either as a
quoted stretch of its context that is the same when compared loosely (`comparable`), or as a stretch
of its context when case is ignored. A literal that is assigned to a variable always stays.

Whether a literal is shown depends on the literal and on the contexts alone, so the rule is a
filter.
-/

namespace SqlInventory

/-- A text as it is compared: on one line, in small letters, without the brackets and quotes around
it. -/
def comparable (t : Text) : Text :=
  let small := Text.lower (Text.collapse (Text.strip t))
  let opened := small.dropWhile fun c => c = '(' || c = '[' || c = '"' || c = '\''
  Text.dropTrailing (fun c => c = ')' || c = ']' || c = '"' || c = '\'') opened

/-- Recognises a stretch in single or in double quotes and gives its inside. -/
def quotedRule : Recogniser Char Text := fun _ t =>
  match t with
  | quote :: rest =>
    if quote = '\'' || quote = '"' then
      let inside := rest.takeWhile (· != quote)
      if inside.length < rest.length then some (inside.length + 2, inside) else none
    else none
  | [] => none

/-- The insides of the quoted stretches of a context, empty ones left out. -/
def quotedStretches (context : Text) : List Text :=
  (quotedRule.findAll context).filterMap fun m => if m.value.isEmpty then none else some m.value

/-- Whether a context shows a literal with this snippet. -/
def shows (literal context : Text) : Bool :=
  let same := comparable literal
  (!same.isEmpty && (quotedStretches context).any fun q => comparable q == same) ||
    Text.occursIn (Text.lower literal) (Text.lower context)

/-- The contexts of the calls among some findings, empty ones left out. -/
def callContexts (findings : List Finding) : List Text :=
  findings.filterMap fun f => match f with
    | .call c => if c.context.isEmpty then none else some c.context
    | _ => none

/-- Whether a finding is a literal that is assigned to nothing and that a context shows. -/
def isShown (contexts : List Text) (f : Finding) : Bool :=
  match f with
  | .literal l => l.target.isNone && contexts.any (shows l.snippet)
  | _ => false

/-- The findings without the literals that a call among them shows. -/
def deduplicate (findings : List Finding) : List Finding :=
  findings.filter fun f => !isShown (callContexts findings) f

end SqlInventory
