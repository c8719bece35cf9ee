import SqlInventory.Perl.Token
import SqlInventory.Text.Word

/-!
# What a stretch of source text is

A leaf of the syntax is classified by its text alone (`classify`), a literal is decoded by taking
off its quoting (`decodeLiteral`), and a variable is cut down to its name (`variableName`), so that
`$self->{sql}` is known as `$self`.

Names may be qualified by packages, as in `DBI::errstr`; `qualifiedLength` measures such a name and
serves bytes and characters alike.
-/

namespace SqlInventory.Perl

/-- How many elements the name at the front of a sequence takes: word elements, and pairs of colons
that have a word element behind them. -/
def qualifiedLength {α : Type} (isWord isColon : α → Bool) : List α → Nat
  | [] => 0
  | a :: rest =>
    if isWord a then 1 + qualifiedLength isWord isColon rest
    else match rest with
      | b :: c :: more =>
        if isColon a && isColon b && isWord c then
          2 + qualifiedLength isWord isColon (c :: more)
        else 0
      | _ => 0

/-- The length of the qualified name at the front of a text, zero if a word character does not come
first. -/
def nameLength (t : Text) : Nat :=
  if Text.isWordAt t.head? then qualifiedLength Text.isWord (· == ':') t else 0

/-- The characters that are tokens of their own. -/
def delimiters : List Char := [';', ',', '{', '}', '(', ')', '[', ']']

/-- Whether a text is a bare word. -/
def isBareWord (t : Text) : Bool :=
  t.head?.any Text.startsIdentifier && nameLength t == t.length

/-- The class of a leaf with text `t`, and the declarator that it is. -/
def classify (t : Text) : TokenKind × Option Declarator :=
  if delimiters.any fun d => t == [d] then (.delimiter, none)
  else if isBareWord t then (.word, Declarator.ofWord? t)
  else match t with
    | sigil :: _ :: _ =>
      if sigil = '$' || sigil = '@' || sigil = '%' then (.var, none) else (.operator, none)
    | _ => (.operator, none)

/-! ### Literals -/

/-- A quoting mark is any character that is neither a word character nor a blank. -/
def isMark (c : Char) : Bool :=
  !Text.isWord c && !Text.isBlank c

/-- A text without the quoting operator `q` or `qq` and the blanks behind it. -/
def afterQuoteOperator : Text → Text
  | 'q' :: 'q' :: rest => rest.dropWhile Text.isBlank
  | 'q' :: rest => rest.dropWhile Text.isBlank
  | t => t.dropWhile Text.isBlank

/-- A literal without its quoting: an optional `q` or `qq`, blanks, and a mark on either side.
A text that is not quoted so is its own value. -/
def decodeLiteral (t : Text) : Text :=
  match afterQuoteOperator t with
  | opening :: rest =>
    match rest.getLast? with
    | some closing => if isMark opening && isMark closing then rest.dropLast else t
    | none => t
  | [] => t

/-! ### Variables -/

/-- The length of a name in braces, such as `{name}` or `{^NAME}`. -/
def bracedLength? (t : Text) : Option Nat :=
  match t with
  | '{' :: rest =>
    let caret := if rest.head? == some '^' then 1 else 0
    let n := nameLength (rest.drop caret)
    if n ≠ 0 ∧ (rest.drop (caret + n)).head? = some '}' then some (caret + n + 2) else none
  | _ => none

/-- The length of what may follow a sigil: a name in braces, a name, or one mark. -/
def afterSigilLength? (t : Text) : Option Nat :=
  match bracedLength? t with
  | some n => some n
  | none =>
    let caret := if t.head? == some '^' then 1 else 0
    let n := nameLength (t.drop caret)
    if n ≠ 0 then some (caret + n)
    else if t.head?.any fun c => isMark c && c != '{' then some 1
    else none

/-- The length of the variable at the front of a text: a sigil, an optional `#`, and a name. -/
def variableLength? (t : Text) : Option Nat :=
  match t with
  | sigil :: rest =>
    if sigil = '$' || sigil = '@' || sigil = '%' || sigil = '&' then
      let counted := match rest with
        | '#' :: more => (afterSigilLength? more).map (· + 2)
        | _ => none
      match counted with
      | some n => some n
      | none => (afterSigilLength? rest).map (· + 1)
    else none
  | [] => none

/-- The name of the variable at the front of a text, or the whole text if there is none. -/
def variableName (t : Text) : Text :=
  match variableLength? t with
  | some n => t.take n
  | none => t

end SqlInventory.Perl
