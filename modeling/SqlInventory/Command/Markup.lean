import SqlInventory.Command.Emoji
import SqlInventory.Command.Style
import SqlInventory.Command.Styled
import SqlInventory.Failure

/-!
# Markup in messages

A message for the terminal may hold tags, such as `[warning]` before a stretch and `[/warning]`
behind it. A tag is a bracket, a small letter or one of three signs, and the rest up to the closing
bracket. `[/warning]` closes the latest open tag of that name, and `[/]` the latest of all; a tag
that closes nothing is an error. Of backslashes before a tag every two stand for one, and one that
is left over makes the tag plain text. Tags are not shown, and between tags emoji may be written by
name.
-/

namespace SqlInventory

/-- What is wrong with the markup of a message. -/
inductive MarkupError where
  /-- No tag of this name is open. -/
  | unmatched (tag : Text) (position : Nat)
  /-- No tag is open. -/
  | nothingOpen (position : Nat)
  /-- A colour has a part that is no number. -/
  | notNumber (part : Text)
  deriving DecidableEq, Repr

/-- The failure that an error is. -/
def MarkupError.failure : MarkupError → Failure
  | .unmatched tag position =>
    .markup ("closing tag '" ++ tag ++ "' at position " ++ Text.ofNat position ++
      " doesn't match any open tag")
  | .nothingOpen position =>
    .markup ("closing tag '[/]' at position " ++ Text.ofNat position ++ " has nothing to close")
  | .notNumber part =>
    .outOfRange ("invalid literal for int() with base 10: " ++ Text.quoted part)

namespace Markup

/-- Whether a character can start a tag. -/
def startsTag (c : Char) : Bool :=
  ('a' ≤ c && c ≤ 'z') || c == '#' || c == '/' || c == '@'

/-- Recognises a tag, and gives the number of backslashes before it and its content. -/
def tag : Recogniser Char (Nat × Text) := fun _ t =>
  let backslashes := (t.takeWhile (· == '\\')).length
  match t.drop backslashes with
  | '[' :: c :: rest =>
    let inside := rest.takeWhile fun d => d != '[' && d != ']'
    if startsTag c && (rest.drop inside.length).head? == some ']' then
      some (backslashes + inside.length + 3, (backslashes, c :: inside))
    else none
  | _ => none

/-- A stretch of a message: text that is shown, or a tag at a position. -/
inductive Piece where
  /-- Text. -/
  | plain (text : Text)
  /-- A tag. -/
  | tag (position : Nat) (content : Text)
  deriving DecidableEq, Repr

/-- The pieces of a tag with the backslashes before it. -/
def piecesOf (m : Match (Nat × Text)) : List Piece :=
  let (backslashes, content) := m.value
  let shown := Piece.plain (Text.fill (backslashes / 2) '\\')
  if backslashes % 2 = 1 then [shown, .plain (['['] ++ content ++ [']'])]
  else [shown, .tag (m.start + backslashes) content]

/-- The pieces of a message from the place `reached` on, given the tags from there on. -/
def piecesFrom (message : Text) : Nat → List (Match (Nat × Text)) → List Piece
  | reached, [] => [.plain (message.drop reached)]
  | reached, m :: rest =>
    .plain ((message.drop reached).take (m.start - reached)) ::
      (piecesOf m ++ piecesFrom message m.stop rest)

/-- The pieces of a message. -/
def pieces (message : Text) : List Piece :=
  piecesFrom message 0 (tag.findAll message)

/-- Recognises a bracket behind a backslash and gives the bracket alone. -/
def bracket : Recogniser Char Text := fun _ t =>
  match t with
  | '\\' :: '[' :: _ => some (2, ['['])
  | _ => none

/-- Whether a character controls the terminal and is never shown. -/
def isControl (c : Char) : Bool :=
  [7, 8, 11, 12, 13].contains c.toNat

/-- Text that is no tag as it is shown. -/
def plainShown (t : Text) : Text :=
  (Emoji.replaceNames (bracket.replaceAll t)).filter fun c => !isControl c

/-- The name by which the style of a tag is known. -/
def styleName (t : Text) : Except MarkupError Text :=
  (Style.normalName t).mapError .notNumber

/-- The tags left open by a closing tag of this name, and where the one that it closes was opened. A
tag without a name closes the latest. -/
def close (position : Nat) (content name : Text) (opened : List (Text × Nat)) :
    Except MarkupError (Nat × List (Text × Nat)) :=
  if (Text.strip name).isEmpty then
    match opened with
    | [] => .error (.nothingOpen position)
    | (_, start) :: others => .ok (start, others)
  else do
    let meant ← styleName name
    match opened.find? fun tag => tag.1 == meant with
    | some (_, start) => .ok (start, opened.eraseP fun tag => tag.1 == meant)
    | none => .error (.unmatched (['['] ++ content ++ [']']) position)

/-- What is shown when `pieces` come behind `before`. Open tags stand with the places where they
were opened, the latest first. -/
def shownFrom (before : Styled) (opened : List (Text × Nat)) :
    List Piece → Except MarkupError Styled
  | [] =>
    let unclosed := opened.map fun (_, start) => (start, before.text.length)
    .ok { before with spans := before.spans ++ unclosed }
  | .plain t :: rest => shownFrom { before with text := before.text ++ plainShown t } opened rest
  | .tag position content :: rest =>
    let here := before.text.length
    match content.takeWhile (· != '=') with
    | '/' :: name =>
      match close position content name opened with
      | .ok (start, others) =>
        shownFrom { before with spans := before.spans ++ [(start, here)] } others rest
      | .error e => .error e
    | name =>
      match styleName name with
      | .ok meant => shownFrom before ((meant, here) :: opened) rest
      | .error e => .error e

/-- What is shown of a message. -/
def shown (message : Text) : Except MarkupError Styled :=
  shownFrom ⟨[], []⟩ [] (pieces message)

end Markup

end SqlInventory
