import SqlInventory.Command.EmojiTable
import SqlInventory.Text.Case
import SqlInventory.Text.Matching

/-!
# Emoji written by name

In a message for the terminal a name between colons, such as `:smile:`, stands for an emoji. Between
the colons there is no blank, and capitals count as small letters. A name may end in `-text` or
`-emoji`, which asks for the plain or for the coloured form. A name that no emoji has is left as it
is written.
-/

namespace SqlInventory.Emoji

/-- The emoji that goes by a name. -/
def named? (name : Text) : Option Text :=
  emojiRows.findSome? fun row =>
    match Text.splitAtChar ' ' row.toList with
    | emoji :: names => if names.contains name then some emoji else none
    | [] => none

/-- The endings that ask for a form, and the character behind the emoji that gives it. -/
def forms : List (Text × Char) :=
  [("-emoji", '\uFE0F'), ("-text", '\uFE0E')]

/-- What is shown for the text between two colons. -/
def shownFor? (code : Text) : Option Text :=
  match forms.find? fun form => form.1.isSuffixOf code with
  | some (ending, mark) =>
    (named? (Text.lower (code.take (code.length - ending.length)))).map (· ++ [mark])
  | none => named? (Text.lower code)

/-- Recognises a text between colons and gives what is shown for it. -/
def coded : Recogniser Char Text := fun _ t =>
  match t with
  | ':' :: rest =>
    let code := rest.takeWhile fun c => c != ':' && !Text.isBlank c
    if (rest.drop code.length).head? == some ':' then
      some (code.length + 2, (shownFor? code).getD (':' :: code ++ [':']))
    else none
  | _ => none

/-- A text with emoji in the place of their names. -/
def replaceNames (t : Text) : Text :=
  coded.replaceAll t

end SqlInventory.Emoji
