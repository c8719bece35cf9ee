import SqlInventory.Perl.Lexeme
import SqlInventory.Perl.Tree
import SqlInventory.Text.Matching
import SqlInventory.Text.Utf8

/-!
# Filling the gaps between spans

The grammar hides some text, the statement terminator above all. The bytes between its spans are
therefore read again: blanks and comments are passed over, and all else becomes tokens, so that in
the end every byte that is neither blank nor comment is covered.

Every byte of a gap belongs to exactly one lexeme. The reading of bytes is that of ASCII: a byte
beyond ASCII is a token of its own.
-/

namespace SqlInventory.Perl

/-! ### Classes of bytes -/

/-- The byte of an ASCII character. -/
def byteOf (c : Char) : UInt8 := UInt8.ofNat c.toNat

/-- The ASCII blanks. -/
def isBlankByte (b : UInt8) : Bool :=
  (9 ≤ b.toNat && b.toNat ≤ 13) || b.toNat == 32

/-- ASCII letters and the underscore. -/
def startsIdentifierByte (b : UInt8) : Bool :=
  (65 ≤ b.toNat && b.toNat ≤ 90) || (97 ≤ b.toNat && b.toNat ≤ 122) || b.toNat == 95

/-- ASCII letters, digits and the underscore. -/
def isWordByte (b : UInt8) : Bool :=
  startsIdentifierByte b || (48 ≤ b.toNat && b.toNat ≤ 57)

/-- The length of the qualified name at the front of some bytes. -/
def nameLengthBytes (bytes : Bytes) : Nat :=
  qualifiedLength isWordByte (· == byteOf ':') bytes

/-! ### Lexemes of a gap -/

/-- Operators of several characters in the order in which they are tried, and the plain
assignment. -/
def gapOperators : List Bytes :=
  (["=>", "->", "==", "!=", "<=", ">=", "=~", "!~", "&&", "||=", "//=",
    ".=", "+=", "-=", "*=", "/=", "|=", "&=", "="] : List String).map
      fun op => op.toList.map byteOf

/-- The length of the token at the front of some bytes that start with no blank. -/
def gapTokenLength (bytes : Bytes) : Nat :=
  match bytes with
  | [] => 0
  | b :: rest =>
    if (b == byteOf '$' || b == byteOf '@' || b == byteOf '%') &&
        rest.head?.any startsIdentifierByte then
      1 + nameLengthBytes rest
    else if startsIdentifierByte b then nameLengthBytes bytes
    else match gapOperators.find? fun op => op.isPrefixOf bytes with
      | some op => op.length
      | none => 1

/-- The lexemes of a gap: blanks and comments, which are no tokens, and tokens. -/
def gapLexeme : Recogniser UInt8 Bool := fun _ bytes =>
  match bytes with
  | [] => none
  | b :: rest =>
    if isBlankByte b then some ((bytes.takeWhile isBlankByte).length, false)
    else if b == byteOf '#' then
      some (1 + (rest.takeWhile (· != byteOf '\n')).length, false)
    else some (gapTokenLength bytes, true)

/-- The tokens between two offsets of a source. -/
def gapSpans (source : Bytes) (start stop : Nat) : List Span :=
  (Recogniser.findAll gapLexeme ((source.drop start).take (stop - start))).filterMap fun m =>
    if m.value then
      some { start := start + m.start, stop := start + m.stop, kind := some .operator }
    else none

/-! ### Filling -/

/-- The spans, in order of their starts, with the tokens of the gaps put between them; the bytes
before `reached` are covered already. -/
def fillFrom (source : Bytes) : Nat → List Span → List Span
  | reached, [] => gapSpans source reached source.length
  | reached, span :: rest =>
    -- Spans may overlap, so what is covered never shrinks.
    gapSpans source reached span.start ++ span ::
      fillFrom source (max reached span.stop) rest

/-- All spans of a source: those given, in order of their starts, and the tokens of the gaps. -/
def fillGaps (source : Bytes) (spans : List Span) : List Span :=
  fillFrom source 0 (spans.mergeSort fun a b => a.start ≤ b.start)

end SqlInventory.Perl
