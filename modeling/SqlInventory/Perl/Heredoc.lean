import SqlInventory.Perl.Gap

/-!
# Here-documents

An opener such as `<<SQL`, `<<~"SQL"` or `<< 'SQL'` announces that the lines below its line, up to a
line that holds the marker alone, are one literal. Several openers on one line have their bodies
one after the other.

* `opener?` recognises an opener at the front of some bytes;
* `heredocBody?` finds the body that belongs to an opener;
* `attachHeredocs` gives every opener among the spans of a source its body and takes out the spans
  that lie in a body or that the opener swallows.

An opener inside a body is text, not an opener; the walk remembers the latest body, and `cursor`
keeps bodies from overlapping.
-/

namespace SqlInventory.Perl

/-! ### Openers -/

/-- A here-document opener. -/
structure Opener where
  /-- Whether the terminator may be indented. -/
  indented : Bool
  /-- The marker that ends the body. -/
  marker : Bytes
  /-- How many bytes the opener takes. -/
  length : Nat
  deriving DecidableEq, Repr

/-- The marker between two `quote`s behind blanks, and how many bytes it takes with them. -/
def quotedMarker? (quote : UInt8) (bytes : Bytes) : Option (Bytes × Nat) :=
  let blanks := (bytes.takeWhile isBlankByte).length
  match bytes.drop blanks with
  | [] => none
  | b :: rest =>
    let marker := rest.takeWhile (· != quote)
    if b == quote && marker.length < rest.length then
      some (marker, blanks + marker.length + 2)
    else none

/-- The marker of an opener: quoted, or a bare identifier without blanks before it. -/
def marker? (bytes : Bytes) : Option (Bytes × Nat) :=
  match quotedMarker? (byteOf '"') bytes with
  | some found => some found
  | none => match quotedMarker? (byteOf '\'') bytes with
    | some found => some found
    | none =>
      if bytes.head?.any startsIdentifierByte then
        let name := bytes.takeWhile isWordByte
        some (name, name.length)
      else none

/-- The opener at the front of some bytes. -/
def opener? (bytes : Bytes) : Option Opener :=
  if bytes.take 2 == [byteOf '<', byteOf '<'] then
    let indented := (bytes.drop 2).head? == some (byteOf '~')
    let taken := if indented then 3 else 2
    (marker? (bytes.drop taken)).map fun (marker, length) =>
      { indented, marker, length := taken + length }
  else none

/-! ### Bodies -/

/-- The lines of some bytes, each with its newline; only the last may have none. -/
def lines : Bytes → List Bytes
  | [] => []
  | b :: rest =>
    if b == byteOf '\n' then [b] :: lines rest
    else match lines rest with
      | [] => [[b]]
      | first :: others => (b :: first) :: others

/-- A line without its newline and the carriage returns before it. -/
def lineContent (line : Bytes) : Bytes :=
  let body := line.takeWhile (· != byteOf '\n')
  (body.reverse.dropWhile (· == byteOf '\r')).reverse

/-- A line without the blanks on either side. -/
def stripBytes (line : Bytes) : Bytes :=
  ((line.dropWhile isBlankByte).reverse.dropWhile isBlankByte).reverse

/-- Whether a line ends a here-document with this marker. -/
def isTerminator (marker : Bytes) (indented : Bool) (line : Bytes) : Bool :=
  let content := lineContent line
  (if indented then stripBytes content else content) == marker

/-- A here-document's body: where it starts and ends, and where its terminator line ends. -/
structure Body where
  /-- The offset of the first byte of the body. -/
  start : Nat
  /-- The offset behind the last byte of the body. -/
  stop : Nat
  /-- The offset behind the terminator line. -/
  resume : Nat
  deriving DecidableEq, Repr

/-- The terminator among some lines of which the first starts at `place`: where it starts and
where it ends. -/
def terminator? (marker : Bytes) (indented : Bool) : Nat → List Bytes → Option (Nat × Nat)
  | _, [] => none
  | place, line :: rest =>
    if isTerminator marker indented line then some (place, place + line.length)
    else terminator? marker indented (place + line.length) rest

/-- The offset of the first newline at or behind `start`. -/
def newlineFrom? (source : Bytes) (start : Nat) : Option Nat :=
  ((source.drop start).findIdx? (· == byteOf '\n')).map (start + ·)

/-- The body of a here-document whose opener ends at `openerStop`, on the lines below that offset
and not before `cursor`. It ends before the first line that is the marker, or else with the
source. -/
def heredocBody? (source marker : Bytes) (indented : Bool) (openerStop cursor : Nat) :
    Option Body :=
  (newlineFrom? source openerStop).map fun newline =>
    let start := max (newline + 1) cursor
    match terminator? marker indented start (lines (source.drop start)) with
    | some (stop, resume) => ⟨start, stop, resume⟩
    | none => ⟨start, source.length, source.length⟩

/-! ### Attaching bodies to openers -/

/-- What the walk over the spans has found so far. -/
structure Attachment where
  /-- The ranges whose spans are to be left out. -/
  skips : List (Nat × Nat) := []
  /-- Where the next body may start. -/
  cursor : Nat := 0
  /-- The range of the latest body, its terminator included. -/
  body : Nat × Nat := (0, 0)
  deriving DecidableEq, Repr

/-- Whether a span may be the opener of a here-document. -/
def Span.mayOpen (span : Span) : Bool :=
  span.kind == some .heredoc || span.kind == some .operator

/-- One step of the walk: the span as it is kept, and what is found after it. -/
def attachStep (source : Bytes) (found : Attachment) (span : Span) : Span × Attachment :=
  if !span.mayOpen || (found.body.1 ≤ span.start && span.start < found.body.2) then (span, found)
  else match opener? (source.drop span.start) with
    | none => (span, found)
    | some opener =>
      let openerStop := span.start + opener.length
      -- The grammar may end its node inside the opener; the opener then takes in the rest.
      let stop := max span.stop openerStop
      let swallowed := if span.stop < openerStop then [(span.stop, openerStop)] else []
      match heredocBody? source opener.marker opener.indented stop found.cursor with
      | none =>
        ({ span with stop, kind := some .heredoc },
          { found with skips := found.skips ++ swallowed })
      | some body =>
        ({ span with
            stop
            kind := some .heredoc
            value := some (Utf8.decode ((source.drop body.start).take (body.stop - body.start))) },
          { skips := found.skips ++ swallowed ++ [(body.start, body.resume)]
            cursor := body.resume
            body := (body.start, body.resume) })

/-- The walk over all spans. -/
def attachFrom (source : Bytes) : Attachment → List Span → List Span × Attachment
  | found, [] => ([], found)
  | found, span :: rest =>
    let (kept, next) := attachStep source found span
    let (others, last) := attachFrom source next rest
    (kept :: others, last)

/-- Ranges in order of their starts, and of their ends where the starts are equal. -/
def rangeAtMost (a b : Nat × Nat) : Bool :=
  decide (a.1 < b.1) || (a.1 == b.1 && decide (a.2 ≤ b.2))

/-- Whether an offset lies in the last of some ranges in order that starts at or before it. -/
def inLastRange (ranges : List (Nat × Nat)) (offset : Nat) : Bool :=
  -- Ranges may overlap; an earlier one that reaches further is not asked.
  match (ranges.filter fun r => r.1 ≤ offset).getLast? with
  | some range => offset < range.2
  | none => false

/-- The spans of a source with here-document bodies attached to their openers. -/
def attachHeredocs (source : Bytes) (spans : List Span) : List Span :=
  let (kept, found) := attachFrom source {} spans
  let skips := found.skips.mergeSort rangeAtMost
  kept.filter fun span => !inLastRange skips span.start

end SqlInventory.Perl
