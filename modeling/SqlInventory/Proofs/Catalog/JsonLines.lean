import SqlInventory.Catalog.Render
import SqlInventory.Proofs.Catalog.AssignedIds
import SqlInventory.Proofs.Catalog.MarkersTaken
import SqlInventory.Proofs.Json.CompactReading

/-!
# Every statement has its line

A catalog in JSON Lines has one line for each statement, and from the line the statement can be read
back. Ids, statements and details may hold any characters, those that end lines among them:

* `splitLines` divides a text wherever a reader might see the end of a line, be it a line feed, one
  of the separators or a character beyond ASCII;
* `WellFormed.printable`: a value on one line is written in printable ASCII, so no such place is
  within it. Numbers are numerals, texts are escaped, and the rest are brackets and separators;
* `splitLines_flatMap`: so the lines of a catalog are those that were written;
* `holdsStatements_jsonLines`: and each of them is read back.
-/

namespace SqlInventory

/-! ### Lines -/

namespace Text

/-- The characters at which lines end: the controls from line feed to carriage return, three of the
information separators, the next-line control, and the separators of lines and paragraphs. -/
def isLineBoundary (c : Char) : Bool :=
  let n := c.toNat
  (10 ≤ n && n ≤ 13) || (28 ≤ n && n ≤ 30) || n == 0x85 || n == 0x2028 || n == 0x2029

/-- The lines of a text, without what ends them. A carriage return and a line feed behind it end one
line, and no line starts at the end of the text. -/
def splitLines : Text → List Text
  | [] => []
  | '\r' :: '\n' :: rest => [] :: splitLines rest
  | c :: rest =>
    if isLineBoundary c then [] :: splitLines rest
    else match splitLines rest with
      | [] => [[c]]
      | line :: lines => (c :: line) :: lines

/-- The lines of a text that does not start with a carriage return. -/
theorem splitLines_cons {c : Char} (hc : c ≠ '\r') (rest : Text) :
    splitLines (c :: rest) =
      if isLineBoundary c then [] :: splitLines rest
      else match splitLines rest with
        | [] => [[c]]
        | line :: lines => (c :: line) :: lines := by
  rw [splitLines]
  intro _ hreturn _
  exact hc hreturn

/-- A line without boundaries is taken off the front. -/
theorem splitLines_append_newline {line : Text} (h : ∀ c ∈ line, isLineBoundary c = false)
    (rest : Text) : splitLines (line ++ '\n' :: rest) = line :: splitLines rest := by
  induction line with
  | nil => exact splitLines_cons (by decide) rest
  | cons c line ih =>
    have hc := h c List.mem_cons_self
    have hreturn : c ≠ '\r' := by
      rintro rfl
      exact absurd hc (by decide)
    rw [List.cons_append, splitLines_cons hreturn, hc,
      ih fun d hd => h d (List.mem_cons_of_mem c hd)]
    rfl

/-- Lines without boundaries that each end with a line feed are the lines of the text. -/
theorem splitLines_flatMap {lines : List Text}
    (h : ∀ line ∈ lines, ∀ c ∈ line, isLineBoundary c = false) :
    splitLines (lines.flatMap (· ++ ['\n'])) = lines := by
  induction lines with
  | nil => rfl
  | cons line lines ih =>
    rw [List.flatMap_cons, List.append_assoc, List.singleton_append,
      splitLines_append_newline (h line List.mem_cons_self),
      ih fun other hother => h other (List.mem_cons_of_mem line hother)]

end Text

/-! ### Printable characters -/

/-- The characters of printable ASCII. -/
def IsPrintable (c : Char) : Prop :=
  32 ≤ c.toNat ∧ c.toNat < 127

instance (c : Char) : Decidable (IsPrintable c) :=
  inferInstanceAs (Decidable (_ ∧ _))

theorem IsPrintable.not_isLineBoundary {c : Char} (h : IsPrintable c) :
    Text.isLineBoundary c = false := by
  obtain ⟨hlow, hhigh⟩ := h
  simp only [Text.isLineBoundary, Bool.or_eq_false_iff, Bool.and_eq_false_iff,
    decide_eq_false_iff_not, beq_eq_false_iff_ne]
  omega

theorem isPrintable_of_isDigit {c : Char} (h : c.isDigit = true) : IsPrintable c := by
  have hlow : '0'.toNat ≤ c.toNat := (Char.isDigit_iff_toNat.mp h).1
  have hhigh : c.toNat ≤ '9'.toNat := (Char.isDigit_iff_toNat.mp h).2
  exact ⟨le_trans (by decide) hlow, lt_of_le_of_lt hhigh (by decide)⟩

namespace Json

open Text

theorem Numeral.IsProper.printable {n : Numeral} (h : n.IsProper) {c : Char} (hc : c ∈ n.text) :
    IsPrintable c := by
  rcases List.mem_append.mp hc with hc | hc
  · rcases List.mem_append.mp hc with hc | hc
    · exact isPrintable_of_isDigit (h.whole c hc)
    · unfold fractionText at hc
      split at hc
      · cases hc
      · rcases List.mem_cons.mp hc with rfl | hc
        · decide
        · exact isPrintable_of_isDigit (h.fraction c hc)
  · cases hexponent : n.exponent with
    | none =>
      rw [hexponent] at hc
      cases hc
    | some e =>
      obtain ⟨negative, digits⟩ := e
      rw [hexponent] at hc
      rcases List.mem_cons.mp hc with rfl | hc
      · decide
      · rcases List.mem_cons.mp hc with rfl | hc
        · cases negative <;> decide
        · exact isPrintable_of_isDigit ((h.exponent negative digits hexponent).2 c hc)

theorem isPrintable_of_mem_numberText {d : Double} (h : d.IsCanonical) {c : Char}
    (hc : c ∈ numberText d) : IsPrintable c := by
  cases d with
  | undefined =>
    have hword : ∀ c ∈ numberText .undefined, IsPrintable c := by decide
    exact hword c hc
  | infinite negative =>
    have hword : ∀ negative, ∀ c ∈ numberText (.infinite negative), IsPrintable c := by decide
    exact hword negative c hc
  | finite negative significand exponent =>
    obtain ⟨n, hproper, -, htext, -⟩ := exists_numeral_numberText h
    rw [htext] at hc
    rcases List.mem_append.mp hc with hc | hc
    · have hsign : ∀ negative, ∀ c ∈ signText negative, IsPrintable c := by decide
      exact hsign negative c hc
    · exact hproper.printable hc

theorem isPrintable_of_mem_ofInt {n : Int} {c : Char} (hc : c ∈ ofInt n) : IsPrintable c := by
  cases n with
  | ofNat n => exact isPrintable_of_isDigit (isDigit_of_mem_ofNat hc)
  | negSucc n =>
    rcases List.mem_cons.mp hc with rfl | hc
    · decide
    · exact isPrintable_of_isDigit (isDigit_of_mem_ofNat hc)

theorem isPrintable_of_mem_unitEscape {n : Nat} (h : n < 0x10000) {c : Char}
    (hc : c ∈ unitEscape n) : IsPrintable c := by
  have htable : ∀ n : Fin 16, IsPrintable n.val.digitChar := by decide
  have hdigit : ∀ {m : Nat}, m < 16 → IsPrintable m.digitChar := fun {m} hm => htable ⟨m, hm⟩
  rw [unitEscape, hex_four h] at hc
  simp only [List.mem_append, List.mem_cons, List.not_mem_nil, or_false] at hc
  rcases hc with hc | rfl | rfl | rfl | rfl
  · have hmark : ∀ c ∈ "\\u".toList, IsPrintable c := by decide
    exact hmark c hc
  · exact hdigit (by omega)
  · exact hdigit (by omega)
  · exact hdigit (by omega)
  · exact hdigit (by omega)

/-- Any character is written in printable ones. -/
theorem isPrintable_of_mem_escapeChar {d c : Char} (hc : c ∈ escapeChar d) : IsPrintable c := by
  have hvalid : d.toNat < 0xD800 ∨ 0xDFFF < d.toNat ∧ d.toNat < 0x110000 := d.valid
  have hshort : ∀ letter : Char, IsPrintable letter → ∀ c ∈ ['\\', letter], IsPrintable c := by
    intro letter hletter c hc
    rcases List.mem_cons.mp hc with rfl | hc
    · decide
    · rw [List.mem_singleton.mp hc]
      exact hletter
  unfold escapeChar at hc
  split_ifs at hc with hquote hslash hfeed hreturn htab hback hform hplain hunit
  · exact hshort _ (by decide) c hc
  · exact hshort _ (by decide) c hc
  · exact hshort _ (by decide) c hc
  · exact hshort _ (by decide) c hc
  · exact hshort _ (by decide) c hc
  · exact hshort _ (by decide) c hc
  · exact hshort _ (by decide) c hc
  · rw [List.mem_singleton.mp hc]
    exact hplain
  · exact isPrintable_of_mem_unitEscape hunit hc
  · rcases List.mem_append.mp hc with hc | hc
    · exact isPrintable_of_mem_unitEscape (by omega) hc
    · exact isPrintable_of_mem_unitEscape (by omega) hc

theorem isPrintable_of_mem_stringText {t : Text} {c : Char} (hc : c ∈ stringText t) :
    IsPrintable c := by
  rcases List.mem_append.mp hc with hc | hc
  · rcases List.mem_append.mp hc with hc | hc
    · rw [List.mem_singleton.mp hc]
      decide
    · obtain ⟨d, -, hc⟩ := List.mem_flatMap.mp hc
      exact isPrintable_of_mem_escapeChar hc
  · rw [List.mem_singleton.mp hc]
    decide

/-- What is joined is made of the parts and of what stands between them. -/
theorem mem_joinWith {sep : Text} {parts : List Text} {c : Char} (hc : c ∈ joinWith sep parts) :
    c ∈ sep ∨ ∃ part ∈ parts, c ∈ part := by
  induction parts with
  | nil => cases hc
  | cons part parts ih =>
    cases parts with
    | nil => exact Or.inr ⟨part, List.mem_cons_self, by simpa [joinWith] using hc⟩
    | cons other parts =>
      rw [joinWith_cons_cons] at hc
      rcases List.mem_append.mp hc with hc | hc
      · rcases List.mem_append.mp hc with hc | hc
        · exact Or.inr ⟨part, List.mem_cons_self, hc⟩
        · exact Or.inl hc
      · refine (ih hc).imp_right ?_
        rintro ⟨found, hfound, hc⟩
        exact ⟨found, List.mem_cons_of_mem part hfound, hc⟩

/-- Brackets around parts are printable if the parts are. -/
theorem isPrintable_of_mem_brackets {opening closing : Char} (hopening : IsPrintable opening)
    (hclosing : IsPrintable closing) {parts : List Text}
    (each : ∀ part ∈ parts, ∀ c ∈ part, IsPrintable c) {c : Char}
    (hc : c ∈ [opening] ++ joinWith ", ".toList parts ++ [closing]) : IsPrintable c := by
  have hseparator : ∀ c ∈ ", ".toList, IsPrintable c := by decide
  rcases List.mem_append.mp hc with hc | hc
  · rcases List.mem_append.mp hc with hc | hc
    · rw [List.mem_singleton.mp hc]
      exact hopening
    · rcases mem_joinWith hc with hc | ⟨part, hpart, hc⟩
      · exact hseparator c hc
      · exact each part hpart c hc
  · rw [List.mem_singleton.mp hc]
    exact hclosing

/-- **A value on one line is written in printable ASCII.** -/
theorem WellFormed.printable {v : Json} (h : v.WellFormed) : ∀ c ∈ compact v, IsPrintable c := by
  induction h with
  | null => decide
  | bool b => cases b <;> decide
  | integer n => exact fun c hc => isPrintable_of_mem_ofInt hc
  | decimal canonical => exact fun c hc => isPrintable_of_mem_numberText canonical hc
  | string t => exact fun c hc => isPrintable_of_mem_stringText hc
  | array _ ih =>
    intro c hc
    rw [compact, compactAll_eq_map] at hc
    refine isPrintable_of_mem_brackets (by decide) (by decide) ?_ hc
    intro part hpart
    obtain ⟨item, hitem, rfl⟩ := List.mem_map.mp hpart
    exact ih item hitem
  | object _ _ ih =>
    intro c hc
    rw [compact, compactMembers_eq_map] at hc
    refine isPrintable_of_mem_brackets (by decide) (by decide) ?_ hc
    intro part hpart c hc
    obtain ⟨m, hm, rfl⟩ := List.mem_map.mp hpart
    rcases List.mem_append.mp hc with hc | hc
    · rcases List.mem_append.mp hc with hc | hc
      · exact isPrintable_of_mem_stringText hc
      · have hcolon : ∀ c ∈ ": ".toList, IsPrintable c := by decide
        exact hcolon c hc
    · exact ih m hm c hc

end Json

/-! ### Catalogs -/

/-- The details of a statement are an object with distinct keys, and so are all within it; numbers
of double precision are in canonical form. -/
def StoredStatement.WellFormed (s : StoredStatement) : Prop :=
  (Json.object s.details).WellFormed

theorem StoredStatement.WellFormed.toJson {s : StoredStatement} (h : s.WellFormed) :
    s.toJson.WellFormed := by
  have hkeys : ["id".toList, "sql".toList, "meta".toList].Nodup := by decide
  refine .object hkeys ?_
  intro m hm
  simp only [List.mem_cons, List.not_mem_nil, or_false] at hm
  rcases hm with rfl | rfl | rfl
  · exact .string s.id
  · exact .string s.sql
  · exact h

/-- A text holds statements in order, one to a line. -/
structure HoldsStatements (text : Text) (statements : List StoredStatement) : Prop where
  /-- Every line ends with a line feed. -/
  framed : text = text.splitLines.flatMap (· ++ ['\n'])
  /-- There are as many lines as statements. -/
  length : text.splitLines.length = statements.length
  /-- A statement is read back from its line. -/
  reads : ∀ {k : Nat} {s : StoredStatement}, statements[k]? = some s →
    ∃ line, text.splitLines[k]? = some line ∧
      Json.decode line = .ok (.object
        [("id".toList, .string s.id), ("sql".toList, .string s.sql),
          ("meta".toList, .object s.details)])

/-- **Statements are held by their lines.** -/
theorem holdsStatements_jsonLines {statements : List StoredStatement}
    (h : ∀ s ∈ statements, s.WellFormed) : HoldsStatements (jsonLines statements) statements := by
  obtain ⟨lines, hlines⟩ : ∃ lines, lines = statements.map fun s => Json.compact s.toJson :=
    ⟨_, rfl⟩
  have hwritten : jsonLines statements = lines.flatMap (· ++ ['\n']) := by
    rw [hlines, List.flatMap_map]
    rfl
  have hsplit : (jsonLines statements).splitLines = lines := by
    rw [hwritten]
    refine Text.splitLines_flatMap ?_
    intro line hline c hc
    rw [hlines] at hline
    obtain ⟨s, hs, rfl⟩ := List.mem_map.mp hline
    exact ((h s hs).toJson.printable c hc).not_isLineBoundary
  refine ⟨?_, ?_, ?_⟩
  · rw [hsplit]
    exact hwritten
  · rw [hsplit, hlines, List.length_map]
  · intro k s hs
    refine ⟨Json.compact s.toJson, ?_, ?_⟩
    · rw [hsplit, hlines, List.getElem?_map, hs]
      rfl
    · exact Json.decode_compact (h s (List.mem_of_getElem? hs)).toJson

theorem wellFormed_ofLine? (line : Option LineNumber) : (Json.ofLine? line).WellFormed := by
  cases line with
  | none => exact .null
  | some line =>
    cases line with
    | number n => exact .integer n
    | truth b => exact .bool b

theorem wellFormed_texts (texts : List Text) : (Json.array (texts.map .string)).WellFormed := by
  refine .array fun item hitem => ?_
  obtain ⟨t, -, rfl⟩ := List.mem_map.mp hitem
  exact .string t

/-- The details of an entry have fixed keys, which are distinct; only the keys of the placeholders
come from elsewhere. -/
theorem CatalogEntry.wellFormed_stored {e : CatalogEntry}
    (h : (e.placeholders.map Prod.fst).Nodup) : e.stored.WellFormed := by
  have hslots :
      (Json.object (e.placeholders.map fun slot => (slot.1, .string slot.2))).WellFormed := by
    refine .object ?_ ?_
    · rw [List.map_map]
      exact h
    · intro m hm
      obtain ⟨slot, -, rfl⟩ := List.mem_map.mp hm
      exact .string slot.2
  show (Json.object e.details).WellFormed
  unfold details
  cases e.summary with
  | none =>
    have hkeys : ["db".toList, "file".toList, "line".toList, "placeholders".toList,
        "bind_values".toList].Nodup := by decide
    refine .object hkeys ?_
    intro m hm
    simp only [List.cons_append, List.nil_append, List.append_nil, List.mem_cons, List.not_mem_nil,
      or_false] at hm
    rcases hm with rfl | rfl | rfl | rfl | rfl
    · exact .string e.db
    · exact .string e.file
    · exact wellFormed_ofLine? e.line
    · exact hslots
    · exact wellFormed_texts e.binds
  | some summary =>
    have hkeys : ["db".toList, "file".toList, "line".toList, "command".toList, "tables".toList,
        "placeholders".toList, "bind_values".toList].Nodup := by decide
    refine .object hkeys ?_
    intro m hm
    simp only [List.cons_append, List.nil_append, List.mem_cons, List.not_mem_nil, or_false] at hm
    rcases hm with rfl | rfl | rfl | rfl | rfl | rfl | rfl
    · exact .string e.db
    · exact .string e.file
    · exact wellFormed_ofLine? e.line
    · exact .string summary.command
    · exact wellFormed_texts summary.tables
    · exact hslots
    · exact wellFormed_texts e.binds

/-- The entries of a catalog are well-formed: an entry has at most one placeholder. -/
theorem wellFormed_of_mem_catalog {options : CatalogOptions} {read : SqlReader} {results : Results}
    {e : CatalogEntry} (h : e ∈ catalog options read results) : e.stored.WellFormed := by
  obtain ⟨k, hk⟩ := List.mem_iff_getElem?.mp h
  rw [getElem?_catalog, Option.map_eq_some_iff] at hk
  obtain ⟨l, -, rfl⟩ := hk
  refine CatalogEntry.wellFormed_stored ?_
  show ((extractMarkers l.literal.statement options.entityValue).placeholders.map Prod.fst).Nodup
  rw [placeholders_extractMarkers]
  split
  · exact List.nodup_singleton entityName
  · exact List.nodup_nil

/-- **JSON Lines are read back.** Statements with any ids, texts and details, whatever characters
they hold, are written with a line feed behind each; cut at whatever may end a line, the text has
one line for each statement, and from the line at a place the id, the statement and the details at
that place can be read. In particular this holds of every catalog.

Limits of the reader are set aside: `Json.decode` has none, while one that bounds levels and digits
refuses details that are nested more deeply, or hold longer numbers, than it allows. -/
theorem jsonl_reads_back :
    (∀ statements : List StoredStatement, (∀ s ∈ statements, s.WellFormed) →
      ∃ text, renderStored statements "jsonl" = .ok text ∧ HoldsStatements text statements) ∧
    ∀ (options : CatalogOptions) (read : SqlReader) (results : Results),
      ∃ text, renderCatalog (catalog options read results) "jsonl" = .ok text ∧
        HoldsStatements text ((catalog options read results).map CatalogEntry.stored) := by
  constructor
  · intro statements h
    exact ⟨jsonLines statements, rfl, holdsStatements_jsonLines h⟩
  · intro options read results
    refine ⟨jsonLines ((catalog options read results).map CatalogEntry.stored), rfl, ?_⟩
    refine holdsStatements_jsonLines fun s hs => ?_
    obtain ⟨e, he, rfl⟩ := List.mem_map.mp hs
    exact wellFormed_of_mem_catalog he

/-- Statements with line ends of all kinds in their ids, texts and keys, and with numbers. -/
def brokenStatements : List StoredStatement :=
  [⟨"a\r\nb\u2028c", "SELECT\n\t1\x0b\u0085",
      [("rate\x1c", .decimal (.finite false 7205759403792794 (-56))),
      ("more\u2029", .object [([], .array [.null, .integer (-12), .decimal (.infinite true)])])]⟩,
    ⟨[], "\n", []⟩]

theorem wellFormed_brokenStatements : ∀ s ∈ brokenStatements, s.WellFormed := by
  have htenth : Double.IsPlaced 7205759403792794 (-56) :=
    ⟨by norm_num, by norm_num, Or.inl (by norm_num), by norm_num, by norm_num⟩
  have hitems : (Json.array [.null, .integer (-12), .decimal (.infinite true)]).WellFormed := by
    refine .array fun item hitem => ?_
    simp only [List.mem_cons, List.not_mem_nil, or_false] at hitem
    rcases hitem with rfl | rfl | rfl
    · exact .null
    · exact .integer (-12)
    · exact .decimal trivial
  intro s hs
  simp only [brokenStatements, List.mem_cons, List.not_mem_nil, or_false] at hs
  rcases hs with rfl | rfl
  · have hkeys : ["rate\x1c".toList, "more\u2029".toList].Nodup := by decide
    refine .object hkeys ?_
    intro m hm
    simp only [List.mem_cons, List.not_mem_nil, or_false] at hm
    rcases hm with rfl | rfl
    · exact .decimal (Or.inr htenth)
    · refine .object (List.nodup_singleton _) fun m hm => ?_
      rw [List.mem_singleton.mp hm]
      exact hitems
  · exact .object List.nodup_nil fun m hm => absurd hm List.not_mem_nil

theorem brokenStatements_read_back :
    (∀ s ∈ brokenStatements, s.WellFormed) ∧
      ∃ text, renderStored brokenStatements "jsonl" = .ok text ∧
        HoldsStatements text brokenStatements :=
  ⟨wellFormed_brokenStatements, jsonl_reads_back.1 brokenStatements wellFormed_brokenStatements⟩

end SqlInventory
