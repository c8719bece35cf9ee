import SqlInventory.Proofs.Json.DistinctKeys
import SqlInventory.Proofs.Json.NumberReading
import SqlInventory.Proofs.Json.UniqueReading

/-!
# A line of JSON is read as it was written

A value that is written on one line is read back from that line, whatever it holds
(`decode_compact`). Two things are asked of it, which the type `Json` leaves open: no object has a
key twice, and numbers of double precision are in the form in which they are stored (`WellFormed`).

As values stand within each other, reading is stated of a text that goes on (`ReadsBack`). The
reader has fuel, a limit on levels and one on digits. The length of the written value is enough for
each of them, and induction on the parts of a value needs no other measure: brackets and separators
pay for every step down and every step along.

The reader also looks at the first character of a part, to tell whether there are blanks to skip and
whether there are parts at all. That a value starts with neither a blank nor a closing bracket need
not be looked up in the printer: the reader would not have read it (`startsPart_of_readValue`).
-/

namespace SqlInventory

namespace Json

open Text

/-! ### Well-formed values -/

/-- No object within a value has two members with one key, and numbers of double precision are in
canonical form. -/
inductive WellFormed : Json → Prop where
  /-- `null` -/
  | null : WellFormed .null
  /-- A truth value. -/
  | bool (b : Bool) : WellFormed (.bool b)
  /-- A whole number. -/
  | integer (n : Int) : WellFormed (.integer n)
  /-- A number of double precision. -/
  | decimal {d : Double} (canonical : d.IsCanonical) : WellFormed (.decimal d)
  /-- A text. -/
  | string (t : Text) : WellFormed (.string t)
  /-- A sequence of such values. -/
  | array {items : List Json} (each : ∀ item ∈ items, WellFormed item) : WellFormed (.array items)
  /-- Members with distinct keys and such values. -/
  | object {members : List (Text × Json)} (keys : (members.map Prod.fst).Nodup)
      (each : ∀ m ∈ members, WellFormed m.2) : WellFormed (.object members)

/-- How a member is written on one line. -/
def compactMember (m : Text × Json) : Text :=
  stringText m.1 ++ ": ".toList ++ compact m.2

theorem compactAll_eq_map (items : List Json) : compactAll items = items.map compact := by
  induction items with
  | nil => rfl
  | cons item items ih => rw [compactAll, ih, List.map_cons]

theorem compactMembers_eq_map (members : List (Text × Json)) :
    compactMembers members = members.map compactMember := by
  induction members with
  | nil => rfl
  | cons m members ih => rw [compactMembers, ih, List.map_cons]; rfl

/-! ### First characters -/

/-- A text that starts so has no blanks to skip, and is not at the end of an array or object. -/
def StartsPart (t : Text) : Prop :=
  ∃ c rest, t = c :: rest ∧ isSpace c = false ∧ c ≠ ']' ∧ c ≠ '}'

theorem StartsPart.skipSpace_eq {t : Text} (h : StartsPart t) : skipSpace t = t := by
  obtain ⟨c, rest, rfl, hspace, -⟩ := h
  exact List.dropWhile_cons_of_neg (by rw [hspace]; decide)

theorem StartsPart.append {t : Text} (h : StartsPart t) (rest : Text) : StartsPart (t ++ rest) := by
  obtain ⟨c, more, rfl, hc⟩ := h
  exact ⟨c, more ++ rest, rfl, hc⟩

/-- What is read does not start with a blank or a closing bracket. -/
theorem startsPart_of_readValue {limit fuel levels : Nat} {t : Text} {read : Json × Text}
    (h : readValue limit fuel levels t = .ok read) : StartsPart t := by
  cases fuel with
  | zero => cases h
  | succ fuel =>
    cases t with
    | nil => cases h
    | cons c rest =>
      have hrefused : ∀ d : Char, isSpace d = true ∨ d = ']' ∨ d = '}' →
          readValue limit (fuel + 1) levels (d :: rest) = .error .malformed := by
        intro d hd
        simp only [isSpace, Bool.or_eq_true, beq_iff_eq] at hd
        rcases hd with (((rfl | rfl) | rfl) | rfl) | rfl | rfl <;> rfl
      have hfront : ¬(isSpace c = true ∨ c = ']' ∨ c = '}') := by
        intro hc
        rw [hrefused c hc] at h
        cases h
      simp only [not_or, Bool.not_eq_true] at hfront
      exact ⟨c, rest, rfl, hfront⟩

/-- What is read as a word or a number is not a text, an array or an object. -/
theorem readValue_of_readScalar {limit : Nat} {t : Text} {read : Json × Text}
    (h : readScalar limit t = .ok read) (fuel levels : Nat) :
    readValue limit (fuel + 1) levels t = .ok read := by
  unfold readValue
  split
  · cases h
  · cases h
  · cases h
  · exact h

/-! ### Values -/

/-- A value is read back from its line, if fuel and limits are not below the length of the line and
what follows does not go on with a number. -/
def ReadsBack (v : Json) : Prop :=
  ∀ ⦃limit fuel levels : Nat⦄ ⦃rest : Text⦄, (compact v).length ≤ limit →
    (compact v).length ≤ fuel → (compact v).length ≤ levels → EndsNumber rest →
      readValue limit fuel levels (compact v ++ rest) = .ok (v, rest)

/-- A word or a number is read back if it is read as a scalar. -/
theorem readsBack_of_readScalar {v : Json}
    (h : ∀ {limit : Nat} {rest : Text}, (compact v).length ≤ limit → EndsNumber rest →
      readScalar limit (compact v ++ rest) = .ok (v, rest)) : ReadsBack v := by
  intro limit fuel levels rest hlimit hfuel _ hrest
  have hread := h hlimit hrest
  cases fuel with
  | zero =>
    -- The empty text is not read as a scalar.
    have hempty : readScalar (compact v).length (compact v ++ []) = .ok (v, []) :=
      h le_rfl endsNumber_nil
    rw [List.length_eq_zero_iff.mp (Nat.le_zero.mp hfuel)] at hempty
    cases hempty
  | succ fuel => exact readValue_of_readScalar hread fuel levels

theorem readsBack_string (t : Text) : ReadsBack (.string t) := by
  intro limit fuel levels rest _ hfuel _ _
  obtain ⟨fuel, rfl⟩ : ∃ n, fuel = n + 1 := by
    refine ⟨fuel - 1, ?_⟩
    have hpos : 0 < (compact (.string t)).length := Nat.succ_pos _
    omega
  have hopened : compact (.string t) ++ rest = '"' :: (t.flatMap escapeChar ++ '"' :: rest) := by
    show stringText t ++ rest = _
    simp [stringText]
  rw [hopened]
  unfold readValue
  simp only [readString_escaped]

/-- The first character of a value that is read back. -/
theorem ReadsBack.startsPart {v : Json} (h : ReadsBack v) : StartsPart (compact v) := by
  have hread := h le_rfl le_rfl le_rfl endsNumber_nil
  rw [List.append_nil] at hread
  exact startsPart_of_readValue hread

/-! ### Parts -/

/-- What follows a part on a line: the closing bracket, or a separator and more parts. -/
def behind (closing : Char) (parts : List Text) (rest : Text) : Text :=
  if parts = [] then closing :: rest
  else ", ".toList ++ joinWith ", ".toList parts ++ closing :: rest

theorem joinWith_cons_behind (closing : Char) (part : Text) (parts : List Text) (rest : Text) :
    joinWith ", ".toList (part :: parts) ++ closing :: rest = part ++ behind closing parts rest :=
  joinWith_cons_append ", ".toList part (closing :: rest) parts

/-- Parts that follow stand behind a comma and a blank. -/
theorem behind_cons (closing : Char) (part : Text) (parts : List Text) (rest : Text) :
    behind closing (part :: parts) rest =
      ',' :: ' ' :: (joinWith ", ".toList (part :: parts) ++ closing :: rest) := by
  rw [behind, if_neg (List.cons_ne_nil part parts)]
  rfl

theorem endsNumber_behind (closing : Char)
    (hclosing : closing.isDigit = false ∧ closing ≠ '.' ∧ closing ≠ 'e' ∧ closing ≠ 'E')
    (parts : List Text) (rest : Text) : EndsNumber (behind closing parts rest) := by
  unfold behind
  split
  · exact endsNumber_cons hclosing rest
  · exact endsNumber_cons (by decide) _

theorem startsPart_joinWith {part : Text} (h : StartsPart part) (closing : Char)
    (parts : List Text) (rest : Text) :
    StartsPart (joinWith ", ".toList (part :: parts) ++ closing :: rest) := by
  rw [joinWith_cons_behind]
  exact h.append _

theorem length_joinWith_cons_cons (part other : Text) (parts : List Text) :
    (joinWith ", ".toList (part :: other :: parts)).length =
      part.length + 2 + (joinWith ", ".toList (other :: parts)).length := by
  rw [joinWith_cons_cons, List.length_append, List.length_append]
  rfl

theorem length_le_joinWith (part : Text) (parts : List Text) :
    part.length ≤ (joinWith ", ".toList (part :: parts)).length := by
  cases parts with
  | nil => simp [joinWith]
  | cons other parts =>
    rw [length_joinWith_cons_cons]
    omega

/-- **Items are read back** one after the other. -/
theorem readItems_compact {items : List Json} (hne : items ≠ [])
    (each : ∀ item ∈ items, ReadsBack item) {limit fuel levels : Nat} {rest : Text}
    (hlimit : (joinWith ", ".toList (items.map compact)).length ≤ limit)
    (hfuel : (joinWith ", ".toList (items.map compact)).length < fuel)
    (hlevels : (joinWith ", ".toList (items.map compact)).length ≤ levels) :
    readItems limit fuel levels (joinWith ", ".toList (items.map compact) ++ ']' :: rest) =
      .ok (items, rest) := by
  induction items generalizing fuel with
  | nil => exact absurd rfl hne
  | cons item items ih =>
    obtain ⟨fuel, rfl⟩ : ∃ n, fuel = n + 1 := ⟨fuel - 1, by omega⟩
    rw [List.map_cons] at hlimit hfuel hlevels ⊢
    have hfirst := length_le_joinWith (compact item) (items.map compact)
    have hread := each item List.mem_cons_self (hfirst.trans hlimit)
      (hfirst.trans (Nat.lt_succ_iff.mp hfuel)) (hfirst.trans hlevels)
      (endsNumber_behind ']' (by decide) (items.map compact) rest)
    rw [joinWith_cons_behind]
    unfold readItems
    rw [hread]
    cases items with
    | nil => rfl
    | cons other items =>
      rw [List.map_cons, length_joinWith_cons_cons] at hlimit hfuel hlevels
      have hothers := @ih (List.cons_ne_nil other items)
        (fun v hv => each v (List.mem_cons_of_mem item hv)) fuel
        (by rw [List.map_cons]; omega) (by rw [List.map_cons]; omega)
        (by rw [List.map_cons]; omega)
      have hother := (each other (List.mem_cons_of_mem item List.mem_cons_self)).startsPart
      have hskip := (startsPart_joinWith hother ']' (items.map compact) rest).skipSpace_eq
      rw [List.map_cons] at hothers ⊢
      rw [behind_cons]
      show (readItems limit fuel levels (skipSpace (joinWith ", ".toList
        (compact other :: items.map compact) ++ ']' :: rest))).map _ = _
      rw [hskip, hothers]
      rfl

/-- Putting a key that is not there adds a member at the end. -/
theorem put_of_notMem {key : Text} {value : Json} {members : List (Text × Json)}
    (h : key ∉ members.map Prod.fst) : put key value members = members ++ [(key, value)] := by
  induction members with
  | nil => rfl
  | cons m members ih =>
    rw [List.map_cons, List.mem_cons, not_or] at h
    rw [put, if_neg (by simpa using Ne.symm h.1), ih h.2, List.cons_append]

theorem startsPart_compactMember (m : Text × Json) : StartsPart (compactMember m) :=
  ⟨'"', _, rfl, by decide, by decide, by decide⟩

/-- **Members are read back** one after the other, behind those that are read already. -/
theorem readMembers_compact {members before : List (Text × Json)} (hne : members ≠ [])
    (hkeys : ((before ++ members).map Prod.fst).Nodup) (each : ∀ m ∈ members, ReadsBack m.2)
    {limit fuel levels : Nat} {rest : Text}
    (hlimit : (joinWith ", ".toList (members.map compactMember)).length ≤ limit)
    (hfuel : (joinWith ", ".toList (members.map compactMember)).length < fuel)
    (hlevels : (joinWith ", ".toList (members.map compactMember)).length ≤ levels) :
    readMembers limit fuel levels before
        (joinWith ", ".toList (members.map compactMember) ++ '}' :: rest) =
      .ok (before ++ members, rest) := by
  induction members generalizing fuel before with
  | nil => exact absurd rfl hne
  | cons m members ih =>
    obtain ⟨key, value⟩ := m
    obtain ⟨fuel, rfl⟩ : ∃ n, fuel = n + 1 := ⟨fuel - 1, by omega⟩
    rw [List.map_cons] at hlimit hfuel hlevels ⊢
    have hfirst := length_le_joinWith (compactMember (key, value)) (members.map compactMember)
    have hvalue : (compact value).length ≤ (compactMember (key, value)).length := by
      rw [compactMember, List.length_append]
      exact Nat.le_add_left _ _
    have hback := each (key, value) List.mem_cons_self
    have hread := hback ((hvalue.trans hfirst).trans hlimit)
      ((hvalue.trans hfirst).trans (Nat.lt_succ_iff.mp hfuel)) ((hvalue.trans hfirst).trans hlevels)
      (endsNumber_behind '}' (by decide) (members.map compactMember) rest)
    have hcolon : ∀ t : Text, skipSpace (':' :: t) = ':' :: t := fun t => rfl
    have hblank :
        skipSpace (' ' :: (compact value ++ behind '}' (members.map compactMember) rest)) =
          compact value ++ behind '}' (members.map compactMember) rest :=
      (hback.startsPart.append _).skipSpace_eq
    have hopened : compactMember (key, value) ++ behind '}' (members.map compactMember) rest =
        '"' :: (key.flatMap escapeChar ++ '"' :: ':' :: ' ' ::
          (compact value ++ behind '}' (members.map compactMember) rest)) := by
      simp [compactMember, stringText]
    have hput : put key value before = before ++ [(key, value)] := by
      refine put_of_notMem fun hmem => ?_
      rw [List.map_append, List.map_cons] at hkeys
      exact (List.nodup_append.mp hkeys).2.2 key hmem key List.mem_cons_self rfl
    rw [joinWith_cons_behind, hopened]
    unfold readMembers
    simp only [readString_escaped, hcolon, hblank, hread, hput]
    cases members with
    | nil => rfl
    | cons other members =>
      rw [List.map_cons, length_joinWith_cons_cons] at hlimit hfuel hlevels
      have hothers := @ih (before ++ [(key, value)]) (List.cons_ne_nil other members)
        (by rw [List.append_assoc]; exact hkeys)
        (fun v hv => each v (List.mem_cons_of_mem (key, value) hv)) fuel
        (by rw [List.map_cons]; omega) (by rw [List.map_cons]; omega)
        (by rw [List.map_cons]; omega)
      have hskip := (startsPart_joinWith (startsPart_compactMember other) '}'
        (members.map compactMember) rest).skipSpace_eq
      rw [List.map_cons, List.append_assoc] at hothers
      rw [List.map_cons, behind_cons]
      show readMembers limit fuel levels (before ++ [(key, value)]) (skipSpace (joinWith ", ".toList
        (compactMember other :: members.map compactMember) ++ '}' :: rest)) = _
      rw [hskip, hothers]
      rfl

/-! ### Arrays and objects -/

/-- An array whose items are read is read. -/
theorem readValue_array {limit fuel levels : Nat} {items : List Json} {t after : Text}
    (hstarts : StartsPart t) (hread : readItems limit fuel levels t = .ok (items, after)) :
    readValue limit (fuel + 1) (levels + 1) ('[' :: t) = .ok (.array items, after) := by
  have hskip := hstarts.skipSpace_eq
  obtain ⟨c, more, rfl, -, hopen, -⟩ := hstarts
  unfold readValue
  simp only [hskip]
  split
  · next heq => exact absurd (List.cons.inj heq).1 hopen
  · rw [hread]
    rfl

/-- An object whose members are read is read. -/
theorem readValue_object {limit fuel levels : Nat} {members : List (Text × Json)} {t after : Text}
    (hstarts : StartsPart t) (hread : readMembers limit fuel levels [] t = .ok (members, after)) :
    readValue limit (fuel + 1) (levels + 1) ('{' :: t) = .ok (.object members, after) := by
  have hskip := hstarts.skipSpace_eq
  obtain ⟨c, more, rfl, -, -, hopen⟩ := hstarts
  unfold readValue
  simp only [hskip]
  split
  · next heq => exact absurd (List.cons.inj heq).1 hopen
  · rw [hread]
    rfl

/-- Brackets around parts, and what follows. -/
theorem brackets_append (opening closing : Char) (inner rest : Text) :
    [opening] ++ inner ++ [closing] ++ rest = opening :: (inner ++ closing :: rest) := by
  simp

theorem length_brackets (opening closing : Char) (inner : Text) :
    ([opening] ++ inner ++ [closing]).length = inner.length + 2 := by
  simp

theorem readsBack_array {items : List Json} (each : ∀ item ∈ items, ReadsBack item) :
    ReadsBack (.array items) := by
  intro limit fuel levels rest hlimit hfuel hlevels _
  rw [compact, compactAll_eq_map, length_brackets] at hlimit hfuel hlevels
  -- The brackets pay for the step down.
  obtain ⟨fuel, rfl⟩ : ∃ n, fuel = n + 1 := ⟨fuel - 1, by omega⟩
  obtain ⟨levels, rfl⟩ : ∃ n, levels = n + 1 := ⟨levels - 1, by omega⟩
  rw [compact, compactAll_eq_map, brackets_append]
  cases items with
  | nil => rfl
  | cons item items =>
    refine readValue_array ?_ (readItems_compact (List.cons_ne_nil item items) each (by omega)
      (by omega) (by omega))
    exact startsPart_joinWith (each item List.mem_cons_self).startsPart ']' (items.map compact) rest

theorem readsBack_object {members : List (Text × Json)} (keys : (members.map Prod.fst).Nodup)
    (each : ∀ m ∈ members, ReadsBack m.2) : ReadsBack (.object members) := by
  intro limit fuel levels rest hlimit hfuel hlevels _
  rw [compact, compactMembers_eq_map, length_brackets] at hlimit hfuel hlevels
  obtain ⟨fuel, rfl⟩ : ∃ n, fuel = n + 1 := ⟨fuel - 1, by omega⟩
  obtain ⟨levels, rfl⟩ : ∃ n, levels = n + 1 := ⟨levels - 1, by omega⟩
  rw [compact, compactMembers_eq_map, brackets_append]
  cases members with
  | nil => rfl
  | cons m members =>
    refine readValue_object ?_ (readMembers_compact (List.cons_ne_nil m members) keys each
      (by omega) (by omega) (by omega))
    exact startsPart_joinWith (startsPart_compactMember m) '}' (members.map compactMember) rest

/-- Well-formed values are read back. The induction is over the parts of a value. -/
theorem WellFormed.readsBack {v : Json} (h : v.WellFormed) : ReadsBack v := by
  induction h with
  | null => exact readsBack_of_readScalar fun _ _ => rfl
  | bool b =>
    cases b with
    | true => exact readsBack_of_readScalar fun _ _ => rfl
    | false => exact readsBack_of_readScalar fun _ _ => rfl
  | integer n => exact readsBack_of_readScalar fun hlimit hrest => readScalar_ofInt n hlimit hrest
  | decimal canonical =>
    exact readsBack_of_readScalar fun _ hrest => readScalar_numberText canonical _ hrest
  | string t => exact readsBack_string t
  | array _ ih => exact readsBack_array ih
  | object keys _ ih => exact readsBack_object keys ih

/-- **A value is read back from its line**, if the limits are not below the length of the line. -/
theorem parse_compact {v : Json} (h : v.WellFormed) {levels digits : Nat}
    (hlevels : (compact v).length ≤ levels) (hdigits : (compact v).length ≤ digits) :
    parse levels digits (compact v) = .ok v := by
  have hread := h.readsBack hdigits (Nat.le_succ _) hlevels endsNumber_nil
  rw [List.append_nil] at hread
  rw [parse, h.readsBack.startsPart.skipSpace_eq, hread]
  rfl

/-- Without limits a value is always read back from its line. -/
theorem decode_compact {v : Json} (h : v.WellFormed) : decode (compact v) = .ok v :=
  parse_compact h le_rfl le_rfl

end Json

end SqlInventory
