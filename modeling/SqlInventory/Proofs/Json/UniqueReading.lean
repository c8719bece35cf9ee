import SqlInventory.Proofs.Json.StringReading
import SqlInventory.Proofs.Text.Essence

/-!
# An indented text has one reading

Two different values are never written as the same text. As values stand within each other, this is
said of a text that goes on: if two values are written at the front of one text, then they are equal
and the same stretch follows them (`indented_append_inj`). A numeral is the only value whose end
depends on what follows; commas and line breaks, which follow values here, are no digits.

* `Exact` excludes numbers with a fraction, whose text is made by rounding. Induction on it is
  induction over items and members;
* `kind` and `kindOfFront`: the first character tells the kind of a value, so only values of one
  kind need be compared;
* `joinWith_append_inj` and `block_append_inj` lift the statement from parts to their block.
-/

namespace SqlInventory

namespace Json

open Text

/-! ### Values without fractions -/

/-- A value in which every number is a whole number. -/
inductive Exact : Json → Prop where
  /-- `null` -/
  | null : Exact .null
  /-- A truth value. -/
  | bool (b : Bool) : Exact (.bool b)
  /-- A whole number. -/
  | integer (n : Int) : Exact (.integer n)
  /-- A text. -/
  | string (t : Text) : Exact (.string t)
  /-- A sequence of such values. -/
  | array {items : List Json} (each : ∀ item ∈ items, Exact item) : Exact (.array items)
  /-- Members with such values. -/
  | object {members : List (Text × Json)} (each : ∀ m ∈ members, Exact m.2) :
      Exact (.object members)

/-! ### Kinds -/

/-- The kinds of values that are told apart by their first character. -/
inductive Kind where
  /-- `null` -/
  | null
  /-- A truth value. -/
  | truth
  /-- A number. -/
  | number
  /-- A text. -/
  | text
  /-- A sequence. -/
  | array
  /-- An object. -/
  | object
  deriving DecidableEq

/-- The kind of a value. -/
def kind : Json → Kind
  | .null => .null
  | .bool _ => .truth
  | .integer _ => .number
  | .decimal _ => .number
  | .string _ => .text
  | .array _ => .array
  | .object _ => .object

/-- The kind of the values whose text starts with `c`. -/
def kindOfFront (c : Char) : Kind :=
  if c = 'n' then .null
  else if c = 't' ∨ c = 'f' then .truth
  else if c = '"' then .text
  else if c = '[' then .array
  else if c = '{' then .object
  else .number

theorem kindOfFront_of_isDigit {c : Char} (h : c.isDigit = true) : kindOfFront c = .number := by
  have hne : ∀ d : Char, d.isDigit = false → c ≠ d := by
    rintro d hd rfl
    rw [h] at hd
    cases hd
  unfold kindOfFront
  rw [if_neg (hne _ (by decide)), if_neg (not_or.mpr ⟨hne _ (by decide), hne _ (by decide)⟩),
    if_neg (hne _ (by decide)), if_neg (hne _ (by decide)), if_neg (hne _ (by decide))]

/-- The first character of an integer. -/
theorem exists_cons_ofInt (n : Int) : ∃ c t, ofInt n = c :: t ∧ kindOfFront c = .number := by
  cases n with
  | ofNat n =>
    obtain ⟨c, t, hn, hdigit⟩ := exists_cons_ofNat n
    exact ⟨c, t, hn, kindOfFront_of_isDigit hdigit⟩
  | negSucc n => exact ⟨'-', _, rfl, by decide⟩

theorem exists_cons_block (level : Nat) (opening closing : Char) (parts : List Text) :
    ∃ t, block level opening closing parts = opening :: t := by
  unfold block
  split
  · exact ⟨_, rfl⟩
  · exact ⟨_, rfl⟩

/-- **The first character of a value tells its kind.** -/
theorem Exact.exists_cons {v : Json} (h : v.Exact) (level : Nat) :
    ∃ c t, indented level v = c :: t ∧ kindOfFront c = v.kind := by
  cases h with
  | null => exact ⟨'n', _, rfl, by decide⟩
  | bool b => cases b <;> exact ⟨_, _, rfl, by decide⟩
  | integer n => exact exists_cons_ofInt n
  | string t => exact ⟨'"', _, rfl, rfl⟩
  | array each =>
    obtain ⟨t, ht⟩ := exists_cons_block level '[' ']' (indentedAll (level + 1) _)
    exact ⟨'[', t, ht, rfl⟩
  | object each =>
    obtain ⟨t, ht⟩ := exists_cons_block level '{' '}' (indentedMembers (level + 1) _)
    exact ⟨'{', t, ht, rfl⟩

/-! ### Blocks -/

/-- How a member is written. -/
def memberText (level : Nat) (m : Text × Json) : Text :=
  stringText m.1 ++ ": ".toList ++ indented level m.2

theorem indentedAll_eq_map (level : Nat) (items : List Json) :
    indentedAll level items = items.map (indented level) := by
  induction items with
  | nil => rfl
  | cons item items ih => rw [indentedAll, ih, List.map_cons]

theorem indentedMembers_eq_map (level : Nat) (members : List (Text × Json)) :
    indentedMembers level members = members.map (memberText level) := by
  induction members with
  | nil => rfl
  | cons m members ih => rw [indentedMembers, ih, List.map_cons]; rfl

/-- Something written at the front of a text, where nothing but things with `good` are written, can
be read off again. -/
def ReadOff {α : Type} (write : α → Text) (good : α → Prop) (a : α) : Prop :=
  ∀ b, good b → ∀ r s, EndsNumeral r → EndsNumeral s →
    write a ++ r = write b ++ s → a = b ∧ r = s

theorem joinWith_cons_append (sep part last : Text) (parts : List Text) :
    joinWith sep (part :: parts) ++ last =
      part ++ (if parts = [] then last else sep ++ joinWith sep parts ++ last) := by
  cases parts with
  | nil => simp [joinWith]
  | cons other parts =>
    rw [joinWith_cons_cons, if_neg (List.cons_ne_nil other parts)]
    simp only [List.append_assoc]

/-- Parts with commas between them and a line break behind can be read off one by one. -/
theorem joinWith_append_inj {α : Type} {write : α → Text} {good : α → Prop} {gap : Text}
    {xs ys : List α} (hxs : ∀ a ∈ xs, ReadOff write good a) (hys : ∀ b ∈ ys, good b)
    (hx : xs ≠ []) (hy : ys ≠ []) {r s : Text}
    (h : joinWith (',' :: gap) (xs.map write) ++ '\n' :: r =
      joinWith (',' :: gap) (ys.map write) ++ '\n' :: s) : xs = ys ∧ r = s := by
  induction xs generalizing ys with
  | nil => exact absurd rfl hx
  | cons x xs ih =>
    obtain ⟨y, ys, rfl⟩ := List.exists_cons_of_ne_nil hy
    rw [List.map_cons, List.map_cons, joinWith_cons_append, joinWith_cons_append] at h
    -- What follows a part starts with a comma or a line break, so the part can be read off.
    have hends : ∀ (parts : List Text) (last : Text), EndsNumeral
        (if parts = [] then '\n' :: last
          else (',' :: gap) ++ joinWith (',' :: gap) parts ++ '\n' :: last) := by
      intro parts last
      split
      · exact endsNumeral_cons (by decide) _
      · exact endsNumeral_cons (by decide) _
    obtain ⟨rfl, hrest⟩ := hxs x List.mem_cons_self y (hys y List.mem_cons_self) _ _
      (hends _ _) (hends _ _) h
    -- Either list goes on if and only if the other does.
    cases xs with
    | nil =>
      cases ys with
      | nil => exact ⟨rfl, (List.cons.inj hrest).2⟩
      | cons y' ys => exact absurd (List.cons.inj hrest).1 (by decide)
    | cons x' xs =>
      cases ys with
      | nil => exact absurd (List.cons.inj hrest).1 (by decide)
      | cons y' ys =>
        rw [if_neg (by simp), if_neg (by simp), List.append_assoc, List.append_assoc] at hrest
        obtain ⟨htail, hlast⟩ := ih (fun a ha => hxs a (List.mem_cons_of_mem x ha))
          (fun b hb => hys b (List.mem_cons_of_mem x hb)) (List.cons_ne_nil x' xs)
          (List.cons_ne_nil y' ys) (List.append_cancel_left hrest)
        exact ⟨by rw [htail], hlast⟩

/-- A block can be read off if its parts can. -/
theorem block_append_inj {α : Type} {write : α → Text} {good : α → Prop} {level : Nat}
    {opening closing : Char} (hclosing : closing ≠ '\n') {xs ys : List α}
    (hxs : ∀ a ∈ xs, ReadOff write good a) (hys : ∀ b ∈ ys, good b) {r s : Text}
    (h : block level opening closing (xs.map write) ++ r =
      block level opening closing (ys.map write) ++ s) : xs = ys ∧ r = s := by
  -- An opening mark, and behind it a closing one or the lines of the parts.
  have hempty : ∀ r, block level opening closing (([] : List α).map write) ++ r =
      opening :: closing :: r := fun _ => rfl
  have hlines : ∀ (a : α) (as : List α) (r : Text),
      block level opening closing ((a :: as).map write) ++ r =
        opening :: (newline (level + 1) ++
          (joinWith (',' :: newline (level + 1)) ((a :: as).map write) ++
            '\n' :: (fill (2 * level) ' ' ++ closing :: r))) := by
    intro a as r
    simp [block, newline]
  cases xs with
  | nil =>
    cases ys with
    | nil => exact ⟨rfl, List.append_cancel_left h⟩
    | cons y ys =>
      rw [hempty, hlines] at h
      exact absurd (List.cons.inj (List.cons.inj h).2).1 hclosing
  | cons x xs =>
    cases ys with
    | nil =>
      rw [hempty, hlines] at h
      exact absurd (List.cons.inj (List.cons.inj h).2).1.symm hclosing
    | cons y ys =>
      rw [hlines, hlines] at h
      obtain ⟨hparts, hlast⟩ := joinWith_append_inj hxs hys (List.cons_ne_nil x xs)
        (List.cons_ne_nil y ys) (List.append_cancel_left (List.cons.inj h).2)
      exact ⟨hparts, (List.cons.inj (List.append_cancel_left hlast)).2⟩

/-! ### Values -/

theorem readOff_memberText {level : Nat} {m : Text × Json}
    (h : ReadOff (indented level) Exact m.2) :
    ReadOff (memberText level) (fun m => m.2.Exact) m := by
  obtain ⟨key, value⟩ := m
  rintro ⟨key', value'⟩ hgood r s hr hs heq
  simp only [memberText, List.append_assoc] at heq
  obtain ⟨rfl, hrest⟩ := stringText_append_inj heq
  obtain ⟨rfl, hlast⟩ := h value' hgood r s hr hs (List.append_cancel_left hrest)
  exact ⟨rfl, hlast⟩

/-- Values at the front of one text are of one kind. -/
theorem Exact.kind_eq {v w : Json} (hv : v.Exact) (hw : w.Exact) {level : Nat} {r s : Text}
    (h : indented level v ++ r = indented level w ++ s) : v.kind = w.kind := by
  obtain ⟨c, t, hvt, hc⟩ := hv.exists_cons level
  obtain ⟨d, u, hwu, hd⟩ := hw.exists_cons level
  rw [hvt, hwu] at h
  rw [← hc, ← hd, (List.cons.inj h).1]

/-- A value can be read off. The induction is over the items and members of the value; the other
value is of the same kind, so its items and members are compared with them. -/
theorem Exact.readOff {v : Json} (hv : v.Exact) (level : Nat) :
    ReadOff (indented level) Exact v := by
  induction hv generalizing level with
  | null =>
    intro w hw r s _ _ h
    have hkind := Exact.null.kind_eq hw h
    cases hw with
    | null => exact ⟨rfl, List.append_cancel_left h⟩
    | _ => cases hkind
  | bool b =>
    intro w hw r s _ _ h
    have hkind := (Exact.bool b).kind_eq hw h
    cases hw with
    | bool b' =>
      cases b <;> cases b'
      · exact ⟨rfl, List.append_cancel_left h⟩
      · exact absurd (List.cons.inj h).1 (by decide)
      · exact absurd (List.cons.inj h).1 (by decide)
      · exact ⟨rfl, List.append_cancel_left h⟩
    | _ => cases hkind
  | integer n =>
    intro w hw r s hr hs h
    have hkind := (Exact.integer n).kind_eq hw h
    cases hw with
    | integer n' =>
      obtain ⟨rfl, hrest⟩ := ofInt_append_inj hr hs h
      exact ⟨rfl, hrest⟩
    | _ => cases hkind
  | string t =>
    intro w hw r s _ _ h
    have hkind := (Exact.string t).kind_eq hw h
    cases hw with
    | string t' =>
      obtain ⟨rfl, hrest⟩ := stringText_append_inj h
      exact ⟨rfl, hrest⟩
    | _ => cases hkind
  | array each ih =>
    intro w hw r s _ _ h
    have hkind := (Exact.array each).kind_eq hw h
    cases hw with
    | array each' =>
      rw [indented, indented, indentedAll_eq_map, indentedAll_eq_map] at h
      obtain ⟨rfl, hrest⟩ := block_append_inj (by decide)
        (fun item hitem => ih item hitem (level + 1)) each' h
      exact ⟨rfl, hrest⟩
    | _ => cases hkind
  | object each ih =>
    intro w hw r s _ _ h
    have hkind := (Exact.object each).kind_eq hw h
    cases hw with
    | object each' =>
      rw [indented, indented, indentedMembers_eq_map, indentedMembers_eq_map] at h
      obtain ⟨rfl, hrest⟩ := block_append_inj (by decide)
        (fun m hm => readOff_memberText (ih m hm (level + 1))) each' h
      exact ⟨rfl, hrest⟩
    | _ => cases hkind

/-- **An indented text has one reading**: values that are written at the front of one text are
equal, and what follows them is the same. -/
theorem indented_append_inj {v w : Json} (hv : v.Exact) (hw : w.Exact) {level : Nat} {r s : Text}
    (hr : EndsNumeral r) (hs : EndsNumeral s)
    (h : indented level v ++ r = indented level w ++ s) : v = w ∧ r = s :=
  hv.readOff level w hw r s hr hs h

end Json

end SqlInventory
