import SqlInventory.Catalog.Tables
import SqlInventory.Proofs.Catalog.MarkersTaken
import SqlInventory.Proofs.Text.Trimming

/-!
# Which tables a statement names

The tables of a statement are found by a walk over its tokens. Here they are said without a walk, by
the places of tokens.

* `SolidBehind`: the next token behind a place that is not blank. `ChainEnds`: how far a name with
  dots goes. `Unquotes`: what is left of a name without quotation marks. `NamesTable` puts them
  together: the keyword at a place names a table;
* `ListsTables`: a list has each table that is named once, in order of the first place at which it
  is named. There is only one such list (`ListsTables.unique`).

A list of tokens has no places to be missed, but a walk by places has: it looks ahead past a dot and
past blanks, and the tokens may end there. `SqlReading.summaryByPlace` is such a walk, in which
every look-up may fail, and none does.

`summary?_by_places` says all this of a reading.
-/

namespace SqlInventory

/-! ### The tokens that count -/

/-- A keyword that a table follows: `FROM`, `INTO`, `UPDATE`, `TABLE`, or one that ends in
`JOIN`. -/
def SqlToken.Introduces (t : SqlToken) : Prop :=
  t.isKeyword = true ∧
    (t.normalized ∈ ["FROM".toList, "INTO".toList, "UPDATE".toList, "TABLE".toList] ∨
      "JOIN".toList <:+ t.normalized)

/-- A part of a name: a token without a type, or whose type is exactly `Name`. -/
def SqlToken.IsPart (t : SqlToken) : Prop :=
  t.type = none ∨ t.type = some "Name".toList

theorem SqlToken.introducesTable_iff (t : SqlToken) : t.introducesTable = true ↔ t.Introduces := by
  unfold SqlToken.introducesTable SqlToken.Introduces
  rw [Bool.and_eq_true, Bool.or_eq_true, List.contains_iff_mem, List.isSuffixOf_iff_suffix]

theorem SqlToken.isName_iff (t : SqlToken) : t.isName = true ↔ t.IsPart := by
  unfold SqlToken.isName SqlToken.IsPart
  rw [Bool.or_eq_true, Option.isNone_iff_eq_none, beq_iff_eq]

/-! ### Names without quotation marks -/

/-- A quotation mark that may stand around a name. -/
def IsNameQuote (c : Char) : Prop :=
  c = '"' ∨ c = '\'' ∨ c = '`'

/-- **Without the quotation marks around it a text is `name`**, which has none at its own ends. -/
def Unquotes (t name : Text) : Prop :=
  ∃ left right, t = left ++ (name ++ right) ∧ (∀ c ∈ left, IsNameQuote c) ∧
    (∀ c ∈ right, IsNameQuote c) ∧ (∀ c ∈ name.head?, ¬IsNameQuote c) ∧
    ∀ c ∈ name.getLast?, ¬IsNameQuote c

theorem unquoteName_eq_iff {t name : Text} : unquoteName t = name ↔ Unquotes t name := by
  unfold unquoteName Unquotes
  rw [Text.stripBy_eq_iff]
  cases name.head? <;> cases name.getLast? <;> simp [IsNameQuote, or_assoc, and_assoc]

/-! ### Places -/

/-- **The next token behind place `i` that is not blank is at place `j`.** -/
structure SolidBehind (tokens : List SqlToken) (i j : Nat) : Prop where
  lt : i < j
  solid : ∃ t, tokens[j]? = some t ∧ t.isBlank = false
  blanks : ∀ k, i < k → k < j → ∃ t, tokens[k]? = some t ∧ t.isBlank = true

/-- At place `i` there is a dot, and behind it a part of a name. -/
def GoesOn (tokens : List SqlToken) (i : Nat) : Prop :=
  ∃ dot next, tokens[i]? = some dot ∧ dot.value = ['.'] ∧ tokens[i + 1]? = some next ∧ next.IsPart

/-- **The name that starts at place `j` has exactly `n` further parts**, each behind a dot. -/
structure ChainEnds (tokens : List SqlToken) (j n : Nat) : Prop where
  links : ∀ m < n, GoesOn tokens (j + 2 * m + 1)
  maximal : ¬GoesOn tokens (j + 2 * n + 1)

/-- **The keyword at place `i` names a table.** The name starts at the next place with a token that
is not blank; what counts is its last part, without quotation marks. -/
structure NamesTableAt (tokens : List SqlToken) (name : Text) (i j n : Nat) : Prop where
  keyword : ∃ t, tokens[i]? = some t ∧ t.Introduces
  next : SolidBehind tokens i j
  first : ∃ t, tokens[j]? = some t ∧ t.IsPart
  chain : ChainEnds tokens j n
  last : ∃ t, tokens[j + 2 * n]? = some t ∧ Unquotes t.value name
  nonempty : name ≠ []
  table : Text.upper name ∉ ["SELECT".toList, "WHERE".toList, "SET".toList, "VALUES".toList]

/-- The keyword at place `i` names the table `name`. -/
def NamesTable (tokens : List SqlToken) (i : Nat) (name : Text) : Prop :=
  ∃ j n, NamesTableAt tokens name i j n

variable {tokens : List SqlToken}

theorem drop_of_getElem? {i : Nat} {t : SqlToken} (h : tokens[i]? = some t) :
    tokens.drop i = t :: tokens.drop (i + 1) := by
  obtain ⟨hlt, rfl⟩ := List.getElem?_eq_some_iff.mp h
  exact List.drop_eq_getElem_cons hlt

theorem getElem?_of_drop {i : Nat} {t : SqlToken} {rest : List SqlToken}
    (h : tokens.drop i = t :: rest) : tokens[i]? = some t ∧ rest = tokens.drop (i + 1) := by
  constructor
  · rw [← List.head?_drop, h]
    rfl
  · rw [← List.tail_drop, h]
    rfl

/-! ### Names with dots -/

theorem ChainEnds.unique {j n n' : Nat} (h : ChainEnds tokens j n) (h' : ChainEnds tokens j n') :
    n = n' := by
  rcases Nat.lt_trichotomy n n' with hlt | heq | hgt
  · exact absurd (h'.links n hlt) h.maximal
  · exact heq
  · exact absurd (h.links n' hgt) h'.maximal

/-- A name that goes on has one part more than what comes behind the dot. -/
theorem ChainEnds.succ {j n : Nat} (hgoes : GoesOn tokens (j + 1))
    (h : ChainEnds tokens (j + 2) n) : ChainEnds tokens j (n + 1) := by
  refine ⟨fun m hm => ?_, ?_⟩
  · cases m with
    | zero => exact hgoes
    | succ m =>
      have hlink := h.links m (by omega)
      rwa [show j + 2 + 2 * m + 1 = j + 2 * (m + 1) + 1 by omega] at hlink
  · have hend := h.maximal
    rwa [show j + 2 + 2 * n + 1 = j + 2 * (n + 1) + 1 by omega] at hend

/-- **The last part is where the chain ends.** The induction follows the recursion: two tokens are
read with each dot. -/
theorem exists_chainEnds (j : Nat) {first : SqlToken} (hfirst : tokens[j]? = some first) :
    ∃ n last, ChainEnds tokens j n ∧ tokens[j + 2 * n]? = some last ∧
      lastPart first.value (tokens.drop (j + 1)) = last.value := by
  generalize hrest : tokens.drop (j + 1) = rest
  generalize hname : first.value = name
  induction name, rest using lastPart.induct generalizing j first with
  | case1 name dot next rest hgoes ih =>
    obtain ⟨hdot, hnext⟩ := Bool.and_eq_true_iff.mp hgoes
    obtain ⟨hplace, htail⟩ := getElem?_of_drop hrest
    obtain ⟨hplace', htail'⟩ := getElem?_of_drop htail.symm
    have hlink : GoesOn tokens (j + 1) :=
      ⟨dot, next, hplace, beq_iff_eq.mp hdot, hplace', next.isName_iff.mp hnext⟩
    obtain ⟨n, last, hchain, hlast, hpart⟩ := ih (j + 2) hplace' htail'.symm rfl
    refine ⟨n + 1, last, hchain.succ hlink, ?_, ?_⟩
    · rwa [show j + 2 * (n + 1) = j + 2 + 2 * n by omega]
    · rw [lastPart, if_pos hgoes]
      exact hpart
  | case2 name dot next rest hstays =>
    -- There are two tokens, but not a dot and a part.
    refine ⟨0, first, ⟨fun m hm => absurd hm (Nat.not_lt_zero m), ?_⟩, hfirst, ?_⟩
    · rintro ⟨dot', next', hplace, hdot, hplace', hpart⟩
      obtain ⟨hat, htail⟩ := getElem?_of_drop hrest
      obtain ⟨hat', -⟩ := getElem?_of_drop htail.symm
      obtain rfl : dot' = dot := Option.some.inj (hplace.symm.trans hat)
      obtain rfl : next' = next := Option.some.inj (hplace'.symm.trans hat')
      rw [hdot, next'.isName_iff.mpr hpart] at hstays
      exact hstays rfl
    · rw [lastPart, if_neg hstays, hname]
  | case3 name rest hshort =>
    -- The tokens end before there could be two.
    refine ⟨0, first, ⟨fun m hm => absurd hm (Nat.not_lt_zero m), ?_⟩, hfirst, ?_⟩
    · rintro ⟨dot, next, hplace, -, hplace', -⟩
      refine hshort dot next (tokens.drop (j + 3)) ?_
      rw [← hrest, drop_of_getElem? hplace, drop_of_getElem? hplace']
    · rw [lastPart, hname]
      exact hshort

/-! ### The table behind a keyword -/

theorem SolidBehind.unique {i j j' : Nat} (h : SolidBehind tokens i j)
    (h' : SolidBehind tokens i j') : j = j' := by
  -- A place before the other one would have to be both blank and not.
  have hle : ∀ {j j'}, SolidBehind tokens i j → SolidBehind tokens i j' → j ≤ j' := by
    intro j j' h h'
    by_contra hlt
    obtain ⟨t, ht, hsolid⟩ := h'.solid
    obtain ⟨t', ht', hblank⟩ := h.blanks j' h'.lt (by omega)
    obtain rfl := Option.some.inj (ht.symm.trans ht')
    rw [hsolid] at hblank
    cases hblank
  exact Nat.le_antisymm (hle h h') (hle h' h)

/-- Passing over blanks ends at the next token that is not blank, or there is none. The walk is at
place `k`, and all is blank between `i` and `k`. -/
theorem dropWhile_isBlank_cases {i k : Nat} (hik : i < k)
    (hblanks : ∀ m, i < m → m < k → ∃ t, tokens[m]? = some t ∧ t.isBlank = true) :
    ((tokens.drop k).dropWhile SqlToken.isBlank = [] ∧ ∀ j, ¬SolidBehind tokens i j) ∨
      ∃ j t, SolidBehind tokens i j ∧ tokens[j]? = some t ∧
        (tokens.drop k).dropWhile SqlToken.isBlank = t :: tokens.drop (j + 1) := by
  generalize hrest : tokens.drop k = rest
  induction rest generalizing k with
  | nil =>
    refine Or.inl ⟨rfl, fun j hj => ?_⟩
    -- The tokens end at `k` or before, so the solid token would be one of the blanks.
    obtain ⟨t, ht, hsolid⟩ := hj.solid
    obtain ⟨hlt, -⟩ := List.getElem?_eq_some_iff.mp ht
    have hend := List.drop_eq_nil_iff.mp hrest
    obtain ⟨t', ht', hblank⟩ := hblanks j hj.lt (by omega)
    obtain rfl := Option.some.inj (ht.symm.trans ht')
    rw [hsolid] at hblank
    cases hblank
  | cons t rest ih =>
    obtain ⟨hplace, htail⟩ := getElem?_of_drop hrest
    by_cases hblank : t.isBlank = true
    · rw [List.dropWhile_cons_of_pos hblank]
      refine ih (k := k + 1) (by omega) (fun m him hmk => ?_) htail.symm
      by_cases hm : m = k
      · exact ⟨t, hm ▸ hplace, hblank⟩
      · exact hblanks m him (by omega)
    · rw [List.dropWhile_cons_of_neg hblank, htail]
      exact Or.inr ⟨k, t, ⟨hik, ⟨t, hplace, Bool.eq_false_iff.mpr hblank⟩, hblanks⟩, hplace, rfl⟩

/-- The table that the last part of a name means, if it means one. -/
def tableMeant? (last : Text) : Option Text :=
  let name := unquoteName last
  if name.isEmpty || notTables.contains (Text.upper name) then none else some name

theorem tableMeant?_eq_some_iff {last name : Text} :
    tableMeant? last = some name ↔ Unquotes last name ∧ name ≠ [] ∧
      Text.upper name ∉ ["SELECT".toList, "WHERE".toList, "SET".toList, "VALUES".toList] := by
  rw [← unquoteName_eq_iff]
  unfold tableMeant?
  simp only [Bool.or_eq_true, List.isEmpty_iff, List.contains_iff_mem]
  constructor
  · intro h
    split at h
    · cases h
    · next hnone =>
      obtain rfl := Option.some.inj h
      exact ⟨rfl, fun hempty => hnone (Or.inl hempty), fun hword => hnone (Or.inr hword)⟩
  · rintro ⟨rfl, hnonempty, hword⟩
    rw [if_neg]
    rintro (hempty | hlisted)
    · exact hnonempty hempty
    · exact hword hlisted

/-- The table at the front of some tokens, read from the first one that is not blank. -/
theorem tableAt?_of_dropWhile {t : SqlToken} {rest behind : List SqlToken}
    (h : rest.dropWhile SqlToken.isBlank = t :: behind) :
    tableAt? rest = if t.isName then tableMeant? (lastPart t.value behind) else none := by
  unfold tableAt?
  rw [h]
  rfl

/-- **What a keyword names.** -/
theorem tableAt?_drop_eq_some_iff {i : Nat} {name : Text} {keyword : SqlToken}
    (hkeyword : tokens[i]? = some keyword) (hintroduces : keyword.Introduces) :
    tableAt? (tokens.drop (i + 1)) = some name ↔ NamesTable tokens i name := by
  have hnone : ∀ m, i < m → m < i + 1 → ∃ t, tokens[m]? = some t ∧ t.isBlank = true := by
    intro m him hmi
    omega
  rcases dropWhile_isBlank_cases (Nat.lt_succ_self i) hnone with
    ⟨hblank, hnext⟩ | ⟨j, t, hnext, hplace, hdrop⟩
  · -- Nothing but blanks follows.
    constructor
    · intro h
      unfold tableAt? at h
      rw [hblank] at h
      cases h
    · rintro ⟨j, n, hnames⟩
      exact absurd hnames.next (hnext j)
  · obtain ⟨n, last, hchain, hlast, hpart⟩ := exists_chainEnds j hplace
    rw [tableAt?_of_dropWhile hdrop, hpart]
    constructor
    · intro h
      split at h
      · next hname =>
        obtain ⟨hunquoted, hnonempty, hword⟩ := tableMeant?_eq_some_iff.mp h
        exact ⟨j, n, ⟨keyword, hkeyword, hintroduces⟩, hnext, ⟨t, hplace, t.isName_iff.mp hname⟩,
          hchain, ⟨last, hlast, hunquoted⟩, hnonempty, hword⟩
      · cases h
    · rintro ⟨j', n', hnames⟩
      -- There is one next token and one end of the chain.
      obtain rfl := hnames.next.unique hnext
      obtain rfl := hnames.chain.unique hchain
      obtain ⟨first, hfirst, hispart⟩ := hnames.first
      obtain rfl := Option.some.inj (hfirst.symm.trans hplace)
      obtain ⟨last', hlast', hunquoted⟩ := hnames.last
      obtain rfl := Option.some.inj (hlast'.symm.trans hlast)
      rw [if_pos (first.isName_iff.mpr hispart)]
      exact tableMeant?_eq_some_iff.mpr ⟨hunquoted, hnames.nonempty, hnames.table⟩

/-! ### The tables of all keywords -/

/-- The table that the keyword at a place names, if there is a keyword and it names one. -/
def tableNamed? (tokens : List SqlToken) (i : Nat) : Option Text :=
  match tokens[i]? with
  | some t => if t.introducesTable then tableAt? (tokens.drop (i + 1)) else none
  | none => none

theorem tableNamed?_eq_some_iff {i : Nat} {name : Text} :
    tableNamed? tokens i = some name ↔ NamesTable tokens i name := by
  unfold tableNamed?
  cases hplace : tokens[i]? with
  | none =>
    constructor
    · intro h
      cases h
    · rintro ⟨j, n, hnames⟩
      obtain ⟨t, ht, -⟩ := hnames.keyword
      rw [hplace] at ht
      cases ht
  | some t =>
    by_cases hintroduces : t.introducesTable = true
    · simp only [hintroduces, if_true]
      exact tableAt?_drop_eq_some_iff hplace (t.introducesTable_iff.mp hintroduces)
    · simp only [hintroduces]
      constructor
      · intro h
        cases h
      · rintro ⟨j, n, hnames⟩
        obtain ⟨t', ht', hkeyword⟩ := hnames.keyword
        obtain rfl := Option.some.inj (hplace.symm.trans ht')
        exact absurd (t.introducesTable_iff.mpr hkeyword) hintroduces

/-- **The walk lists what is named, place by place.** -/
theorem tablesOf_drop (i : Nat) :
    tablesOf (tokens.drop i) =
      (List.range' i (tokens.length - i)).filterMap (tableNamed? tokens) := by
  generalize hrest : tokens.drop i = rest
  induction rest generalizing i with
  | nil =>
    have hend := List.drop_eq_nil_iff.mp hrest
    rw [Nat.sub_eq_zero_of_le hend]
    rfl
  | cons t rest ih =>
    obtain ⟨hplace, htail⟩ := getElem?_of_drop hrest
    obtain ⟨hlt, -⟩ := List.getElem?_eq_some_iff.mp hplace
    obtain ⟨count, hcount⟩ : ∃ count, tokens.length - i = count + 1 :=
      ⟨tokens.length - (i + 1), by omega⟩
    have hbehind := ih (i + 1) htail.symm
    rw [show tokens.length - (i + 1) = count by omega] at hbehind
    have hnamed : tableNamed? tokens i = if t.introducesTable then tableAt? rest else none := by
      unfold tableNamed?
      rw [hplace, htail]
    rw [hcount, List.range'_succ, List.filterMap_cons, hnamed, ← hbehind, tablesOf]
    cases (if t.introducesTable = true then tableAt? rest else none) <;> rfl

theorem tablesOf_eq_filterMap (tokens : List SqlToken) :
    tablesOf tokens = (List.range tokens.length).filterMap (tableNamed? tokens) := by
  have h : tablesOf (tokens.drop 0) = _ := tablesOf_drop 0
  rwa [List.drop_zero, Nat.sub_zero, ← List.range_eq_range'] at h

theorem mem_tablesOf_iff {name : Text} :
    name ∈ tablesOf tokens ↔ ∃ i, NamesTable tokens i name := by
  rw [tablesOf_eq_filterMap, List.mem_filterMap]
  constructor
  · rintro ⟨i, -, h⟩
    exact ⟨i, tableNamed?_eq_some_iff.mp h⟩
  · rintro ⟨i, hnames⟩
    obtain ⟨j, n, hat⟩ := hnames
    obtain ⟨t, ht, -⟩ := hat.keyword
    obtain ⟨hlt, -⟩ := List.getElem?_eq_some_iff.mp ht
    exact ⟨i, List.mem_range.mpr hlt, tableNamed?_eq_some_iff.mpr ⟨j, n, hat⟩⟩

/-- `a` is named somewhere before `b` is named for the first time. -/
def NamedBefore (tokens : List SqlToken) (a b : Text) : Prop :=
  ∃ i, NamesTable tokens i a ∧ ∀ k, NamesTable tokens k b → i < k

/-- **A list has each table that is named once**, in order of the first place at which it is
named. -/
structure ListsTables (tokens : List SqlToken) (tables : List Text) : Prop where
  mem_iff : ∀ name, name ∈ tables ↔ ∃ i, NamesTable tokens i name
  inOrder : tables.Pairwise (NamedBefore tokens)

/-- What comes first in the list of the walk is named before. -/
theorem namedBefore_of_idxOf_lt {a b : Text} (ha : a ∈ tablesOf tokens) (hb : b ∈ tablesOf tokens)
    (hlt : (tablesOf tokens).idxOf a < (tablesOf tokens).idxOf b) : NamedBefore tokens a b := by
  -- Cut the list before the first `a`; there is no `b` in front of it.
  have hindex := List.idxOf_lt_length_iff.mpr ha
  have hcut : tablesOf tokens = (tablesOf tokens).take ((tablesOf tokens).idxOf a) ++
      a :: (tablesOf tokens).drop ((tablesOf tokens).idxOf a + 1) := by
    have hhead := List.drop_eq_getElem_cons hindex
    rw [List.getElem_idxOf] at hhead
    rw [← hhead, List.take_append_drop]
  have hfront : b ∉ (tablesOf tokens).take ((tablesOf tokens).idxOf a) := by
    rw [List.mem_take_iff_idxOf_lt hb]
    omega
  generalize (tablesOf tokens).take ((tablesOf tokens).idxOf a) = front at hcut hfront
  have hne : a ≠ b := by
    rintro rfl
    exact Nat.lt_irrefl _ hlt
  -- The places are cut in the same way.
  rw [tablesOf_eq_filterMap] at hcut
  obtain ⟨places, behind, hplaces, hleft, hright⟩ := List.filterMap_eq_append_iff.mp hcut
  obtain ⟨skipped, i, later, rfl, hskipped, hi, -⟩ := List.filterMap_eq_cons_iff.mp hright
  refine ⟨i, tableNamed?_eq_some_iff.mp hi, fun k hk => ?_⟩
  have hk' := tableNamed?_eq_some_iff.mpr hk
  have hmem : k ∈ places ++ (skipped ++ i :: later) := by
    obtain ⟨j, n, hat⟩ := hk
    obtain ⟨t, ht, -⟩ := hat.keyword
    rw [← hplaces, List.mem_range]
    exact (List.getElem?_eq_some_iff.mp ht).1
  have hsorted : (places ++ (skipped ++ i :: later)).Pairwise (· < ·) :=
    hplaces ▸ List.pairwise_lt_range
  rcases List.mem_append.mp hmem with hmem | hmem
  · exact absurd (hleft ▸ List.mem_filterMap.mpr ⟨k, hmem, hk'⟩) hfront
  · rcases List.mem_append.mp hmem with hmem | hmem
    · rw [hskipped k hmem] at hk'
      cases hk'
    · rcases List.mem_cons.mp hmem with rfl | hmem
      · exact absurd (Option.some.inj (hi.symm.trans hk')) hne
      · have hbehind := (List.pairwise_append.mp (List.pairwise_append.mp hsorted).2.1).2.1
        exact List.rel_of_pairwise_cons hbehind hmem

theorem listsTables_tablesOf (tokens : List SqlToken) :
    ListsTables tokens (tablesOf tokens).eraseDups := by
  refine ⟨fun name => ?_, ?_⟩
  · rw [List.mem_eraseDups, mem_tablesOf_iff]
  · refine (pairwise_idxOf_eraseDups (tablesOf tokens)).imp_of_mem fun ha hb hlt => ?_
    exact namedBefore_of_idxOf_lt (List.mem_eraseDups.mp ha) (List.mem_eraseDups.mp hb) hlt

/-- No table is named before itself, so none is listed twice. -/
theorem ListsTables.nodup {tables : List Text} (h : ListsTables tokens tables) : tables.Nodup := by
  refine h.inOrder.imp fun {a b} hbefore heq => ?_
  obtain ⟨i, hi, hfirst⟩ := hbefore
  subst heq
  exact Nat.lt_irrefl i (hfirst i hi)

/-- **There is only one such list.** -/
theorem ListsTables.unique {tables tables' : List Text} (h : ListsTables tokens tables)
    (h' : ListsTables tokens tables') : tables = tables' := by
  have hperm : tables.Perm tables' := by
    rw [List.perm_ext_iff_of_nodup h.nodup h'.nodup]
    intro name
    rw [h.mem_iff, h'.mem_iff]
  refine List.Perm.eq_of_pairwise ?_ h.inOrder h'.inOrder hperm
  rintro a b - - ⟨i, hi, hib⟩ ⟨k, hk, hka⟩
  exact absurd (hib k hk) (Nat.lt_asymm (hka i hi))

/-! ### The walk by places -/

/-- The token at a place. A place without a token is an error. -/
def tokenAt (tokens : List SqlToken) (i : Nat) : Except Nat SqlToken :=
  match tokens[i]? with
  | some t => .ok t
  | none => .error i

/-- The last part of a name of which `name` is read, with the tokens to come from place `i` on. -/
def lastPartFrom (tokens : List SqlToken) (name : Text) (i : Nat) : Except Nat Text :=
  if i + 1 < tokens.length then do
    let dot ← tokenAt tokens i
    if dot.value == ['.'] then
      let next ← tokenAt tokens (i + 1)
      if next.isName then lastPartFrom tokens next.value (i + 2) else pure name
    else pure name
  else pure name
termination_by tokens.length - i

/-- The table named at the first place from `j` on that is not blank. -/
def tableFrom (tokens : List SqlToken) (j : Nat) : Except Nat (Option Text) :=
  if j < tokens.length then do
    let next ← tokenAt tokens j
    if next.isBlank then tableFrom tokens (j + 1)
    else if next.isName then
      let first ← tokenAt tokens j
      let last ← lastPartFrom tokens first.value (j + 1)
      pure (tableMeant? last)
    else pure none
  else pure none
termination_by tokens.length - j

/-- The tables named by the keywords from place `i` on. -/
def tablesFrom (tokens : List SqlToken) (i : Nat) : Except Nat (List Text) :=
  if i < tokens.length then do
    let t ← tokenAt tokens i
    let named ← if t.introducesTable then tableFrom tokens (i + 1) else pure none
    let later ← tablesFrom tokens (i + 1)
    pure (named.toList ++ later)
  else pure []
termination_by tokens.length - i

/-- The summary of a statement by a walk over the places of its tokens. Looking at a place without a
token is an error, with the place. -/
def SqlReading.summaryByPlace : SqlReading → Except Nat (Option SqlSummary)
  | .statement (some command) tokens =>
    if command.isEmpty || command == "UNKNOWN".toList then pure none
    else do
      let tables ← tablesFrom tokens 0
      pure (some ⟨command, tables.eraseDups⟩)
  | _ => pure none

theorem tokenAt_of_drop {i : Nat} {t : SqlToken} {rest : List SqlToken}
    (h : tokens.drop i = t :: rest) : tokenAt tokens i = .ok t := by
  unfold tokenAt
  rw [(getElem?_of_drop h).1]

theorem lt_length_of_drop {i : Nat} {t : SqlToken} {rest : List SqlToken}
    (h : tokens.drop i = t :: rest) : i < tokens.length :=
  (List.getElem?_eq_some_iff.mp (getElem?_of_drop h).1).1

/-- The look ahead past a dot stays within the tokens. -/
theorem lastPartFrom_eq (name : Text) (i : Nat) :
    lastPartFrom tokens name i = .ok (lastPart name (tokens.drop i)) := by
  generalize hrest : tokens.drop i = rest
  induction name, rest using lastPart.induct generalizing i with
  | case1 name dot next rest hgoes ih =>
    obtain ⟨hdot, hnext⟩ := Bool.and_eq_true_iff.mp hgoes
    have htail := (getElem?_of_drop hrest).2
    have htail' := (getElem?_of_drop htail.symm).2
    rw [lastPartFrom, if_pos (lt_length_of_drop htail.symm), tokenAt_of_drop hrest,
      tokenAt_of_drop htail.symm, lastPart, if_pos hgoes, ← ih (i + 2) htail'.symm]
    show (if dot.value == ['.'] then _ else _) = _
    rw [if_pos hdot]
    show (if next.isName = true then _ else _) = _
    rw [if_pos hnext]
  | case2 name dot next rest hstays =>
    have htail := (getElem?_of_drop hrest).2
    rw [lastPartFrom, if_pos (lt_length_of_drop htail.symm), tokenAt_of_drop hrest,
      tokenAt_of_drop htail.symm, lastPart, if_neg hstays]
    show (if dot.value == ['.'] then _ else _) = _
    split
    · next hdot =>
      rw [hdot, Bool.true_and] at hstays
      show (if next.isName = true then _ else _) = _
      rw [if_neg hstays]
      rfl
    · rfl
  | case3 name rest hshort =>
    have hend : ¬i + 1 < tokens.length := by
      intro hlt
      refine hshort tokens[i] tokens[i + 1] (tokens.drop (i + 2)) ?_
      rw [← hrest, List.drop_eq_getElem_cons (Nat.lt_of_succ_lt hlt),
        List.drop_eq_getElem_cons hlt]
    rw [lastPartFrom, if_neg hend, lastPart]
    · rfl
    · exact hshort

theorem tableFrom_eq (j : Nat) : tableFrom tokens j = .ok (tableAt? (tokens.drop j)) := by
  generalize hrest : tokens.drop j = rest
  induction rest generalizing j with
  | nil =>
    have hend := List.drop_eq_nil_iff.mp hrest
    rw [tableFrom, if_neg (by omega)]
    rfl
  | cons t rest ih =>
    have htail := (getElem?_of_drop hrest).2
    rw [tableFrom, if_pos (lt_length_of_drop hrest), tokenAt_of_drop hrest]
    show (if t.isBlank = true then _ else _) = _
    by_cases hblank : t.isBlank = true
    · rw [if_pos hblank, ih (j + 1) htail.symm]
      unfold tableAt?
      rw [List.dropWhile_cons_of_pos hblank]
    · rw [if_neg hblank, tableAt?_of_dropWhile (List.dropWhile_cons_of_neg hblank)]
      split
      · show (lastPartFrom tokens t.value (j + 1) >>= fun last => pure (tableMeant? last)) = _
        rw [lastPartFrom_eq, ← htail]
        rfl
      · rfl

theorem tablesFrom_eq (i : Nat) : tablesFrom tokens i = .ok (tablesOf (tokens.drop i)) := by
  generalize hrest : tokens.drop i = rest
  induction rest generalizing i with
  | nil =>
    have hend := List.drop_eq_nil_iff.mp hrest
    rw [tablesFrom, if_neg (by omega)]
    rfl
  | cons t rest ih =>
    have htail := (getElem?_of_drop hrest).2
    rw [tablesFrom, if_pos (lt_length_of_drop hrest), tokenAt_of_drop hrest,
      ih (i + 1) htail.symm, tableFrom_eq, ← htail, tablesOf]
    simp only [bind, Except.bind, pure, Except.pure]
    by_cases hintroduces : t.introducesTable = true
    · rw [if_pos hintroduces, if_pos hintroduces]
      cases tableAt? rest <;> rfl
    · rw [if_neg hintroduces, if_neg hintroduces]
      rfl

/-- **No look-up leaves the tokens**, and the walk finds what is found. -/
theorem summaryByPlace_eq (reading : SqlReading) :
    reading.summaryByPlace = .ok reading.summary? := by
  cases reading with
  | failed => rfl
  | nothing => rfl
  | statement type tokens =>
    cases type with
    | none => rfl
    | some command =>
      unfold SqlReading.summaryByPlace SqlReading.summary?
      dsimp only
      split
      · rfl
      · rw [tablesFrom_eq, List.drop_zero]
        rfl

/-! ### Readings -/

/-- **A reading without a known type**: the reader broke down, there is no statement, or the
statement has no type, an empty one, or the type `UNKNOWN`. -/
def SqlReading.LacksType (reading : SqlReading) : Prop :=
  reading = .failed ∨ reading = .nothing ∨ ∃ type tokens, reading = .statement type tokens ∧
    (type = none ∨ type = some [] ∨ type = some "UNKNOWN".toList)

theorem summary?_statement {command : Text} (tokens : List SqlToken) (hempty : command ≠ [])
    (hknown : command ≠ "UNKNOWN".toList) :
    (SqlReading.statement (some command) tokens).summary? =
      some ⟨command, (tablesOf tokens).eraseDups⟩ := by
  have htype : ¬(command.isEmpty || command == "UNKNOWN".toList) = true := by
    rw [Bool.or_eq_true, List.isEmpty_iff, beq_iff_eq]
    exact not_or.mpr ⟨hempty, hknown⟩
  exact if_neg htype

/-- Every reading lacks a type or has a known one. -/
theorem lacksType_or (reading : SqlReading) :
    (reading.LacksType ∧ reading.summary? = none) ∨
      ∃ command tokens, reading = .statement (some command) tokens ∧ command ≠ [] ∧
        command ≠ "UNKNOWN".toList := by
  cases reading with
  | failed => exact Or.inl ⟨Or.inl rfl, rfl⟩
  | nothing => exact Or.inl ⟨Or.inr (Or.inl rfl), rfl⟩
  | statement type tokens =>
    cases type with
    | none => exact Or.inl ⟨Or.inr (Or.inr ⟨none, tokens, rfl, Or.inl rfl⟩), rfl⟩
    | some command =>
      by_cases hempty : command = []
      · subst hempty
        exact Or.inl ⟨Or.inr (Or.inr ⟨_, tokens, rfl, Or.inr (Or.inl rfl)⟩), rfl⟩
      · by_cases hunknown : command = "UNKNOWN".toList
        · subst hunknown
          exact Or.inl ⟨Or.inr (Or.inr ⟨_, tokens, rfl, Or.inr (Or.inr rfl)⟩), rfl⟩
        · exact Or.inr ⟨command, tokens, rfl, hempty, hunknown⟩

theorem not_lacksType {command : Text} {tokens : List SqlToken} (hempty : command ≠ [])
    (hknown : command ≠ "UNKNOWN".toList) :
    ¬(SqlReading.statement (some command) tokens).LacksType := by
  rintro (h | h | ⟨type, tokens', heq, h⟩)
  · cases h
  · cases h
  · obtain ⟨rfl, rfl⟩ := SqlReading.statement.inj heq
    rcases h with h | h | h
    · cases h
    · exact hempty (Option.some.inj h)
    · exact hknown (Option.some.inj h)

/-- **What is known of a statement, said by places.** There is a summary unless the reading lacks a
type. The summary has that type, and each table that a keyword names, once and in order of first
appearance; no other list will do. The walk by places, in which a place without a token would be an
error, gives the same answer. -/
theorem summary?_by_places (reading : SqlReading) :
    (reading.summary? = none ↔ reading.LacksType) ∧
    (∀ s : SqlSummary, reading.summary? = some s ↔
      ¬reading.LacksType ∧
        ∃ tokens, reading = .statement (some s.command) tokens ∧ ListsTables tokens s.tables) ∧
    reading.summaryByPlace = .ok reading.summary? := by
  rcases lacksType_or reading with ⟨hlacks, hnone⟩ | ⟨command, tokens, rfl, hempty, hknown⟩
  · refine ⟨iff_of_true hnone hlacks, fun s => iff_of_false ?_ ?_, summaryByPlace_eq reading⟩
    · rw [hnone]
      exact (Option.some_ne_none s).symm
    · exact fun h => h.1 hlacks
  · have hhas : ¬(SqlReading.statement (some command) tokens).LacksType :=
      not_lacksType hempty hknown
    rw [summaryByPlace_eq, summary?_statement tokens hempty hknown]
    refine ⟨iff_of_false (Option.some_ne_none _) hhas, fun s => ?_, rfl⟩
    constructor
    · intro h
      obtain rfl := Option.some.inj h
      exact ⟨hhas, tokens, rfl, listsTables_tablesOf tokens⟩
    · rintro ⟨-, tokens', heq, hlists⟩
      obtain ⟨hcommand, rfl⟩ := SqlReading.statement.inj heq
      -- The list is determined by the tokens.
      rw [Option.some.inj hcommand, (listsTables_tablesOf tokens).unique hlists]

/-- Behind the keywords of these tokens come a quoted name with a dot, a name whose dot leads
nowhere, a quoted word that is no table, the first table again, and nothing. -/
def joinedTokens : List SqlToken :=
  let blank : SqlToken := ⟨some "Text.Whitespace", " ", " ", false, true⟩
  let dot : SqlToken := ⟨some "Punctuation", ".", ".", false, false⟩
  let keyword : SqlToken := ⟨some "Keyword", "from", "FROM", true, false⟩
  [⟨some "Keyword.DML", "select", "SELECT", true, false⟩, blank,
    ⟨some "Wildcard", "*", "*", false, false⟩, blank, keyword, blank,
    ⟨some "Name", "\"db\"", "\"db\"", false, false⟩, dot,
    ⟨none, "\"Users\"", "\"Users\"", false, false⟩, blank,
    ⟨some "Keyword", "left join", "LEFT JOIN", true, false⟩, blank, blank,
    ⟨some "Name", "log", "log", false, false⟩, dot, keyword, blank,
    ⟨some "Name", "`Set`", "`Set`", false, false⟩, blank, keyword, blank,
    ⟨some "Name", "`Users`", "`Users`", false, false⟩, blank, keyword]

/-- Of the quoted name with a dot the last part is listed, and it is listed once. -/
theorem joinedTokens_tables :
    (SqlReading.statement (some "SELECT") joinedTokens).summary? =
      some ⟨"SELECT", ["Users", "log"]⟩ ∧
    ListsTables joinedTokens ["Users", "log"] := by
  have hsummary : (SqlReading.statement (some "SELECT") joinedTokens).summary? =
      some ⟨"SELECT", ["Users", "log"]⟩ := by
    rfl
  obtain ⟨-, tokens, heq, hlists⟩ := ((summary?_by_places _).2.1 _).mp hsummary
  obtain rfl := (SqlReading.statement.inj heq).2
  exact ⟨hsummary, hlists⟩

end SqlInventory
