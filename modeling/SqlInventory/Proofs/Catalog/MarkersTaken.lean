import SqlInventory.Catalog.Marker
import SqlInventory.Proofs.Text.Matching
import Mathlib.Data.List.Nodup

/-!
# Taking the markers out leaves no marker behind

A marker is the shortest stretch of a line that stands between two pairs of underscores
(`frontMarker?_eq_some_iff`). Markers may touch, share runs of underscores, or be cut off by the end
of a line. Still, once the markers of a statement are replaced, the result has no marker but those
of the entity, which stand where they stood.

The walk through a statement takes one of two steps: it passes a character, or it takes a marker.
`markerWalk` is the induction over these steps, and each function of this module has one equation
per step. The question is whether a place that was passed may start a marker once other markers are
replaced further on. It may not:

* a place that does not start with two underscores still does not, because nothing that is put in
  gives an underscore that was not there (`head?_substituteMarkers`);
* at a place that does, a marker was missed because nothing closes it on its line. Then no marker
  starts on the rest of this line either, so the line stays as it is
  (`markerName?_substituteMarkers`).

`extractMarkers_no_residue` is the result, together with what is listed of the markers.
-/

namespace SqlInventory

/-! ### Names -/

/-- A text starts with a name and two underscores behind it: the name is on one line, no shorter one
would do, and it has a character if one is `needed`. -/
structure ClosesName (needed : Bool) (t name : Text) : Prop where
  /-- The two underscores stand behind the name. -/
  closed : name ++ ['_', '_'] <+: t
  /-- There is a character if one is needed. -/
  nonempty : needed = true → name ≠ []
  /-- The name is on one line. -/
  inLine : '\n' ∉ name
  /-- No shorter name is closed. -/
  shortest : ∀ shorter : Text, (needed = true → shorter ≠ []) → shorter ++ ['_', '_'] <+: t →
    name.length ≤ shorter.length

/-- Behind a first character that closes nothing, a name goes on as one that needs no character. -/
theorem closesName_cons_iff {needed : Bool} {c : Char} {t name : Text}
    (hopen : ¬(needed = false ∧ ['_', '_'] <+: c :: t)) :
    ClosesName needed (c :: t) name ↔
      c ≠ '\n' ∧ ∃ tail, ClosesName false t tail ∧ c :: tail = name := by
  -- The name has a first character, which is `c`.
  have hcons : ∀ candidate : Text, (needed = true → candidate ≠ []) →
      candidate ++ ['_', '_'] <+: c :: t →
        ∃ tail, candidate = c :: tail ∧ tail ++ ['_', '_'] <+: t := by
    intro candidate hneeded hclosed
    cases candidate with
    | nil =>
      refine absurd ⟨?_, hclosed⟩ hopen
      exact Bool.eq_false_iff.mpr fun h => hneeded h rfl
    | cons d tail =>
      obtain ⟨rfl, htail⟩ := List.cons_prefix_cons.mp hclosed
      exact ⟨tail, rfl, htail⟩
  constructor
  · intro h
    obtain ⟨tail, rfl, htail⟩ := hcons name h.nonempty h.closed
    refine ⟨(List.ne_of_not_mem_cons h.inLine).symm, tail,
      ⟨htail, nofun, List.not_mem_of_not_mem_cons h.inLine, ?_⟩, rfl⟩
    intro shorter _ hshorter
    exact Nat.le_of_succ_le_succ (h.shortest (c :: shorter) (fun _ => List.cons_ne_nil _ _)
      (List.cons_prefix_cons.mpr ⟨rfl, hshorter⟩))
  · rintro ⟨hc, tail, htail, rfl⟩
    refine ⟨List.cons_prefix_cons.mpr ⟨rfl, htail.closed⟩, fun _ => List.cons_ne_nil _ _,
      List.not_mem_cons_of_ne_of_not_mem hc.symm htail.inLine, ?_⟩
    intro shorter hneeded hshorter
    obtain ⟨rest, rfl, hrest⟩ := hcons shorter hneeded hshorter
    exact Nat.succ_le_succ (htail.shortest rest nofun hrest)

theorem markerName?_eq_some_iff {needed : Bool} {t name : Text} :
    markerName? needed t = some name ↔ ClosesName needed t name := by
  induction t generalizing needed name with
  | nil =>
    refine iff_of_false nofun fun h => ?_
    simpa using List.prefix_nil.mp h.closed
  | cons c t ih =>
    rw [markerName?]
    by_cases hclosed : needed = false ∧ ['_', '_'] <+: c :: t
    · -- The underscores are at the front, so the name is complete.
      obtain ⟨rfl, hfence⟩ := hclosed
      have hfront : (!false && markerFence.isPrefixOf (c :: t)) = true :=
        List.isPrefixOf_iff_prefix.mpr hfence
      rw [if_pos hfront, Option.some.injEq]
      constructor
      · rintro rfl
        exact ⟨hfence, nofun, List.not_mem_nil, fun _ _ _ => Nat.zero_le _⟩
      · intro h
        exact (List.eq_nil_of_length_eq_zero (Nat.le_zero.mp (h.shortest [] nofun hfence))).symm
    · have hnot : ¬(!needed && markerFence.isPrefixOf (c :: t)) = true := by
        rwa [Bool.and_eq_true, Bool.not_eq_true', List.isPrefixOf_iff_prefix]
      rw [if_neg hnot, closesName_cons_iff hclosed]
      by_cases hc : c = '\n'
      · rw [if_pos hc]
        exact iff_of_false nofun fun h => h.1 hc
      · rw [if_neg hc, Option.map_eq_some_iff]
        simp only [ih, ne_eq, hc, not_false_eq_true, true_and]

/-- Asking for one more character finds no name where there was none. -/
theorem markerName?_true_of_false {t : Text} (h : markerName? false t = none) :
    markerName? true t = none := by
  cases t with
  | nil => rfl
  | cons c t =>
    rw [markerName?] at h ⊢
    split at h
    · cases h
    · exact h

/-- Where nothing closes a name, it is not closed here, and not later on this line. -/
theorem markerName?_false_cons_eq_none_iff {c : Char} {t : Text} :
    markerName? false (c :: t) = none ↔
      markerFence.isPrefixOf (c :: t) = false ∧ (c = '\n' ∨ markerName? false t = none) := by
  rw [markerName?]
  cases markerFence.isPrefixOf (c :: t) <;> by_cases hc : c = '\n' <;> simp [hc]

theorem markerName?_true_cons_eq_none_iff {c : Char} {t : Text} :
    markerName? true (c :: t) = none ↔ c = '\n' ∨ markerName? false t = none := by
  rw [markerName?]
  by_cases hc : c = '\n' <;> simp [hc]

/-! ### Markers -/

/-- Whether a text starts with a marker, and which. -/
def frontMarker? (t : Text) : Option Text :=
  (markerRule none t).map Prod.snd

theorem markerRule_eq (before : Option Char) (t : Text) :
    markerRule before t = (frontMarker? t).map fun name => (name.length + 4, name) := by
  unfold frontMarker? markerRule
  split
  · rw [Option.map_map, Option.map_map]
    rfl
  · rfl

/-- Two underscores that no name follows, or anything else, start no marker. -/
theorem frontMarker?_eq_none_iff {t : Text} :
    frontMarker? t = none ↔
      markerFence.isPrefixOf t = true → markerName? true (t.drop 2) = none := by
  unfold frontMarker? markerRule
  cases markerFence.isPrefixOf t <;> simp

/-- A text starts with a marker: a name between two pairs of underscores, which has at least one
character, is on one line, and is the shortest such name there. -/
structure StartsWithMarker (t name : Text) : Prop where
  /-- The name stands between two pairs of underscores. -/
  written : ['_', '_'] ++ name ++ ['_', '_'] <+: t
  /-- It has a character. -/
  nonempty : name ≠ []
  /-- It is on one line. -/
  inLine : '\n' ∉ name
  /-- No shorter name with a character stands between pairs of underscores. -/
  shortest : ∀ shorter : Text, shorter ≠ [] → ['_', '_'] ++ shorter ++ ['_', '_'] <+: t →
    name.length ≤ shorter.length

/-- **What a marker is.** The rule finds a name at the front of a text if and only if the text starts
with a marker of this name. -/
theorem frontMarker?_eq_some_iff {t name : Text} :
    frontMarker? t = some name ↔ StartsWithMarker t name := by
  unfold frontMarker? markerRule
  split
  · next hfence =>
    obtain ⟨rest, rfl⟩ := List.isPrefixOf_iff_prefix.mp hfence
    have hbehind : ∀ candidate : Text,
        ['_', '_'] ++ candidate ++ ['_', '_'] <+: markerFence ++ rest ↔
          candidate ++ ['_', '_'] <+: rest := by
      intro candidate
      rw [List.append_assoc]
      exact List.prefix_append_right_inj markerFence
    have hname : ((markerName? true ((markerFence ++ rest).drop 2)).map fun name =>
        (name.length + 4, name)).map Prod.snd = markerName? true rest := by
      rw [Option.map_map]
      exact Option.map_id'
    rw [hname, markerName?_eq_some_iff]
    constructor
    · intro h
      exact ⟨(hbehind name).mpr h.closed, h.nonempty rfl, h.inLine, fun shorter hne hshorter =>
        h.shortest shorter (fun _ => hne) ((hbehind shorter).mp hshorter)⟩
    · intro h
      exact ⟨(hbehind name).mp h.written, fun _ => h.nonempty, h.inLine, fun shorter hne hshorter =>
        h.shortest shorter (hne rfl) ((hbehind shorter).mpr hshorter)⟩
  · next hfence =>
    refine iff_of_false nofun fun h => hfence (List.isPrefixOf_iff_prefix.mpr ?_)
    exact (List.prefix_append _ (name ++ ['_', '_'])).trans (List.append_assoc .. ▸ h.written)

theorem exists_of_frontMarker? {t name : Text} (h : frontMarker? t = some name) :
    ∃ rest, t = markerText name ++ rest := by
  obtain ⟨rest, hrest⟩ := (frontMarker?_eq_some_iff.mp h).written
  exact ⟨rest, hrest.symm⟩

/-- A text that does not start with an underscore starts with no marker. -/
theorem frontMarker?_cons_of_ne {c : Char} (hc : c ≠ '_') (t : Text) :
    frontMarker? (c :: t) = none := by
  rw [frontMarker?_eq_none_iff]
  intro hfence
  obtain ⟨rest, hrest⟩ := List.isPrefixOf_iff_prefix.mp hfence
  exact absurd (List.cons.inj hrest).1.symm hc

/-- The entity's marker is one, whatever follows. -/
theorem frontMarker?_entity (t : Text) :
    frontMarker? (markerText entityName ++ t) = some entityName := by
  rfl

/-- **The two steps of the walk.** What holds at the end of a statement, and is carried back over
each character that is passed and each marker that is taken, holds of every statement. -/
theorem markerWalk {motive : Text → Prop} (done : motive [])
    (passed : ∀ c t, frontMarker? (c :: t) = none → motive t → motive (c :: t))
    (taken : ∀ name t, frontMarker? (markerText name ++ t) = some name → motive t →
      motive (markerText name ++ t)) (t : Text) : motive t := by
  -- A marker takes several characters at once, so the induction is on the length.
  induction hlength : t.length using Nat.strongRecOn generalizing t with
  | ind n ih =>
    cases t with
    | nil => exact done
    | cons c t =>
      cases hfront : frontMarker? (c :: t) with
      | none =>
        have hshorter : t.length < n := hlength ▸ Nat.lt_succ_self t.length
        exact passed c t hfront (ih _ hshorter t rfl)
      | some name =>
        obtain ⟨rest, hrest⟩ := exists_of_frontMarker? hfront
        rw [hrest] at hfront hlength ⊢
        have hshorter : rest.length < n := by
          rw [← hlength, List.length_append]
          exact Nat.lt_add_of_pos_left (Nat.succ_pos _)
        exact taken name rest hfront (ih _ hshorter rest rfl)

/-! ### What the walk gives -/

/-- The names of the markers of a statement, in order, as often as they occur. -/
def matchedNames (sql : Text) : List Text :=
  (markerRule.findAll sql).map Match.value

theorem looksAhead_markerRule : markerRule.LooksAhead := fun _ _ _ => rfl

theorem matchedNames_passed {c : Char} {t : Text} (h : frontMarker? (c :: t) = none) :
    matchedNames (c :: t) = matchedNames t :=
  Recogniser.map_value_findAll_of_none looksAhead_markerRule (by rw [markerRule_eq, h]; rfl)

theorem length_markerText (name : Text) : (markerText name).length = name.length + 3 + 1 := by
  simp [markerText, markerFence]

theorem markerText_append_ne_nil (name t : Text) : markerText name ++ t ≠ [] :=
  List.cons_ne_nil _ _

theorem matchedNames_taken {name t : Text} (h : frontMarker? (markerText name ++ t) = some name) :
    matchedNames (markerText name ++ t) = name :: matchedNames t := by
  have hanswer : markerRule none (markerText name ++ t) = some (name.length + 3 + 1, name) := by
    rw [markerRule_eq, h]
    rfl
  unfold matchedNames
  rw [Recogniser.map_value_findAll_of_some looksAhead_markerRule (markerText_append_ne_nil name t)
    hanswer, ← length_markerText, List.drop_left]

/-- What stands in the place of a marker. -/
def markerShown (name : Text) : Text :=
  if name = entityName then markerText name else ['?']

/-- Recognises a marker and gives what is put in its place. -/
def shownRule : Recogniser Char Text := fun before t =>
  (markerRule before t).map fun (n, name) => (n, markerShown name)

theorem looksAhead_shownRule : shownRule.LooksAhead := fun _ _ _ => rfl

theorem substituteMarkers_eq (sql : Text) : substituteMarkers sql = shownRule.replaceAll sql := rfl

theorem substituteMarkers_passed {c : Char} {t : Text} (h : frontMarker? (c :: t) = none) :
    substituteMarkers (c :: t) = c :: substituteMarkers t := by
  have hanswer : shownRule none (c :: t) = none := by
    rw [shownRule, markerRule_eq, h]
    rfl
  rw [substituteMarkers_eq, Recogniser.replaceAll_of_none looksAhead_shownRule hanswer]
  rfl

theorem substituteMarkers_taken {name t : Text}
    (h : frontMarker? (markerText name ++ t) = some name) :
    substituteMarkers (markerText name ++ t) = markerShown name ++ substituteMarkers t := by
  have hanswer : shownRule none (markerText name ++ t) =
      some (name.length + 3 + 1, markerShown name) := by
    rw [shownRule, markerRule_eq, h]
    rfl
  rw [substituteMarkers_eq, Recogniser.replaceAll_of_some looksAhead_shownRule
    (markerText_append_ne_nil name t) hanswer, ← length_markerText, List.drop_left]
  rfl

/-! ### No new marker -/

/-- An underscore at the front was there before. -/
theorem head?_substituteMarkers {t : Text} (h : (substituteMarkers t).head? = some '_') :
    t.head? = some '_' := by
  induction t using markerWalk with
  | done => exact h
  | passed c t hfront _ =>
    rw [substituteMarkers_passed hfront] at h
    exact h
  | taken name t hfront _ => rfl

/-- Two underscores at the front of a text that was passed were there before. -/
theorem isPrefixOf_markerFence_substituteMarkers {c : Char} {t : Text}
    (h : markerFence.isPrefixOf (c :: substituteMarkers t) = true) :
    markerFence.isPrefixOf (c :: t) = true := by
  obtain ⟨rest, hrest⟩ := List.isPrefixOf_iff_prefix.mp h
  obtain ⟨hc, htail⟩ := List.cons.inj hrest
  have hhead : t.head? = some '_' := head?_substituteMarkers (by rw [← htail]; rfl)
  obtain ⟨behind, rfl⟩ := List.head?_eq_some_iff.mp hhead
  rw [← hc]
  rfl

/-- Where nothing closes a name on its line, nothing does after the markers are replaced: none of
them starts on that line. -/
theorem markerName?_substituteMarkers {t : Text} (h : markerName? false t = none) :
    markerName? false (substituteMarkers t) = none := by
  induction t with
  | nil => rfl
  | cons c t ih =>
    obtain ⟨hopen, hrest⟩ := markerName?_false_cons_eq_none_iff.mp h
    have hfront : frontMarker? (c :: t) = none := by
      rw [frontMarker?_eq_none_iff, hopen]
      intro hfence
      cases hfence
    rw [substituteMarkers_passed hfront, markerName?_false_cons_eq_none_iff]
    refine ⟨?_, hrest.imp_right ih⟩
    rw [← Bool.not_eq_true] at hopen ⊢
    exact fun hfence => hopen (isPrefixOf_markerFence_substituteMarkers hfence)

/-- Before a stretch of line on which nothing closes a name, no marker starts. -/
theorem frontMarker?_of_markerName?_false {c : Char} {t : Text} (h : markerName? false t = none) :
    frontMarker? (c :: t) = none := by
  rw [frontMarker?_eq_none_iff]
  intro hfence
  obtain ⟨rest, hrest⟩ := List.isPrefixOf_iff_prefix.mp hfence
  obtain ⟨-, rfl⟩ := List.cons.inj hrest
  rcases (markerName?_false_cons_eq_none_iff.mp h).2 with hnewline | hopen
  · exact absurd hnewline (by decide)
  · exact markerName?_true_of_false hopen

/-- Two underscores that start no marker: no marker starts at the second one. -/
theorem frontMarker?_second {t : Text} (h : markerName? true t = none) :
    frontMarker? ('_' :: t) = none := by
  cases t with
  | nil => rfl
  | cons c t =>
    rcases markerName?_true_cons_eq_none_iff.mp h with rfl | hopen
    · rfl
    · rw [frontMarker?_eq_none_iff]
      exact fun _ => markerName?_true_of_false hopen

/-- Two underscores that start no marker start none after the markers behind them are replaced. -/
theorem markerName?_true_substituteMarkers {t : Text} (h : markerName? true t = none) :
    markerName? true (substituteMarkers t) = none := by
  cases t with
  | nil => rfl
  | cons c t =>
    -- Either the line ends here, or nothing closes a name on the rest of it.
    rcases markerName?_true_cons_eq_none_iff.mp h with rfl | hopen
    · rw [substituteMarkers_passed (frontMarker?_cons_of_ne (by decide) t)]
      rfl
    · rw [substituteMarkers_passed (frontMarker?_of_markerName?_false hopen),
        markerName?_true_cons_eq_none_iff]
      exact Or.inr (markerName?_substituteMarkers hopen)

/-- **A place that was passed starts no marker** after the markers behind it are replaced. -/
theorem frontMarker?_substituteMarkers {c : Char} {t : Text} (h : frontMarker? (c :: t) = none) :
    frontMarker? (c :: substituteMarkers t) = none := by
  rw [frontMarker?_eq_none_iff]
  intro hfence
  have hbefore := isPrefixOf_markerFence_substituteMarkers hfence
  have hunclosed := frontMarker?_eq_none_iff.mp h hbefore
  obtain ⟨rest, hrest⟩ := List.isPrefixOf_iff_prefix.mp hbefore
  obtain ⟨-, rfl⟩ := List.cons.inj hrest
  -- The second underscore is passed as well, so what stands behind the two is treated by itself.
  have hrestUnclosed : markerName? true rest = none := hunclosed
  show markerName? true ((substituteMarkers ('_' :: rest)).drop 1) = none
  rw [substituteMarkers_passed (frontMarker?_second hrestUnclosed)]
  exact markerName?_true_substituteMarkers hrestUnclosed

theorem substituteMarkers_substituteMarkers (sql : Text) :
    substituteMarkers (substituteMarkers sql) = substituteMarkers sql := by
  induction sql using markerWalk with
  | done => rfl
  | passed c t hfront ih =>
    rw [substituteMarkers_passed hfront,
      substituteMarkers_passed (frontMarker?_substituteMarkers hfront), ih]
  | taken name t hfront ih =>
    rw [substituteMarkers_taken hfront, markerShown]
    split
    · next hname =>
      rw [hname, substituteMarkers_taken (frontMarker?_entity _), ih, markerShown, if_pos rfl]
    · show substituteMarkers ('?' :: substituteMarkers t) = '?' :: substituteMarkers t
      rw [substituteMarkers_passed (frontMarker?_cons_of_ne (by decide) _), ih]

/-- The markers that are left are those of the entity, as many as there were. -/
theorem matchedNames_substituteMarkers (sql : Text) :
    matchedNames (substituteMarkers sql) = (matchedNames sql).filter (· == entityName) := by
  induction sql using markerWalk with
  | done => rfl
  | passed c t hfront ih =>
    rw [substituteMarkers_passed hfront, matchedNames_passed hfront,
      matchedNames_passed (frontMarker?_substituteMarkers hfront), ih]
  | taken name t hfront ih =>
    rw [substituteMarkers_taken hfront, matchedNames_taken hfront, markerShown]
    split
    · next hname =>
      rw [hname, matchedNames_taken (frontMarker?_entity _), ih, List.filter_cons,
        if_pos (beq_self_eq_true entityName)]
    · next hname =>
      show matchedNames ('?' :: substituteMarkers t) = _
      rw [matchedNames_passed (frontMarker?_cons_of_ne (by decide) _), ih,
        List.filter_cons_of_neg (by rw [beq_iff_eq]; exact hname)]

/-! ### What is listed -/

/-- What comes first among the elements that pass a test comes first among all. -/
theorem idxOf_lt_idxOf_of_filter {α : Type} [BEq α] [LawfulBEq α] {p : α → Bool} {l : List α}
    {x y : α} (hx : p x = true) (hy : p y = true) (h : (l.filter p).idxOf x < (l.filter p).idxOf y) :
    l.idxOf x < l.idxOf y := by
  induction l with
  | nil => exact h
  | cons a l ih =>
    by_cases hax : a = x
    · -- The first element is `x`, so `y` is not.
      subst hax
      rw [List.filter_cons_of_pos hx, List.idxOf_cons_self] at h
      have hne : a ≠ y := by
        rintro rfl
        rw [List.idxOf_cons_self] at h
        exact Nat.lt_irrefl 0 h
      rw [List.idxOf_cons_self, List.idxOf_cons_ne l hne]
      exact Nat.succ_pos _
    · have hlater : (l.filter p).idxOf x < (l.filter p).idxOf y ∧ a ≠ y := by
        by_cases ha : p a = true
        · rw [List.filter_cons_of_pos ha, List.idxOf_cons_ne _ hax] at h
          have hne : a ≠ y := by
            rintro rfl
            rw [List.idxOf_cons_self] at h
            exact Nat.not_lt_zero _ h
          rw [List.idxOf_cons_ne _ hne] at h
          exact ⟨Nat.lt_of_succ_lt_succ h, hne⟩
        · rw [List.filter_cons_of_neg ha] at h
          exact ⟨h, fun heq => ha (heq ▸ hy)⟩
      rw [List.idxOf_cons_ne l hax, List.idxOf_cons_ne l hlater.2]
      exact Nat.succ_lt_succ (ih hlater.1)

/-- Keeping the first of each keeps them in order of their first occurrence. -/
theorem pairwise_idxOf_eraseDups {α : Type} [BEq α] [LawfulBEq α] (l : List α) :
    l.eraseDups.Pairwise fun a b => l.idxOf a < l.idxOf b := by
  -- `eraseDups` goes on with a filtered rest, so the induction is on the length.
  induction hlength : l.length using Nat.strongRecOn generalizing l with
  | ind n ih =>
    cases l with
    | nil => exact List.Pairwise.nil
    | cons a l =>
      have hshorter : (l.filter fun b => !b == a).length < n := by
        rw [← hlength]
        exact Nat.lt_succ_of_le (List.length_filter_le _ l)
      have hrest := ih _ hshorter _ rfl
      rw [List.eraseDups_cons]
      have hne : ∀ b ∈ (l.filter fun b => !b == a).eraseDups, (!b == a) = true := fun b hb =>
        (List.mem_filter.mp (List.mem_eraseDups.mp hb)).2
      refine List.Pairwise.cons (fun b hb => ?_) (hrest.imp_of_mem fun {x y} hx hy hlt => ?_)
      · have hab : a ≠ b := fun heq => by simpa [heq] using hne b hb
        rw [List.idxOf_cons_self, List.idxOf_cons_ne l hab]
        exact Nat.succ_pos _
      · have hax : a ≠ x := fun heq => by simpa [heq] using hne x hx
        have hay : a ≠ y := fun heq => by simpa [heq] using hne y hy
        rw [List.idxOf_cons_ne l hax, List.idxOf_cons_ne l hay]
        exact Nat.succ_lt_succ (idxOf_lt_idxOf_of_filter (hne x hx) (hne y hy) hlt)

theorem markerText_injective : Function.Injective markerText := by
  intro a b h
  exact List.append_cancel_left (List.append_cancel_right h)

/-- The names of the markers that become question marks: each once, in order of the first match. -/
def bindNames (sql : Text) : List Text :=
  (markerNames sql).filter (· != entityName)

theorem mem_bindNames {sql name : Text} :
    name ∈ bindNames sql ↔ name ≠ entityName ∧ name ∈ matchedNames sql := by
  unfold bindNames markerNames matchedNames
  rw [List.mem_filter, List.mem_eraseDups, bne_iff_ne, and_comm]

theorem pairwise_bindNames (sql : Text) :
    (bindNames sql).Pairwise fun a b =>
      (matchedNames sql).idxOf a < (matchedNames sql).idxOf b :=
  (pairwise_idxOf_eraseDups (matchedNames sql)).filter _

theorem placeholders_extractMarkers (sql entityValue : Text) :
    (extractMarkers sql entityValue).placeholders =
      if entityName ∈ matchedNames sql then [(entityName, entityValue)] else [] := by
  unfold extractMarkers markerNames matchedNames
  simp only [List.contains_iff_mem, List.mem_eraseDups]

/-- **Taking the markers out leaves none behind.** What is made of a statement has the entity's
markers where the statement had them, and no others: treated again, it stays as it is, with the same
placeholders and no binds. The binds are the markers with the names `names`: those of the matches in
the statement, the entity's apart, each once and in order of the first match. The entity has its
placeholder if and only if its marker is matched in the statement. -/
theorem extractMarkers_no_residue (sql entityValue : Text) :
    let slotted := extractMarkers sql entityValue
    let matched := (markerRule.findAll sql).map Match.value
    extractMarkers slotted.sql entityValue = { slotted with binds := [] } ∧
    slotted.binds.Nodup ∧
    (∃ names : List Text, slotted.binds = names.map markerText ∧
      (∀ name, name ∈ names ↔ name ≠ entityName ∧ name ∈ matched) ∧
      names.Pairwise fun a b => matched.idxOf a < matched.idxOf b) ∧
    slotted.placeholders =
      if entityName ∈ matched then [(entityName, entityValue)] else [] := by
  intro slotted matched
  have hnames : slotted.binds = (bindNames sql).map markerText := rfl
  have hnodup : (bindNames sql).Nodup :=
    (pairwise_bindNames sql).imp fun {a b} hlt (heq : a = b) => Nat.lt_irrefl _ (heq ▸ hlt)
  refine ⟨?_, ?_, ⟨bindNames sql, hnames, fun name => mem_bindNames, pairwise_bindNames sql⟩,
    placeholders_extractMarkers sql entityValue⟩
  · have hleft := matchedNames_substituteMarkers sql
    -- Only the entity's name is left, so it is listed as it was and nothing else is.
    have hbinds : bindNames (substituteMarkers sql) = [] := by
      rw [List.eq_nil_iff_forall_not_mem]
      intro name hname
      rw [mem_bindNames, hleft, List.mem_filter, beq_iff_eq] at hname
      exact hname.1 hname.2.2
    have hplaceholders : (extractMarkers (substituteMarkers sql) entityValue).placeholders =
        slotted.placeholders := by
      rw [placeholders_extractMarkers, hleft, placeholders_extractMarkers]
      simp only [List.mem_filter, beq_self_eq_true, and_true]
    show extractMarkers (substituteMarkers sql) entityValue = _
    calc extractMarkers (substituteMarkers sql) entityValue
        = ⟨substituteMarkers (substituteMarkers sql), slotted.placeholders,
            (bindNames (substituteMarkers sql)).map markerText⟩ := by
          rw [← hplaceholders]
          rfl
      _ = ⟨substituteMarkers sql, slotted.placeholders, []⟩ := by
          rw [substituteMarkers_substituteMarkers, hbinds, List.map_nil]
  · rw [hnames]
    exact List.Nodup.map markerText_injective hnodup

-- An underscore too many is left over, the name of a marker may be an underscore, and a marker does
-- not go on behind the end of its line.
example : extractMarkers "SET __A__ IN __ENTITY__ OF __A___ _____ __\n__" "users" =
    { sql := "SET ? IN __ENTITY__ OF ?_ ? __\n__"
      placeholders := [("ENTITY", "users")]
      binds := ["__A__", "_____"] } := by
  decide

end SqlInventory
