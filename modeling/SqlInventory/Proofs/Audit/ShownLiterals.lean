import Mathlib.Data.Set.Basic
import SqlInventory.Proofs.Audit.Stages
import SqlInventory.Proofs.Text.Matching
import SqlInventory.Proofs.Text.Substring
import SqlInventory.Proofs.Text.Trimming

/-!
# Which literals a call shows

A literal without a target is left out of the findings if a call among them shows it. There are two
ways to be shown (`ShownIn`): as a quoted stretch of the context, compared loosely, and as a stretch
of the context with case ignored. What the quoted stretches of a text are depends on where the
reading starts, since the mark that ends one stretch cannot begin another; `QuotedIn` reads from the
left.

* `mem_quotedStretches_iff`: the quoted stretches that are found are those of `QuotedIn`, the empty
  ones left out. The induction goes from stretch to stretch (`quoteWalk`);
* `isShown_iff`: what is left out is what a call of the list shows (`ShownAtCall`);
* `shownAtCall_iff`: of the list that depends on the contexts of its calls alone (`contextsOf`).

Calls are never left out, so leaving out literals takes away no context. That is why it can be done
twice without harm, and why more findings never bring a literal back: `shown_literals_left_out`.
-/

namespace SqlInventory

open Text (occursIn_iff)

/-! ### Quoted stretches -/

/-- A quotation mark, single or double. -/
def IsQuote (c : Char) : Prop :=
  c = '\'' ∨ c = '"'

instance (c : Char) : Decidable (IsQuote c) :=
  inferInstanceAs (Decidable (_ ∨ _))

/-- **The quoted stretches of a text**, read from the left. -/
inductive QuotedIn : Text → Text → Prop where
  /-- A stretch at the front goes up to the next mark of its kind. -/
  | here {mark : Char} {inside rest : Text} (quote : IsQuote mark) (inner : mark ∉ inside) :
      QuotedIn (mark :: (inside ++ mark :: rest)) inside
  /-- Behind a stretch at the front the reading goes on. -/
  | behind {mark : Char} {inside rest q : Text} (quote : IsQuote mark) (inner : mark ∉ inside)
      (later : QuotedIn rest q) : QuotedIn (mark :: (inside ++ mark :: rest)) q
  /-- A character that is no mark, or a mark that nothing closes, is passed by. -/
  | further {c : Char} {rest q : Text} (open? : IsQuote c → c ∉ rest) (later : QuotedIn rest q) :
      QuotedIn (c :: rest) q

/-- **Induction from stretch to stretch**: a text is empty, or starts with a quoted stretch, or with
a character at which none starts. -/
theorem quoteWalk {motive : Text → Prop} (nil : motive [])
    (stretch : ∀ mark inside rest, IsQuote mark → mark ∉ inside → motive rest →
      motive (mark :: (inside ++ mark :: rest)))
    (pass : ∀ c rest, (IsQuote c → c ∉ rest) → motive rest → motive (c :: rest)) (t : Text) :
    motive t := by
  induction hlength : t.length using Nat.strong_induction_on generalizing t with
  | _ n ih =>
    subst hlength
    cases t with
    | nil => exact nil
    | cons c rest =>
      by_cases hclosed : IsQuote c ∧ c ∈ rest
      · -- The first mark of the same kind ends the stretch.
        obtain ⟨inside, behind, rfl, hinside⟩ := List.eq_append_cons_of_mem hclosed.2
        refine stretch c inside behind hclosed.1 hinside (ih behind.length ?_ behind rfl)
        simp only [List.length_cons, List.length_append]
        omega
      · exact pass c rest (fun hquote hmem => hclosed ⟨hquote, hmem⟩)
          (ih rest.length (Nat.lt_succ_self _) rest rfl)

section

variable {mark c : Char} {inside inside' rest rest' q : Text}

theorem quotedIn_stretch_iff (hquote : IsQuote mark) (hinside : mark ∉ inside) :
    QuotedIn (mark :: (inside ++ mark :: rest)) q ↔ q = inside ∨ QuotedIn rest q := by
  constructor
  · intro h
    generalize htext : mark :: (inside ++ mark :: rest) = t at h
    cases h with
    | here _ hinner =>
      obtain ⟨rfl, hsame⟩ := List.cons.inj htext
      exact Or.inl (eq_of_append_cons_eq hinside hinner hsame).1.symm
    | behind _ hinner later =>
      obtain ⟨rfl, hsame⟩ := List.cons.inj htext
      obtain ⟨-, rfl⟩ := eq_of_append_cons_eq hinside hinner hsame
      exact Or.inr later
    | further hopen _ =>
      -- The mark at the front is closed, so it is not passed by.
      obtain ⟨rfl, rfl⟩ := List.cons.inj htext
      exact absurd (List.mem_append_right _ List.mem_cons_self) (hopen hquote)
  · rintro (rfl | later)
    · exact .here hquote hinside
    · exact .behind hquote hinside later

theorem quotedIn_pass_iff (hopen : IsQuote c → c ∉ rest) :
    QuotedIn (c :: rest) q ↔ QuotedIn rest q := by
  constructor
  · intro h
    generalize htext : c :: rest = t at h
    cases h with
    | here hquote _ =>
      obtain ⟨rfl, rfl⟩ := List.cons.inj htext
      exact absurd (List.mem_append_right _ List.mem_cons_self) (hopen hquote)
    | behind hquote _ _ =>
      obtain ⟨rfl, rfl⟩ := List.cons.inj htext
      exact absurd (List.mem_append_right _ List.mem_cons_self) (hopen hquote)
    | further _ later =>
      obtain ⟨-, rfl⟩ := List.cons.inj htext
      exact later
  · exact .further hopen

/-! ### The search for quoted stretches -/

theorem decide_isQuote (c : Char) : (decide (c = '\'') || decide (c = '"')) = decide (IsQuote c) :=
  (Bool.decide_or _ _).symm

theorem looksAhead_quotedRule : quotedRule.LooksAhead :=
  fun _ _ _ => rfl

theorem quotedRule_stretch (hquote : IsQuote mark) (hinside : mark ∉ inside) :
    quotedRule none (mark :: (inside ++ mark :: rest)) = some (inside.length + 2, inside) := by
  simp only [quotedRule, decide_isQuote, decide_eq_true hquote, takeWhile_ne_append_cons hinside,
    if_true]
  rw [if_pos (by simp)]

theorem quotedRule_pass (hopen : IsQuote c → c ∉ rest) : quotedRule none (c :: rest) = none := by
  by_cases hquote : IsQuote c
  · -- No mark closes, so what is read up to the next one is all the rest.
    have hall : rest.takeWhile (· != c) = rest :=
      List.takeWhile_eq_self_iff.mpr (bne_of_mem_of_notMem (hopen hquote))
    simp only [quotedRule, decide_isQuote, decide_eq_true hquote, hall, if_true, Nat.lt_irrefl,
      if_false]
  · simp only [quotedRule, decide_isQuote, decide_eq_false hquote, Bool.false_eq_true, if_false]

end

/-- What is found between quotation marks. -/
theorem mem_map_value_findAll_quotedRule {context q : Text} :
    q ∈ (quotedRule.findAll context).map Match.value ↔ QuotedIn context q := by
  induction context using quoteWalk with
  | nil =>
    refine ⟨fun h => absurd h List.not_mem_nil, fun h => ?_⟩
    cases h
  | stretch mark inside rest hquote hinside ih =>
    have hrest : (mark :: (inside ++ mark :: rest)).drop (inside.length + 1 + 1) = rest := by
      rw [List.drop_succ_cons, List.drop_length_add_append]
      rfl
    rw [Recogniser.map_value_findAll_of_some looksAhead_quotedRule (List.cons_ne_nil _ _)
      (quotedRule_stretch hquote hinside), hrest, List.mem_cons, ih,
      quotedIn_stretch_iff hquote hinside]
  | pass c rest hopen ih =>
    rw [Recogniser.map_value_findAll_of_none looksAhead_quotedRule (quotedRule_pass hopen), ih,
      quotedIn_pass_iff hopen]

/-- **The quoted stretches of a context** are those of `QuotedIn` that are not empty. -/
theorem mem_quotedStretches_iff {context q : Text} :
    q ∈ quotedStretches context ↔ QuotedIn context q ∧ q ≠ [] := by
  rw [← mem_map_value_findAll_quotedRule, quotedStretches, List.mem_filterMap, List.mem_map]
  constructor
  · rintro ⟨m, hm, hvalue⟩
    split_ifs at hvalue with hempty
    obtain rfl := Option.some.inj hvalue
    exact ⟨⟨m, hm, rfl⟩, by simpa using hempty⟩
  · rintro ⟨⟨m, hm, rfl⟩, hne⟩
    exact ⟨m, hm, if_neg (by simpa using hne)⟩

/-! ### Literals that are shown -/

/-- **A context shows a literal**: it quotes a text that is not empty and, compared loosely, is the
same as the literal, where a literal of which nothing is left by comparison is the same as none; or
it holds the literal when both are in small letters. -/
def ShownIn (literal context : Text) : Prop :=
  (∃ q, QuotedIn context q ∧ q ≠ [] ∧ comparable q = comparable literal ∧
      comparable literal ≠ []) ∨
    Text.lower literal <:+: Text.lower context

theorem shows_iff (literal context : Text) :
    shows literal context = true ↔ ShownIn literal context := by
  rw [shows, ShownIn, Bool.or_eq_true, occursIn_iff, Bool.and_eq_true, List.any_eq_true]
  refine or_congr_left ?_
  constructor
  · rintro ⟨hne, q, hq, hsame⟩
    obtain ⟨hquoted, hqne⟩ := mem_quotedStretches_iff.mp hq
    exact ⟨q, hquoted, hqne, beq_iff_eq.mp hsame, by simpa using hne⟩
  · rintro ⟨q, hquoted, hqne, hsame, hne⟩
    exact ⟨by simpa using hne, q, mem_quotedStretches_iff.mpr ⟨hquoted, hqne⟩, beq_iff_eq.mpr hsame⟩

/-- **A finding that a call of a list shows**: a literal without a target, shown by a context that
is not empty. -/
def ShownAtCall (findings : List Finding) (f : Finding) : Prop :=
  ∃ l, f = .literal l ∧ l.target = none ∧
    ∃ c, Finding.call c ∈ findings ∧ c.context ≠ [] ∧ ShownIn l.snippet c.context

/-- The contexts of the calls among some findings, the empty one left out. -/
def contextsOf (findings : List Finding) : Set Text :=
  {context | context ≠ [] ∧ ∃ c, Finding.call c ∈ findings ∧ c.context = context}

theorem mem_callContexts_iff {findings : List Finding} {context : Text} :
    context ∈ callContexts findings ↔ context ∈ contextsOf findings := by
  rw [callContexts, List.mem_filterMap]
  constructor
  · rintro ⟨f, hf, hread⟩
    cases f with
    | call c =>
      simp only [List.isEmpty_iff, Option.ite_none_left_eq_some, Option.some.injEq] at hread
      obtain ⟨hne, rfl⟩ := hread
      exact ⟨hne, c, hf, rfl⟩
    | literal l => cases hread
    | undeclared u => cases hread
    | foreign kind => cases hread
  · rintro ⟨hne, c, hc, rfl⟩
    exact ⟨.call c, hc, by simp [hne]⟩

/-- What is shown depends on the contexts alone. -/
theorem shownAtCall_iff {findings : List Finding} {f : Finding} :
    ShownAtCall findings f ↔ ∃ l, f = .literal l ∧ l.target = none ∧
      ∃ context ∈ contextsOf findings, ShownIn l.snippet context := by
  refine exists_congr fun l => and_congr_right fun _ => and_congr_right fun _ => ?_
  constructor
  · rintro ⟨c, hc, hne, hshown⟩
    exact ⟨c.context, ⟨hne, c, hc, rfl⟩, hshown⟩
  · rintro ⟨-, ⟨hne, c, hc, rfl⟩, hshown⟩
    exact ⟨c, hc, hne, hshown⟩

/-- **The test for findings to leave out** finds those that a call shows. -/
theorem isShown_iff {findings : List Finding} {f : Finding} :
    isShown (callContexts findings) f = true ↔ ShownAtCall findings f := by
  rw [shownAtCall_iff]
  cases f with
  | literal l =>
    simp [isShown, mem_callContexts_iff, shows_iff]
  | call c => simp [isShown]
  | undeclared u => simp [isShown]
  | foreign kind => simp [isShown]

instance (findings : List Finding) : DecidablePred (ShownAtCall findings) :=
  fun _ => decidable_of_iff _ isShown_iff

/-! ### What is left out of a list -/

theorem deduplicate_eq_filter (findings : List Finding) :
    deduplicate findings = findings.filter fun f => ¬ShownAtCall findings f := by
  refine List.filter_congr fun f _ => ?_
  rw [Bool.eq_iff_iff, decide_eq_true_iff, ← isShown_iff]
  simp

theorem mem_deduplicate_iff {findings : List Finding} {f : Finding} :
    f ∈ deduplicate findings ↔ f ∈ findings ∧ ¬ShownAtCall findings f := by
  rw [deduplicate_eq_filter, List.mem_filter, decide_eq_true_iff]

/-- More contexts show more. -/
theorem ShownAtCall.mono {findings larger : List Finding} {f : Finding}
    (h : ShownAtCall findings f) (hcontexts : contextsOf findings ⊆ contextsOf larger) :
    ShownAtCall larger f := by
  obtain ⟨l, hl, htarget, context, hcontext, hshown⟩ := shownAtCall_iff.mp h
  exact shownAtCall_iff.mpr ⟨l, hl, htarget, context, hcontexts hcontext, hshown⟩

theorem contextsOf_subset {findings larger : List Finding} (h : findings ⊆ larger) :
    contextsOf findings ⊆ contextsOf larger := by
  rintro context ⟨hne, c, hc, rfl⟩
  exact ⟨hne, c, h hc, rfl⟩

/-- Every call stays, and with it its context. -/
theorem contextsOf_deduplicate (findings : List Finding) :
    contextsOf (deduplicate findings) = contextsOf findings := by
  refine Set.Subset.antisymm (contextsOf_subset (List.filter_subset_self findings)) ?_
  rintro context ⟨hne, c, hc, rfl⟩
  have hstays : ¬ShownAtCall findings (.call c) := by
    rintro ⟨l, hl, -⟩
    cases hl
  exact ⟨hne, c, mem_deduplicate_iff.mpr ⟨hc, hstays⟩, rfl⟩

theorem deduplicate_deduplicate (findings : List Finding) :
    deduplicate (deduplicate findings) = deduplicate findings := by
  conv_lhs => rw [deduplicate_eq_filter (deduplicate findings)]
  refine List.filter_eq_self.mpr fun f hf => ?_
  rw [decide_eq_true_iff]
  intro hshown
  -- What would be shown by the findings that are left was shown before.
  exact (mem_deduplicate_iff.mp hf).2 (hshown.mono (contextsOf_deduplicate findings).subset)

/-- **Exactly the literals that a call shows are left out**, and the order of findings has no part
in it. The findings that stay are those that no call of the list shows, in order; all calls stay;
leaving out a second time changes nothing; a literal that is left out of a list is left out of every
list with more findings; and two lists whose calls have the same contexts leave out the same. -/
theorem shown_literals_left_out (findings : List Finding) :
    (deduplicate findings = findings.filter fun f => ¬ShownAtCall findings f) ∧
    (deduplicate findings).filterMap Finding.call? = findings.filterMap Finding.call? ∧
    deduplicate (deduplicate findings) = deduplicate findings ∧
    (∀ larger, findings ⊆ larger → ∀ f ∈ findings, f ∉ deduplicate findings →
      f ∉ deduplicate larger) ∧
    ∀ others, contextsOf others = contextsOf findings → ∀ f, f ∈ findings → f ∈ others →
      (f ∈ deduplicate others ↔ f ∈ deduplicate findings) := by
  refine ⟨deduplicate_eq_filter findings, filterMap_deduplicate _ (fun _ _ => rfl) findings,
    deduplicate_deduplicate findings, fun larger hmore f hf hout hin => ?_,
    fun others hsame f hf hf' => ?_⟩
  · have hshown : ShownAtCall findings f := by
      by_contra hnot
      exact hout (mem_deduplicate_iff.mpr ⟨hf, hnot⟩)
    exact (mem_deduplicate_iff.mp hin).2 (hshown.mono (contextsOf_subset hmore))
  · rw [mem_deduplicate_iff, mem_deduplicate_iff, shownAtCall_iff, shownAtCall_iff, hsame]
    exact ⟨fun h => ⟨hf, h.2⟩, fun h => ⟨hf', h.2⟩⟩

/-- A literal that a call quotes with a blank more and in other letters. -/
def quotedLiteral : Finding :=
  .literal { form := .string, line := none, snippet := "'SELECT 1'" }

/-- A literal with the word that stands between two quoted stretches. -/
def betweenLiteral : Finding :=
  .literal { form := .string, line := none, snippet := "(and)" }

/-- A call whose context quotes two texts. -/
def quotingCall : Finding :=
  .call { line := 1, verb := "do", context := "$h->do('Select 1 ' and 'x')" }

/-- A call whose context quotes nothing. -/
def plainCall : Finding :=
  .call { line := 2, verb := "execute", context := "$h->execute" }

/-- The quoted literal is left out, and stays out if another call comes in front or if the order is
turned round; what stands between two quoted stretches is quoted by neither. -/
theorem quotedLiteral_left_out :
    deduplicate [quotedLiteral, betweenLiteral, quotingCall] = [betweenLiteral, quotingCall] ∧
    deduplicate [betweenLiteral, quotingCall] = [betweenLiteral, quotingCall] ∧
    quotedLiteral ∉ deduplicate [plainCall, quotedLiteral, betweenLiteral, quotingCall] ∧
    quotedLiteral ∉ deduplicate [quotingCall, betweenLiteral, quotedLiteral] := by
  have hkept : deduplicate [quotedLiteral, betweenLiteral, quotingCall] =
      [betweenLiteral, quotingCall] := by decide +kernel
  have hout : quotedLiteral ∉ deduplicate [quotedLiteral, betweenLiteral, quotingCall] := by
    rw [hkept]
    decide
  obtain ⟨-, -, htwice, hmore, hsame⟩ :=
    shown_literals_left_out [quotedLiteral, betweenLiteral, quotingCall]
  rw [hkept] at htwice
  refine ⟨hkept, htwice, hmore _ (List.subset_cons_self _ _) _ List.mem_cons_self hout, ?_⟩
  have hcontexts : contextsOf [quotingCall, betweenLiteral, quotedLiteral] =
      contextsOf [quotedLiteral, betweenLiteral, quotingCall] := by
    have hreverse : [quotingCall, betweenLiteral, quotedLiteral] ⊆
        [quotedLiteral, betweenLiteral, quotingCall] := by decide
    have hforth : [quotedLiteral, betweenLiteral, quotingCall] ⊆
        [quotingCall, betweenLiteral, quotedLiteral] := by decide
    exact Set.Subset.antisymm (contextsOf_subset hreverse) (contextsOf_subset hforth)
  rw [hsame _ hcontexts _ List.mem_cons_self (by decide)]
  exact hout

end SqlInventory
