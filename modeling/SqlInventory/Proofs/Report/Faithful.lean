import SqlInventory.Report.Render
import SqlInventory.Proofs.Json.UniqueReading

/-!
# What a report in JSON tells

Two results give the same report in JSON if and only if they say the same, apart from two things
that a report leaves out: files without findings, and the whole statements of literals (`reported`).

Three steps lead from results to text. Each loses nothing more:

* `eq_of_recordMembers`: a record determines its finding but for the statement. Its first member is
  the type, so records of different types are never confused, and a name that is missing is told
  from every name that is there;
* `reportValue_eq_iff`: the report as a value is determined file by file;
* `Json.indented_append_inj`: the text is determined by the value.
-/

namespace SqlInventory

/-! ### Records -/

namespace Json

theorem ofText?_injective : Function.Injective ofText? := by
  intro a b h
  cases a <;> cases b <;> cases h <;> rfl

theorem ofLine?_injective : Function.Injective ofLine? := by
  have hline : Function.Injective ofLine := by
    intro a b h
    cases a <;> cases b <;> cases h <;> rfl
  intro a b h
  cases a with
  | none =>
    cases b with
    | none => rfl
    | some m => cases m <;> cases h
  | some n =>
    cases b with
    | none => cases n <;> cases h
    | some m => rw [hline h]

end Json

namespace Finding

/-- An entry that is a finding, and not something else. -/
def IsProper : Finding → Prop
  | .foreign _ => False
  | _ => True

/-- A finding without what a report leaves out. -/
def withoutStatement : Finding → Finding
  | .literal f => .literal { f with statement := [] }
  | f => f

/-- The members of the record of a finding. -/
def recordMembers : Finding → List (Text × Json)
  | .literal f => f.members
  | .call f => f.members
  | .undeclared f => f.members
  | .foreign _ => []

theorem record_of_isProper {f : Finding} (h : f.IsProper) :
    f.record = .ok (.object f.recordMembers) := by
  cases f with
  | foreign kind => exact absurd h id
  | _ => rfl

/-- A record starts with its type. -/
theorem head?_recordMembers {f : Finding} (h : f.IsProper) :
    f.recordMembers.head? = some ("type".toList, .string f.tag) := by
  cases f with
  | foreign kind => exact absurd h id
  | _ => rfl

/-- Whatever the statement is, the record is the same. -/
theorem recordMembers_withoutStatement (f : Finding) :
    f.withoutStatement.recordMembers = f.recordMembers := by
  cases f with
  | _ => rfl

theorem isProper_withoutStatement {f : Finding} (h : f.IsProper) :
    f.withoutStatement.IsProper := by
  cases f with
  | foreign kind => exact absurd h id
  | _ => trivial

end Finding

/-- The word for the type of a literal of this form. -/
def LiteralForm.tag : LiteralForm → Text
  | .string => "string"
  | .heredoc => "heredoc"

theorem LiteralForm.tag_injective : Function.Injective LiteralForm.tag := by
  intro a b h
  cases a with
  | string =>
    cases b with
    | string => rfl
    | heredoc => exact absurd (show "string".toList = "heredoc".toList from h) (by decide)
  | heredoc =>
    cases b with
    | string => exact absurd (show "heredoc".toList = "string".toList from h) (by decide)
    | heredoc => rfl

/-- No literal has the type of a call or of an undeclared variable. -/
theorem LiteralForm.tag_ne (form : LiteralForm) :
    form.tag ≠ "dbi_call".toList ∧ form.tag ≠ "missing_variable".toList := by
  cases form <;> decide

theorem Finding.tag_literal (f : LiteralFinding) : (Finding.literal f).tag = f.form.tag := by
  obtain ⟨form, -, -, -, -, -⟩ := f
  cases form <;> rfl

/-- The record of a literal determines it, but for the statement. -/
theorem LiteralFinding.eq_of_members {f g : LiteralFinding} (h : f.members = g.members) :
    { f with statement := [] } = { g with statement := [] } := by
  obtain ⟨form, line, snippet, target, name, statement⟩ := f
  obtain ⟨form', line', snippet', target', name', statement'⟩ := g
  simp only [LiteralFinding.members, List.cons.injEq, Prod.mk.injEq, true_and] at h
  obtain ⟨htag, hline, htarget, hsnippet, hname⟩ := h
  rw [Finding.tag_literal, Finding.tag_literal] at htag
  have hform : form = form' := LiteralForm.tag_injective (Json.string.inj htag)
  have hnames : name = name' := by
    cases name <;> cases name' <;> cases hname <;> rfl
  rw [hform, Json.ofLine?_injective hline, Json.ofText?_injective htarget,
    Json.string.inj hsnippet, hnames]

theorem CallFinding.eq_of_members {f g : CallFinding} (h : f.members = g.members) : f = g := by
  obtain ⟨line, verb, context⟩ := f
  obtain ⟨line', verb', context'⟩ := g
  simp only [CallFinding.members, List.cons.injEq, Prod.mk.injEq, true_and, and_true] at h
  obtain ⟨-, hverb, hline, hcontext⟩ := h
  have hlines : some line = some line' := Json.ofLine?_injective hline
  rw [Json.string.inj hverb, Option.some.inj hlines, Json.string.inj hcontext]

theorem UndeclaredFinding.eq_of_members {f g : UndeclaredFinding} (h : f.members = g.members) :
    f = g := by
  obtain ⟨target, line, context, note⟩ := f
  obtain ⟨target', line', context', note'⟩ := g
  simp only [UndeclaredFinding.members, List.cons.injEq, Prod.mk.injEq, true_and, and_true] at h
  obtain ⟨-, htarget, hline, hcontext, hnote⟩ := h
  have hlines : some line = some line' := Json.ofLine?_injective hline
  rw [Json.string.inj htarget, Option.some.inj hlines, Json.string.inj hcontext,
    Json.string.inj hnote]

/-- **A record determines its finding**, but for the statement. -/
theorem Finding.eq_of_recordMembers {f g : Finding} (hf : f.IsProper) (hg : g.IsProper)
    (h : f.recordMembers = g.recordMembers) : f.withoutStatement = g.withoutStatement := by
  have htag : f.tag = g.tag := by
    have hhead := head?_recordMembers hf
    rw [h, head?_recordMembers hg] at hhead
    exact (Json.string.inj (Prod.mk.inj (Option.some.inj hhead)).2).symm
  -- The tags of two types differ, so what is left are findings of one type.
  cases f with
  | literal f =>
    rw [tag_literal] at htag
    cases g with
    | literal g => exact congrArg Finding.literal (LiteralFinding.eq_of_members h)
    | call g => exact absurd htag f.form.tag_ne.1
    | undeclared g => exact absurd htag f.form.tag_ne.2
    | foreign kind => exact absurd hg id
  | call f =>
    cases g with
    | literal g =>
      rw [tag_literal] at htag
      exact absurd htag.symm g.form.tag_ne.1
    | call g => rw [CallFinding.eq_of_members h]
    | undeclared g =>
      exact absurd (show "dbi_call".toList = "missing_variable".toList from htag) (by decide)
    | foreign kind => exact absurd hg id
  | undeclared f =>
    cases g with
    | literal g =>
      rw [tag_literal] at htag
      exact absurd htag.symm g.form.tag_ne.2
    | call g =>
      exact absurd (show "missing_variable".toList = "dbi_call".toList from htag) (by decide)
    | undeclared g => rw [UndeclaredFinding.eq_of_members h]
    | foreign kind => exact absurd hg id
  | foreign kind => exact absurd hf id

/-! ### Reports -/

/-- All entries of some results are findings. -/
def Results.AreProper (results : Results) : Prop :=
  ∀ file ∈ results, ∀ f ∈ file.2, f.IsProper

/-- What a report tells of some results: the files with findings, and their findings without the
statements. -/
def reported (results : Results) : Results :=
  (results.filter fun file => !file.2.isEmpty).map fun file =>
    (file.1, file.2.map Finding.withoutStatement)

/-- A file in a report. -/
def fileRecord (file : Text × List Finding) : Text × Json :=
  (file.1, .array (file.2.map fun f => .object f.recordMembers))

/-- The report on some results as a value. -/
def reportValue (results : Results) : Json :=
  .object ((reported results).map fileRecord)

theorem mapM_eq_ok {ε α β : Type} {f : α → Except ε β} {g : α → β} {l : List α}
    (h : ∀ a ∈ l, f a = .ok (g a)) : l.mapM f = .ok (l.map g) := by
  induction l with
  | nil => rfl
  | cons a l ih =>
    rw [List.mapM_cons, h a List.mem_cons_self, ih fun b hb => h b (List.mem_cons_of_mem a hb)]
    rfl

theorem fileRecord_reported (file : Text × List Finding) :
    fileRecord (file.1, file.2.map Finding.withoutStatement) = fileRecord file := by
  unfold fileRecord
  rw [List.map_map]
  simp only [Function.comp_def, Finding.recordMembers_withoutStatement]

/-- A report on findings is made. -/
theorem report_of_areProper {results : Results} (h : results.AreProper) :
    report results = .ok (reportValue results) := by
  have hfile : ∀ file ∈ results.filter (fun file => !file.2.isEmpty),
      ((records file.2).map fun rs => (file.1, Json.array rs)) = .ok (fileRecord file) := by
    intro file hfile
    have hrecords : records file.2 = .ok (file.2.map fun f => .object f.recordMembers) :=
      mapM_eq_ok fun f hf =>
        Finding.record_of_isProper (h file (List.mem_filter.mp hfile).1 f hf)
    rw [hrecords]
    rfl
  have hmembers := mapM_eq_ok hfile
  have hvalue : reportValue results =
      .object ((results.filter fun file => !file.2.isEmpty).map fileRecord) := by
    unfold reportValue reported
    rw [List.map_map]
    simp only [Function.comp_def, fileRecord_reported]
  rw [hvalue]
  exact congrArg (Except.map Json.object) hmembers

/-- Lists that are equal after a map are equal, if the map is injective between them. -/
theorem eq_of_map_eq_map {α β : Type} {f : α → β} {l m : List α}
    (hinj : ∀ a ∈ l, ∀ b ∈ m, f a = f b → a = b) (h : l.map f = m.map f) : l = m := by
  induction l generalizing m with
  | nil => exact (List.map_eq_nil_iff.mp h.symm).symm
  | cons a l ih =>
    cases m with
    | nil => cases h
    | cons b m =>
      obtain ⟨hhead, htail⟩ := List.cons.inj h
      rw [hinj a List.mem_cons_self b List.mem_cons_self hhead, ih (fun a' ha' b' hb' =>
        hinj a' (List.mem_cons_of_mem a ha') b' (List.mem_cons_of_mem b hb')) htail]

/-- What is reported of a file without statements is all of it. -/
theorem withoutStatement_of_mem_reported {results : Results} (h : results.AreProper)
    {file : Text × List Finding} (hfile : file ∈ reported results) :
    ∀ f ∈ file.2, f.IsProper ∧ f.withoutStatement = f := by
  obtain ⟨original, horiginal, rfl⟩ := List.mem_map.mp hfile
  intro f hf
  obtain ⟨g, hg, rfl⟩ := List.mem_map.mp hf
  refine ⟨Finding.isProper_withoutStatement
    (h original (List.mem_filter.mp horiginal).1 g hg), ?_⟩
  cases g with
  | _ => rfl

/-- **The report as a value tells what is reported**, and nothing else. -/
theorem reportValue_eq_iff {a b : Results} (ha : a.AreProper) (hb : b.AreProper) :
    reportValue a = reportValue b ↔ reported a = reported b := by
  constructor
  · intro h
    refine eq_of_map_eq_map (fun x hx y hy hxy => ?_) (Json.object.inj h)
    -- Two files with one record: their findings are equal one by one.
    obtain ⟨hpath, hrecords⟩ := Prod.mk.inj hxy
    refine Prod.ext hpath (eq_of_map_eq_map (fun f hf g hg hfg => ?_) (Json.array.inj hrecords))
    obtain ⟨hf, hfsame⟩ := withoutStatement_of_mem_reported ha hx f hf
    obtain ⟨hg, hgsame⟩ := withoutStatement_of_mem_reported hb hy g hg
    rw [← hfsame, ← hgsame, Finding.eq_of_recordMembers hf hg (Json.object.inj hfg)]
  · intro h
    unfold reportValue
    rw [h]

/-! ### The text of a report -/

theorem exact_recordMembers (f : Finding) : ∀ m ∈ f.recordMembers, m.2.Exact := by
  have htext : ∀ t, (Json.ofText? t).Exact := by
    intro t
    cases t with
    | none => exact .null
    | some t => exact .string t
  have hline : ∀ n, (Json.ofLine n).Exact := by
    intro n
    cases n with
    | number n => exact .integer n
    | truth b => exact .bool b
  have hline? : ∀ n, (Json.ofLine? n).Exact := by
    intro n
    cases n with
    | none => exact .null
    | some n => exact hline n
  intro m hm
  cases f with
  | literal f =>
    simp only [Finding.recordMembers, LiteralFinding.members, List.mem_cons] at hm
    rcases hm with rfl | rfl | rfl | rfl | hname
    · exact .string _
    · exact hline? _
    · exact htext _
    · exact .string _
    · split at hname
      · rw [List.mem_singleton.mp hname]
        exact .string _
      · cases hname
  | call f =>
    simp only [Finding.recordMembers, CallFinding.members, List.mem_cons, List.not_mem_nil,
      or_false] at hm
    rcases hm with rfl | rfl | rfl | rfl
    · exact .string _
    · exact .string _
    · exact hline _
    · exact .string _
  | undeclared f =>
    simp only [Finding.recordMembers, UndeclaredFinding.members, List.mem_cons, List.not_mem_nil,
      or_false] at hm
    rcases hm with rfl | rfl | rfl | rfl | rfl
    · exact .string _
    · exact .string _
    · exact hline _
    · exact .string _
    · exact .string _
  | foreign kind => cases hm

theorem exact_reportValue (results : Results) : (reportValue results).Exact := by
  refine .object fun m hm => ?_
  obtain ⟨file, -, rfl⟩ := List.mem_map.mp hm
  refine .array fun item hitem => ?_
  obtain ⟨f, -, rfl⟩ := List.mem_map.mp hitem
  exact .object (exact_recordMembers f)

theorem renderReport_json {results : Results} (h : results.AreProper) :
    renderReport results "json" = .ok (Json.indented 0 (reportValue results) ++ ['\n']) := by
  unfold renderReport
  rw [report_of_areProper h]
  rfl

/-- **A report in JSON is faithful.** For results that consist of findings, a report is made. Two
results give the same text if and only if they are the same, in order, once files without findings
and the statements of literals are left out. -/
theorem json_report_faithful (a b : Results) (ha : a.AreProper) (hb : b.AreProper) :
    ∃ s t, renderReport a "json" = .ok s ∧ renderReport b "json" = .ok t ∧
      (s = t ↔ reported a = reported b) := by
  refine ⟨_, _, renderReport_json ha, renderReport_json hb, ?_⟩
  rw [← reportValue_eq_iff ha hb]
  constructor
  · intro h
    have hends : Text.EndsNumeral ['\n'] := Text.endsNumeral_cons (by decide) []
    exact (Json.indented_append_inj (exact_reportValue a) (exact_reportValue b) hends hends h).1
  · intro h
    rw [h]

/-- A literal and a call that runs it. -/
def queryFindings (statement : Text) : List Finding :=
  [.literal
    { form := .heredoc
      line := some 3
      snippet := "SELECT 1 FROM t"
      target := some "$q"
      name := some "q_3_SELECT"
      statement },
    .call { line := 9, verb := "do", context := "$dbh->do($q)" }]

/-- Two results that differ in a statement and in a file without findings give one report. -/
theorem queryFindings_same_report :
    let a : Results := [("lib/Größe.pl".toList, queryFindings "SELECT 1\nFROM t")]
    let b : Results := [("lib/Empty.pl".toList, []),
      ("lib/Größe.pl".toList, queryFindings "SELECT 1 FROM t")]
    a.AreProper ∧ b.AreProper ∧ reported a = reported b ∧
      ∃ s t, renderReport a "json" = .ok s ∧ renderReport b "json" = .ok t ∧ s = t := by
  intro a b
  have hproper : ∀ statement, ∀ f ∈ queryFindings statement, f.IsProper := by
    intro statement f hf
    rcases List.mem_cons.mp hf with rfl | hf
    · exact True.intro
    · rw [List.mem_singleton.mp hf]
      exact True.intro
  have ha : a.AreProper := by
    intro file hfile
    rw [List.mem_singleton.mp hfile]
    exact hproper _
  have hb : b.AreProper := by
    intro file hfile
    rcases List.mem_cons.mp hfile with rfl | hfile
    · exact fun f hf => absurd hf List.not_mem_nil
    · rw [List.mem_singleton.mp hfile]
      exact hproper _
  have hreported : reported a = reported b := by decide
  obtain ⟨s, t, hs, ht, heq⟩ := json_report_faithful a b ha hb
  exact ⟨ha, hb, hreported, s, t, hs, ht, heq.mpr hreported⟩

end SqlInventory
