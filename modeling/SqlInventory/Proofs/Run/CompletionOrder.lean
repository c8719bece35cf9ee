import SqlInventory.Proofs.Audit.Stages
import SqlInventory.Proofs.Perl.HeredocWalk
import SqlInventory.Proofs.Text.Order
import SqlInventory.Run.Scan

/-!
# The order of completion leaves no trace

Files are scanned at the same time and finish in any order. What a run comes to is nevertheless
fixed by the files and by what each comes to on its own.

* `Run.add_eq` says what one finished file adds, and `Run.foldl_add` what any number of them add:
  each of the three parts of a run is a reading of the finished files;
* a reading keeps the paths of the files, so distinct paths stay distinct, and sorting by path
  forgets the order in which the files finished (`Run.ofOutcomes_eq_of_perm`);
* `runScan_completion_order` follows this through a whole run: for every schedule the outcome is the
  same run, with every file in it once.
-/

namespace SqlInventory

/-! ### What a finished file adds to a run -/

namespace Outcome

/-- A file that was scanned and has findings, with them. -/
def withFindings? : Text × Outcome → Option (Text × List Finding)
  | (path, .scanned (f :: fs)) => some (path, f :: fs)
  | _ => none

/-- A file that was skipped, with the reason. -/
def refused? : Text × Outcome → Option (Text × Text)
  | (path, .skipped reason) => some (path, reason)
  | _ => none

/-- Whether a file was scanned. -/
def isScanned : Text × Outcome → Bool
  | (_, .scanned _) => true
  | (_, .skipped _) => false

theorem withFindings?_eq_some_iff (c : Text × Outcome) (path : Text) (findings : List Finding) :
    withFindings? c = some (path, findings) ↔ c = (path, .scanned findings) ∧ findings ≠ [] := by
  obtain ⟨own, outcome⟩ := c
  cases outcome with
  | skipped reason => simp [withFindings?]
  | scanned fs =>
    cases fs with
    | nil =>
      simp only [withFindings?, Prod.mk.injEq, scanned.injEq, reduceCtorEq, false_iff, not_and]
      rintro ⟨-, rfl⟩ hne
      exact hne rfl
    | cons f fs =>
      simp only [withFindings?, Option.some.injEq, Prod.mk.injEq, scanned.injEq]
      constructor
      · rintro ⟨rfl, rfl⟩
        exact ⟨⟨rfl, rfl⟩, List.cons_ne_nil f fs⟩
      · rintro ⟨⟨rfl, rfl⟩, -⟩
        exact ⟨rfl, rfl⟩

theorem refused?_eq_some_iff (c : Text × Outcome) (path reason : Text) :
    refused? c = some (path, reason) ↔ c = (path, .skipped reason) := by
  obtain ⟨own, outcome⟩ := c
  cases outcome <;> simp [refused?]

end Outcome

open Outcome

namespace Run

/-- **What one finished file adds**: to each part of the run, what that part reads of it. -/
theorem add_eq (run : Run) (c : Text × Outcome) :
    run.add c.1 c.2 =
      { results := run.results ++ (withFindings? c).toList
        skipped := run.skipped ++ (refused? c).toList
        filesScanned := run.filesScanned + if isScanned c then 1 else 0 } := by
  obtain ⟨path, outcome⟩ := c
  cases outcome with
  | skipped reason => simp [add, withFindings?, refused?, isScanned]
  | scanned findings =>
    cases findings <;> simp [add, withFindings?, refused?, isScanned]

/-- What any number of finished files add. -/
theorem foldl_add (run : Run) (completed : List (Text × Outcome)) :
    completed.foldl (fun run c => run.add c.1 c.2) run =
      { results := run.results ++ completed.filterMap withFindings?
        skipped := run.skipped ++ completed.filterMap refused?
        filesScanned := run.filesScanned + completed.countP isScanned } := by
  induction completed generalizing run with
  | nil => simp
  | cons c rest ih =>
    rw [List.foldl_cons, ih, add_eq, List.countP_cons]
    simp only [List.filterMap_cons, List.append_assoc, mk.injEq]
    refine ⟨?_, ?_, by omega⟩
    · cases withFindings? c <;> simp
    · cases refused? c <;> simp

theorem ofOutcomes_eq (completed : List (Text × Outcome)) :
    ofOutcomes completed =
      { results := sortByText (completed.filterMap withFindings?)
        skipped := sortByText (completed.filterMap refused?)
        filesScanned := completed.countP isScanned } := by
  unfold ofOutcomes
  rw [foldl_add]
  simp only [sorted, sortByText, List.nil_append, Nat.zero_add]

theorem ofOutcomes_nil : ofOutcomes [] = {} := by
  simp [ofOutcomes, sorted]

/-- Every file that finishes is counted once, as scanned or as skipped. -/
theorem count_foldl_add (run : Run) (completed : List (Text × Outcome)) :
    (completed.foldl (fun run c => run.add c.1 c.2) run).filesScanned +
        (completed.foldl (fun run c => run.add c.1 c.2) run).skipped.length =
      run.filesScanned + run.skipped.length + completed.length := by
  induction completed generalizing run with
  | nil => rfl
  | cons c rest ih =>
    rw [List.foldl_cons, ih, count_add, List.length_cons]
    omega

theorem count_ofOutcomes (completed : List (Text × Outcome)) :
    (ofOutcomes completed).filesScanned + (ofOutcomes completed).skipped.length =
      completed.length := by
  have hcount := count_foldl_add {} completed
  unfold ofOutcomes sorted
  rw [List.length_mergeSort]
  simpa using hcount

/-! ### Any order of completion -/

/-- A reading of finished files that keeps their paths keeps distinct paths distinct. -/
theorem nodup_map_fst_filterMap {β : Type} {read : Text × Outcome → Option (Text × β)}
    (hread : ∀ c x, read c = some x → x.1 = c.1) {completed : List (Text × Outcome)}
    (hnodup : (completed.map Prod.fst).Nodup) :
    ((completed.filterMap read).map Prod.fst).Nodup := by
  refine hnodup.sublist ?_
  induction completed with
  | nil => exact List.Sublist.refl []
  | cons c rest ih =>
    have hrest := ih (List.nodup_cons.mp (List.map_cons ▸ hnodup)).2
    cases hc : read c with
    | none =>
      rw [List.filterMap_cons_none hc, List.map_cons]
      exact hrest.cons c.1
    | some x =>
      rw [List.filterMap_cons_some hc, List.map_cons, List.map_cons, hread c x hc]
      exact hrest.cons_cons c.1

theorem nodup_withFindings {completed : List (Text × Outcome)}
    (hnodup : (completed.map Prod.fst).Nodup) :
    ((completed.filterMap withFindings?).map Prod.fst).Nodup := by
  refine nodup_map_fst_filterMap (fun c x hx => ?_) hnodup
  rw [((withFindings?_eq_some_iff c x.1 x.2).mp hx).1]

theorem nodup_refused {completed : List (Text × Outcome)}
    (hnodup : (completed.map Prod.fst).Nodup) :
    ((completed.filterMap refused?).map Prod.fst).Nodup := by
  refine nodup_map_fst_filterMap (fun c x hx => ?_) hnodup
  rw [(refused?_eq_some_iff c x.1 x.2).mp hx]

/-- **The order of completion leaves no trace**: files with distinct paths come to the same run in
whatever order they finish. -/
theorem ofOutcomes_eq_of_perm {completed outcomes : List (Text × Outcome)}
    (hperm : completed.Perm outcomes) (hnodup : (outcomes.map Prod.fst).Nodup) :
    ofOutcomes completed = ofOutcomes outcomes := by
  have hnodup' : (completed.map Prod.fst).Nodup := (hperm.map Prod.fst).nodup_iff.mpr hnodup
  have hresults := sortByText_eq_of_perm (hperm.filterMap withFindings?)
    (nodup_withFindings hnodup')
  have hskipped := sortByText_eq_of_perm (hperm.filterMap refused?) (nodup_refused hnodup')
  rw [ofOutcomes_eq, ofOutcomes_eq, hresults, hskipped, hperm.countP_eq]

theorem mem_results_ofOutcomes {completed : List (Text × Outcome)} {path : Text}
    {findings : List Finding} :
    (path, findings) ∈ (ofOutcomes completed).results ↔
      (path, Outcome.scanned findings) ∈ completed ∧ findings ≠ [] := by
  rw [ofOutcomes_eq, mem_sortByText, List.mem_filterMap]
  constructor
  · rintro ⟨c, hc, hread⟩
    obtain ⟨rfl, hne⟩ := (withFindings?_eq_some_iff _ _ _).mp hread
    exact ⟨hc, hne⟩
  · rintro ⟨hc, hne⟩
    exact ⟨_, hc, (withFindings?_eq_some_iff _ _ _).mpr ⟨rfl, hne⟩⟩

theorem mem_skipped_ofOutcomes {completed : List (Text × Outcome)} {path reason : Text} :
    (path, reason) ∈ (ofOutcomes completed).skipped ↔
      (path, Outcome.skipped reason) ∈ completed := by
  rw [ofOutcomes_eq, mem_sortByText, List.mem_filterMap]
  constructor
  · rintro ⟨c, hc, hread⟩
    rwa [← (refused?_eq_some_iff _ _ _).mp hread]
  · intro hc
    exact ⟨_, hc, (refused?_eq_some_iff _ _ _).mpr rfl⟩

end Run

/-! ### A whole run -/

/-- A computation goes on with the result of the one before it. -/
theorem Logged.outcome_bind_of_ok {ε α β : Type} {first : Logged ε α} {a : α}
    (h : first.outcome = .ok a) (second : α → Logged ε β) :
    (first >>= second).outcome = (second a).outcome := by
  change (first.andThen second).outcome = _
  unfold Logged.andThen
  rw [h]

theorem Logged.outcome_quiet_bind {ε α β : Type} {result : Except ε α} {a : α}
    (h : result = .ok a) (second : α → Logged ε β) :
    (Logged.quiet result >>= second).outcome = (second a).outcome :=
  Logged.outcome_bind_of_ok h second

theorem Logged.outcome_tell_bind {ε β : Type} (level : Level) (message : Text)
    (second : Unit → Logged ε β) :
    ((Logged.tell level message : Logged ε Unit) >>= second).outcome = (second ()).outcome :=
  Logged.outcome_bind_of_ok rfl second

theorem Logged.outcome_tellAll_bind {ε β : Type} (entries : List LogEntry)
    (second : Unit → Logged ε β) :
    ((Logged.tellAll entries : Logged ε Unit) >>= second).outcome = (second ()).outcome :=
  Logged.outcome_bind_of_ok rfl second

/-- **A run can start** on `files` with the vocabulary `v`: the settings give the vocabulary,
discovery gives the files, and the number of workers is admissible. -/
structure RunStarts (host : Host) (root : FileTree) (place : Place) (settings : Settings)
    (exclude : List Text) (workers : Json) (files : List Place) (v : Vocabulary) : Prop where
  /-- The settings give the vocabulary. -/
  words : ∃ words, (Words.ofSettings settings).outcome = .ok words ∧ words.vocabulary = .ok v
  /-- Discovery gives the files. -/
  files : discover root place (settings .extensions) exclude = .ok files
  /-- The number of workers is admissible. -/
  workers : checkWorkers (workerCount host workers (settings .maxWorkers)) = .ok ()

/-- Where each file comes to an outcome, the outcomes of all files are listed in their order. -/
theorem outcomesOf_eq {host : Host} {root : FileTree} {v : Vocabulary} {limit : Json}
    {base : Place} {files : List Place} {outcome : Place → Outcome}
    (houtcome : ∀ f ∈ files, root.scanFile host v limit f = .ok (outcome f)) :
    outcomesOf host root v limit base files =
      .ok (files.map fun f => (relativeTo base f, outcome f)) := by
  unfold outcomesOf
  induction files with
  | nil => rfl
  | cons f rest ih =>
    have hf := houtcome f List.mem_cons_self
    have hrest := ih fun g hg => houtcome g (List.mem_cons_of_mem f hg)
    rw [List.mapM_cons, hf, hrest]
    rfl

/-- The outcome of a run that can start: its files, merged in the order of the schedule. -/
theorem outcome_runScan {host : Host} {root : FileTree} {place : Place} {settings : Settings}
    {exclude : List Text} {workers : Json} {files : List Place} {v : Vocabulary}
    {outcome : Place → Outcome}
    (hstart : RunStarts host root place settings exclude workers files v)
    (houtcome : ∀ f ∈ files,
      root.scanFile host v (settings .maxFileSize) f = .ok (outcome f)) :
    (runScan host root place settings exclude workers).outcome =
      .ok (Run.ofOutcomes (host.schedule.completed
        (files.map fun f => (relativeTo (root.directoryOf place) f, outcome f)))) := by
  obtain ⟨words, hwords, hvocabulary⟩ := hstart.words
  have hsettings : ((Words.ofSettings settings).mapError Failure.words).outcome = .ok words := by
    unfold Logged.mapError
    rw [hwords]
    rfl
  have hv : (words.vocabulary.mapError Failure.words) = .ok v := by
    rw [hvocabulary]
    rfl
  unfold runScan
  rw [Logged.outcome_bind_of_ok hsettings, Logged.outcome_quiet_bind hstart.files]
  by_cases hempty : files.isEmpty = true
  · -- A run without files ends at once, and merging nothing gives the same.
    rw [if_pos hempty]
    obtain rfl := List.isEmpty_iff.mp hempty
    have hnone := (host.schedule.perm []).eq_nil
    rw [List.map_nil, hnone, Logged.outcome_tell_bind, Run.ofOutcomes_nil]
    rfl
  · rw [if_neg hempty, Logged.outcome_tell_bind, Logged.outcome_quiet_bind hstart.workers,
      Logged.outcome_quiet_bind hv, Logged.outcome_quiet_bind (outcomesOf_eq houtcome),
      Logged.outcome_tellAll_bind, Logged.outcome_tell_bind]
    rfl

/-- **Every schedule gives the same run.** Let a run be able to start on some files with distinct
paths, each of which comes to an outcome on its own. Then there is one run that is the outcome for
every schedule. It counts each file once. Its results are the files with findings, in increasing
order of paths, each with the findings that scanning it alone gives; its skipped files are the files
that were refused, once each and in increasing order of paths. -/
theorem runScan_completion_order (host : Host) (root : FileTree) (place : Place)
    (settings : Settings) (exclude : List Text) (workers : Json) (files : List Place)
    (v : Vocabulary) (outcome : Place → Outcome)
    (hstart : RunStarts host root place settings exclude workers files v)
    (houtcome : ∀ f ∈ files,
      root.scanFile host v (settings .maxFileSize) f = .ok (outcome f))
    (hdistinct : (files.map (relativeTo (root.directoryOf place))).Nodup) :
    ∃ run : Run,
      (∀ schedule : Schedule,
        (runScan { host with schedule } root place settings exclude workers).outcome = .ok run) ∧
      run.filesScanned + run.skipped.length = files.length ∧
      (∀ path findings, (path, findings) ∈ run.results ↔ findings ≠ [] ∧
        ∃ f ∈ files, relativeTo (root.directoryOf place) f = path ∧
          root.scanFile host v (settings .maxFileSize) f = .ok (.scanned findings)) ∧
      run.results.Pairwise (fun a b => a.1 < b.1) ∧
      (∀ path reason, (path, reason) ∈ run.skipped ↔
        ∃ f ∈ files, relativeTo (root.directoryOf place) f = path ∧
          root.scanFile host v (settings .maxFileSize) f = .ok (.skipped reason)) ∧
      run.skipped.Pairwise (fun a b => a.1 < b.1) := by
  set outcomes := files.map fun f => (relativeTo (root.directoryOf place) f, outcome f)
    with houtcomes
  have hnodup : (outcomes.map Prod.fst).Nodup := by
    rw [houtcomes, List.map_map]
    exact hdistinct
  have hmem : ∀ path o, (path, o) ∈ outcomes ↔
      ∃ f ∈ files, relativeTo (root.directoryOf place) f = path ∧
        root.scanFile host v (settings .maxFileSize) f = .ok o := by
    intro path o
    rw [houtcomes, List.mem_map]
    refine exists_congr fun f => and_congr_right fun hf => ?_
    rw [houtcome f hf, Prod.mk.injEq, Except.ok.injEq]
  refine ⟨Run.ofOutcomes outcomes, ?_, ?_, ?_, ?_, ?_, ?_⟩
  · intro schedule
    have hstart' : RunStarts { host with schedule } root place settings exclude workers files v :=
      ⟨hstart.words, hstart.files, hstart.workers⟩
    rw [outcome_runScan hstart' houtcome, ← houtcomes]
    exact congrArg Except.ok (Run.ofOutcomes_eq_of_perm (schedule.perm outcomes) hnodup)
  · rw [Run.count_ofOutcomes, houtcomes, List.length_map]
  · intro path findings
    rw [Run.mem_results_ofOutcomes, hmem, and_comm]
  · rw [Run.ofOutcomes_eq]
    exact pairwise_lt_sortByText (Run.nodup_withFindings hnodup)
  · intro path reason
    rw [Run.mem_skipped_ofOutcomes, hmem]
  · rw [Run.ofOutcomes_eq]
    exact pairwise_lt_sortByText (Run.nodup_refused hnodup)

/-- A workspace in which one file holds a call, one is no text, and one is empty. -/
def threeFiles : FileTree :=
  .directory [("b.pl", .file (Utf8.encode "$h->do")), ("a.pl", .file [0]), ("c.pl", .file [])]

/-- A machine on which the grammar sees nothing but gaps. -/
def plainHost : Host where
  origin := "/work"
  workers := 4
  environment := []
  jsonLevels := 100
  grammar := fun _ => .answered (some { root := .mk [] 0 0 [] })
  readSql := fun _ => .nothing

/-- What each of the three files comes to. -/
def threeOutcomes (f : Place) : Outcome :=
  if f = [("a.pl" : Text)] then .skipped "binary content"
  else if f = [("b.pl" : Text)] then
    .scanned [.call ⟨1, "do", "$h->do"⟩,
      .undeclared { target := "$h", usedInLine := 1, context := "$h->do" }]
  else .scanned []

open Perl in
/-- What the grammar of `plainHost` leaves of a source without here-documents are its gaps. -/
theorem arenaOf_gaps {source : Bytes}
    (h : (attachFrom source {} (gapSpans source 0 source.length)).2.skips = []) :
    arenaOf source { root := .mk [] 0 0 [] } =
      (attachFrom source {} (gapSpans source 0 source.length)).1.filterMap
        (Span.token? source) := by
  have hfilled : fillGaps source [] = gapSpans source 0 source.length := by
    rw [fillGaps, List.mergeSort_nil, fillFrom]
  exact congrArg (List.filterMap (Span.token? source))
    ((congrArg (attachHeredocs source) hfilled).trans (attachHeredocs_of_skips_eq_nil h))

theorem discover_threeFiles :
    discover threeFiles [] (SettingKey.default 4 .extensions) [] =
      .ok [["a.pl"], ["b.pl"], ["c.pl"]] := by
  have hsorted : ([["b.pl"], ["a.pl"], ["c.pl"]] : List Place).mergeSort
      (fun a b => Text.atMost a.relative b.relative) =
        ([["a.pl"], ["b.pl"], ["c.pl"]] : List Place) := by
    refine mergeSort_eq_of_perm ?_ ?_ (by decide) (by decide) (by decide)
    · exact fun _ _ _ => Text.atMost_trans _ _ _
    · exact fun _ _ => Text.atMost_total _ _
  exact congrArg (fun found => Except.ok (found.map ([] ++ ·))) hsorted

theorem scanFile_threeFiles :
    ∀ f ∈ ([["a.pl"], ["b.pl"], ["c.pl"]] : List Place),
      threeFiles.scanFile plainHost {} (SettingKey.default 4 .maxFileSize) f =
        .ok (threeOutcomes f) := by
  have hcalls : callSites {} "$h->do" = [⟨1, "do", "$h->do"⟩] := by
    rw [callSites, callMatches, trialOrder_callVerbs_default]
    decide
  intro f hf
  simp only [List.mem_cons, List.not_mem_nil, or_false] at hf
  rcases hf with rfl | rfl | rfl
  · rfl
  · change Except.ok (Outcome.scanned (scanArena {} "$h->do"
      (Perl.arenaOf (Utf8.encode "$h->do") _))) = _
    rw [arenaOf_gaps (by decide), scanArena_eq, keptFindings, located, hcalls]
    rfl
  · change Except.ok (Outcome.scanned (scanArena {} [] (Perl.arenaOf [] _))) = _
    rw [arenaOf_gaps (by decide)]
    rfl

/-- A run over the three files, whatever finishes first. -/
theorem runScan_three_files :
    ∃ run : Run,
      (∀ schedule : Schedule,
        (runScan { plainHost with schedule } threeFiles [] (SettingKey.default 4) []
          (.integer 2)).outcome = .ok run) ∧
      run.filesScanned + run.skipped.length = 3 ∧
      (∃ findings, (("b.pl" : Text), findings) ∈ run.results) ∧
      (("a.pl" : Text), ("binary content" : Text)) ∈ run.skipped := by
  have hstart : RunStarts plainHost threeFiles [] (SettingKey.default 4) [] (.integer 2)
      [["a.pl"], ["b.pl"], ["c.pl"]] {} :=
    ⟨⟨_, rfl, by decide⟩, discover_threeFiles, rfl⟩
  have hdistinct : ([[("a.pl" : Text)], ["b.pl"], ["c.pl"]].map
      (relativeTo (threeFiles.directoryOf []))).Nodup := by decide
  obtain ⟨run, hrun, hcount, hresults, -, hskipped, -⟩ :=
    runScan_completion_order plainHost threeFiles [] (SettingKey.default 4) [] (.integer 2)
      [["a.pl"], ["b.pl"], ["c.pl"]] {} threeOutcomes hstart scanFile_threeFiles
      hdistinct
  have hbinary := scanFile_threeFiles ["a.pl"] (by decide)
  have hcall := scanFile_threeFiles ["b.pl"] (by decide)
  refine ⟨run, hrun, hcount, ⟨_, (hresults _ _).mpr ⟨?_, ["b.pl"], by decide, rfl, hcall⟩⟩,
    (hskipped _ _).mpr ⟨["a.pl"], by decide, rfl, hbinary⟩⟩
  exact List.cons_ne_nil _ _

end SqlInventory
