import SqlInventory.Audit.Finding

/-!
# The outcome of a run

Files are scanned independently and finish in any order. A run takes in the outcome of each file as
it finishes and sorts by path at the end, so the order in which files finish leaves no trace.
-/

namespace SqlInventory

/-- What scanning one file comes to. -/
inductive Outcome where
  /-- The findings of a file that was scanned. -/
  | scanned (findings : List Finding)
  /-- Why a file was skipped. -/
  | skipped (reason : Text)
  deriving DecidableEq, Repr

/-- The order in which the files of a run finish. It is some order of the files, and may depend on
what they come to. -/
structure Schedule where
  /-- The files in the order in which they finish. -/
  completed : List (Text × Outcome) → List (Text × Outcome)
  /-- Every file finishes, and finishes once. -/
  perm : ∀ outcomes, (completed outcomes).Perm outcomes

/-- Files finish in the order in which they are given. -/
def Schedule.inOrder : Schedule := ⟨id, List.Perm.refl⟩

/-- What a run comes to. -/
structure Run where
  /-- The files that have findings, with them. -/
  results : Results := []
  /-- The files that were skipped, with the reason. -/
  skipped : List (Text × Text) := []
  /-- How many files were scanned. -/
  filesScanned : Nat := 0
  deriving DecidableEq, Repr

namespace Run

/-- A run with the outcome of one more file. -/
def add (run : Run) (path : Text) : Outcome → Run
  | .skipped reason => { run with skipped := run.skipped ++ [(path, reason)] }
  | .scanned [] => { run with filesScanned := run.filesScanned + 1 }
  | .scanned findings =>
    { run with
      results := run.results ++ [(path, findings)]
      filesScanned := run.filesScanned + 1 }

/-- Every file that finishes is counted once, as scanned or as skipped. -/
theorem count_add (run : Run) (path : Text) (outcome : Outcome) :
    (run.add path outcome).filesScanned + (run.add path outcome).skipped.length =
      run.filesScanned + run.skipped.length + 1 := by
  cases outcome with
  | skipped reason => simp [add]; omega
  | scanned findings =>
    cases findings with
    | nil => simp [add]; omega
    | cons f fs => simp [add]; omega

/-- A run in the order of paths. -/
def sorted (run : Run) : Run :=
  { run with
    results := run.results.mergeSort fun a b => Text.atMost a.1 b.1
    skipped := run.skipped.mergeSort fun a b => Text.atMost a.1 b.1 }

/-- The run whose files finished in this order. -/
def ofOutcomes (completed : List (Text × Outcome)) : Run :=
  sorted (completed.foldl (fun run c => add run c.1 c.2) {})

/-- All findings of a run. -/
def findings (run : Run) : List Finding :=
  run.results.flatMap (·.2)

/-- Whether a variable without an SQL literal was found. -/
def hasUndeclared (run : Run) : Bool :=
  run.findings.any fun f => f.undeclared?.isSome

end Run

/-- The counts of a run. -/
structure Summary where
  /-- How many files were scanned. -/
  filesScanned : Nat
  /-- How many of them have findings. -/
  filesWithFindings : Nat
  /-- How many files were skipped. -/
  filesSkipped : Nat
  /-- How many findings there are. -/
  totalFindings : Nat
  /-- How many there are of each type that occurs. -/
  byType : List (Text × Nat)
  deriving DecidableEq, Repr

/-- The counts of a run. -/
def Run.summary (run : Run) : Summary :=
  let tags := run.findings.map Finding.tag
  { filesScanned := run.filesScanned
    filesWithFindings := run.results.length
    filesSkipped := run.skipped.length
    totalFindings := run.findings.length
    byType := tags.eraseDups.map fun tag => (tag, tags.count tag) }

/-- How many findings of a type there are. -/
def Summary.count (s : Summary) (tag : Text) : Nat :=
  ((s.byType.find? fun entry => entry.1 == tag).map (·.2)).getD 0

end SqlInventory
