import SqlInventory.Text.Basic

/-!
# Log entries

A computation of this library that has something to tell is a value of `Logged`: its log entries in
order, and its outcome, which may be a failure. The entries stay when it fails, so what was told
before a failure is known too.
-/

namespace SqlInventory

/-- The levels of log entries, from the least to the most severe. -/
inductive Level where
  /-- Finest detail. -/
  | trace
  /-- Detail for developers. -/
  | debug
  /-- What is going on. -/
  | info
  /-- Something went well. -/
  | success
  /-- Something may be wrong. -/
  | warning
  /-- Something went wrong. -/
  | error
  /-- Nothing works any more. -/
  | critical
  deriving DecidableEq, Repr

namespace Level

/-- The word for a level. -/
def word : Level → Text
  | .trace => "TRACE"
  | .debug => "DEBUG"
  | .info => "INFO"
  | .success => "SUCCESS"
  | .warning => "WARNING"
  | .error => "ERROR"
  | .critical => "CRITICAL"

/-- The rank of a level; more severe levels have a higher one. -/
def rank : Level → Nat
  | .trace => 5
  | .debug => 10
  | .info => 20
  | .success => 25
  | .warning => 30
  | .error => 40
  | .critical => 50

/-- The number of a level in structured records. -/
def code : Level → Nat
  | .trace => 10
  | .debug => 20
  | .info => 30
  | .success => 30
  | .warning => 40
  | .error => 50
  | .critical => 60

/-- All levels. -/
def all : List Level := [.trace, .debug, .info, .success, .warning, .error, .critical]

/-- The level with this word. -/
def ofWord? (t : Text) : Option Level :=
  all.find? fun level => level.word == t

/-- Whether a level is at least as severe as `least`. -/
def atLeast (least level : Level) : Bool :=
  decide (least.rank ≤ level.rank)

end Level

/-- One log entry. -/
structure LogEntry where
  /-- Its level. -/
  level : Level
  /-- What it says. -/
  message : Text
  deriving DecidableEq, Repr

/-- A computation with its log: the entries in order, and the outcome. -/
structure Logged (ε α : Type) where
  /-- The log entries. -/
  entries : List LogEntry
  /-- The outcome. -/
  outcome : Except ε α
  deriving Repr

namespace Logged

variable {ε α β : Type}

/-- A computation that tells nothing. -/
def quiet (outcome : Except ε α) : Logged ε α := ⟨[], outcome⟩

/-- The second computation uses the result of the first and adds to its log; after a failure it does
not run. -/
def andThen (first : Logged ε α) (second : α → Logged ε β) : Logged ε β :=
  match first.outcome with
  | .error e => ⟨first.entries, .error e⟩
  | .ok a => ⟨first.entries ++ (second a).entries, (second a).outcome⟩

instance : Monad (Logged ε) where
  pure a := quiet (.ok a)
  bind := andThen

/-- Tells one thing. -/
def tell (level : Level) (message : Text) : Logged ε Unit := ⟨[⟨level, message⟩], .ok ()⟩

/-- Tells several things. -/
def tellAll (entries : List LogEntry) : Logged ε Unit := ⟨entries, .ok ()⟩

/-- Fails without telling anything. -/
def fail (e : ε) : Logged ε α := quiet (.error e)

/-- The same computation with its failures seen differently. -/
def mapError {ε' : Type} (f : ε → ε') (x : Logged ε α) : Logged ε' α :=
  ⟨x.entries, x.outcome.mapError f⟩

@[simp] theorem andThen_ok (entries : List LogEntry) (a : α) (second : α → Logged ε β) :
    andThen ⟨entries, .ok a⟩ second = ⟨entries ++ (second a).entries, (second a).outcome⟩ := rfl

@[simp] theorem andThen_error (entries : List LogEntry) (e : ε) (second : α → Logged ε β) :
    andThen ⟨entries, .error e⟩ second = ⟨entries, .error e⟩ := rfl

@[simp] theorem entries_tell (level : Level) (message : Text) :
    (tell level message : Logged ε Unit).entries = [⟨level, message⟩] := rfl

@[simp] theorem outcome_tell (level : Level) (message : Text) :
    (tell level message : Logged ε Unit).outcome = .ok () := rfl

/-- A computation succeeds if and only if its first part does and its second, on the result. -/
theorem outcome_bind_eq_ok_iff {first : Logged ε α} {second : α → Logged ε β} {b : β} :
    (first >>= second).outcome = .ok b ↔
      ∃ a, first.outcome = .ok a ∧ (second a).outcome = .ok b := by
  change (first.andThen second).outcome = .ok b ↔ _
  unfold andThen
  cases first.outcome <;> simp

end Logged

end SqlInventory
