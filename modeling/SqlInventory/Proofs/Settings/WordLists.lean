import SqlInventory.Proofs.Settings.Priority
import SqlInventory.Settings.Words

/-!
# When settings give a vocabulary

A list of words in the configuration file fits its setting as a list; its items are looked at only
when the vocabulary is made, and an item that is no text is a failure there.

* `exists_ofSettings_iff`: of settings that are lists where lists are wanted, it depends on the items
  alone whether they give word lists;
* `settledItems_iff`: what is true of every list of texts is true of a list that is settled, unless the
  file gives the list. A list from the environment is made of texts, and so is every default;
* `configuration_gives_vocabulary_iff` puts both together: when loading fails, and when the vocabulary
  fails after it. The limits never fail, since whole numbers and truth values both count as numbers.

`bad_configurations_abort` shows both failures.
-/

namespace SqlInventory

/-- Going through a list succeeds if and only if it does at every item. -/
theorem exists_mapM_eq_ok_iff {ε α β : Type} {f : α → Except ε β} {l : List α} :
    (∃ out, l.mapM f = .ok out) ↔ ∀ a ∈ l, ∃ b, f a = .ok b := by
  induction l with
  | nil => exact iff_of_true ⟨[], rfl⟩ (by simp)
  | cons a rest ih =>
    rw [List.mapM_cons, List.forall_mem_cons, ← ih]
    cases f a with
    | error e => simp [bind, Except.bind]
    | ok b => cases rest.mapM f <;> simp [bind, Except.bind, pure, Except.pure]

theorem bind_eq_ok_iff {ε α β : Type} {x : Except ε α} {f : α → Except ε β} {b : β} :
    x >>= f = .ok b ↔ ∃ a, x = .ok a ∧ f a = .ok b := by
  cases x <;> simp [bind, Except.bind]

/-- Arrays and objects have parts. -/
def Json.hasParts : Json → Bool
  | .array _ => true
  | .object _ => true
  | _ => false

/-- The items of a list. -/
def Json.items : Json → List Json
  | .array items => items
  | _ => []

namespace Words

/-! ### Items -/

theorem hashable_eq_ok_iff {items out : List Json} :
    hashable items = .ok out ↔ out = items ∧ ∀ item ∈ items, item.hasParts = false := by
  have hsearch : unhashable? items = items.find? Json.hasParts := by
    unfold unhashable?
    refine congrArg (fun p => List.find? p items) (funext fun item => ?_)
    cases item <;> rfl
  unfold hashable
  rw [hsearch]
  cases hfind : items.find? Json.hasParts with
  | some item =>
    have hitem := List.find?_some hfind
    refine iff_of_false (by simp) fun h => ?_
    rw [h.2 item (List.mem_of_find?_eq_some hfind)] at hitem
    cases hitem
  | none =>
    rw [List.find?_eq_none] at hfind
    simp only [Bool.not_eq_true] at hfind
    simp only [Except.ok.injEq]
    exact ⟨fun h => ⟨h.symm, hfind⟩, fun h => h.1.symm⟩

theorem hasParts_of_isText {item : Json} (h : isText item = true) : item.hasParts = false := by
  cases item with
  | string t => rfl
  | _ => cases h

theorem exists_wordOf_iff {item : Json} : (∃ t, wordOf item = .ok t) ↔ isText item = true := by
  cases item <;> simp [wordOf, isText]

/-- **Items are words** if and only if they are all texts. -/
theorem exists_wordsOf_iff {items : List Json} :
    (∃ words, wordsOf items = .ok words) ↔ ∀ item ∈ items, isText item = true := by
  have htexts : (∃ words, items.mapM wordOf = .ok words) ↔ ∀ item ∈ items, isText item = true := by
    rw [exists_mapM_eq_ok_iff]
    exact forall₂_congr fun item _ => exists_wordOf_iff
  unfold wordsOf
  rw [← htexts]
  cases hhash : hashable items with
  | ok out =>
    obtain ⟨rfl, -⟩ := hashable_eq_ok_iff.mp hhash
    rfl
  | error e =>
    refine iff_of_false (by simp [bind, Except.bind]) fun h => ?_
    have hok := hashable_eq_ok_iff.mpr ⟨rfl, fun item hitem =>
      hasParts_of_isText (htexts.mp h item hitem)⟩
    rw [hhash] at hok
    cases hok

/-! ### Word lists -/

/-- The settings that are lists of words. -/
def wordKeys : List SettingKey := [.sqlKeywords, .nameVerbs, .callVerbs]

/-- The settings that are lists and go into the word lists. -/
def listKeys : List SettingKey := .ignoreVariables :: wordKeys

/-- The items of a list of words that count, or the default if there are none. -/
def counted (key : SettingKey) (items : List Json) : List Json :=
  match items.filter Json.isTruthy with
  | [] => (key.default 0).items
  | words => words

theorem outcome_wordList {lookUp : SettingKey → Except WordsError Json} {key : SettingKey}
    {items : List Json} (h : lookUp key = .ok (.array items)) :
    (wordList lookUp key).outcome = .ok (counted key items) := by
  unfold wordList counted
  rw [Logged.outcome_bind_eq_ok_iff]
  refine ⟨_, h, ?_⟩
  rw [Logged.outcome_bind_eq_ok_iff]
  refine ⟨items, rfl, ?_⟩
  cases items.filter Json.isTruthy with
  | cons word rest => rfl
  | nil =>
    change (Logged.andThen _ _).outcome = _
    cases key.default 0 <;> rfl

/-- The default of a list is made of texts. -/
theorem default_of_mem_listKeys {key : SettingKey} (hkey : key ∈ listKeys) (workers : Nat) :
    ∃ standard, key.default workers = .array standard ∧
      ∀ item ∈ standard, isText item = true := by
  simp only [listKeys, wordKeys, List.mem_cons, List.not_mem_nil, or_false] at hkey
  rcases hkey with rfl | rfl | rfl | rfl
  · exact ⟨_, rfl, by decide⟩
  · exact ⟨_, rfl, by decide⟩
  · exact ⟨_, rfl, by decide⟩
  · exact ⟨_, rfl, by decide⟩

theorem forall_isText_counted_iff {key : SettingKey} (hkey : key ∈ wordKeys)
    {items : List Json} :
    (∀ item ∈ counted key items, isText item = true) ↔
      ∀ item ∈ items, item.isTruthy = true → isText item = true := by
  have hfilter : (∀ item ∈ items.filter Json.isTruthy, isText item = true) ↔
      ∀ item ∈ items, item.isTruthy = true → isText item = true := by
    simp only [List.mem_filter, and_imp]
  rw [← hfilter]
  unfold counted
  cases items.filter Json.isTruthy with
  | cons word rest => rfl
  | nil =>
    -- No item counts, and the words that stand in for them are texts.
    obtain ⟨standard, hdefault, htexts⟩ := default_of_mem_listKeys (List.mem_cons_of_mem _ hkey) 0
    rw [hdefault]
    exact iff_of_true htexts (by simp)

/-- Settings that are lists where lists are wanted. -/
def HaveLists (settings : Settings) : Prop :=
  ∀ key ∈ listKeys, settings key = .array (settings key).items

/-- Settings whose word lists can be made: the items that count are texts, and no variable that is to
be ignored has parts. -/
structure Usable (settings : Settings) : Prop where
  /-- The items of the lists of words. -/
  words : ∀ key ∈ wordKeys, ∀ item ∈ (settings key).items,
    item.isTruthy = true → isText item = true
  /-- The variables that are to be ignored. -/
  ignored : ∀ item ∈ (settings .ignoreVariables).items, item.hasParts = false

/-- **What the word lists are made of.** The limits are taken over as they are. -/
theorem outcome_ofSettings_eq_ok_iff {settings : Settings} (hlists : HaveLists settings)
    {words : Words} :
    (ofSettings settings).outcome = .ok words ↔
      (∀ item ∈ (settings .ignoreVariables).items, item.hasParts = false) ∧
      ∃ sqlKeywords, wordsOf (counted .sqlKeywords (settings .sqlKeywords).items) = .ok sqlKeywords ∧
      ∃ nameVerbs, wordsOf (counted .nameVerbs (settings .nameVerbs).items) = .ok nameVerbs ∧
      ∃ callVerbs, wordsOf (counted .callVerbs (settings .callVerbs).items) = .ok callVerbs ∧
        words =
          { sqlKeywords, nameVerbs, callVerbs
            ignored := distinctItems (settings .ignoreVariables).items
            snippetLimit := settings .snippetMaxChars
            contextRadius := settings .contextRadius } := by
  have hlist : ∀ {key : SettingKey}, key ∈ listKeys →
      (wordList (fun key => .ok (settings key)) key).outcome =
        .ok (counted key (settings key).items) :=
    fun hkey => outcome_wordList (congrArg Except.ok (hlists _ hkey))
  have hkeywords := hlist (show .sqlKeywords ∈ listKeys by decide)
  have hnames := hlist (show .nameVerbs ∈ listKeys by decide)
  have hcalls := hlist (show .callVerbs ∈ listKeys by decide)
  have hpassed : itemsOf (settings .ignoreVariables) = .ok (settings .ignoreVariables).items := by
    rw [hlists .ignoreVariables (by decide)]
    rfl
  -- Each step of the making is a step on the right; only those that can fail leave a condition.
  unfold ofSettings build
  simp only [Logged.outcome_bind_eq_ok_iff, hkeywords, hnames, hcalls, Except.ok.injEq,
    exists_eq_left', Logged.quiet, bind_eq_ok_iff, hpassed, hashable_eq_ok_iff, and_assoc,
    exists_eq_left, pure, Except.pure, @eq_comm _ words]

theorem exists_wordsOf_counted_iff {key : SettingKey} (hkey : key ∈ wordKeys)
    {items : List Json} :
    (∃ words, wordsOf (counted key items) = .ok words) ↔
      ∀ item ∈ items, item.isTruthy = true → isText item = true :=
  exists_wordsOf_iff.trans (forall_isText_counted_iff hkey)

/-- **When settings give word lists**, if they are lists where lists are wanted. -/
theorem exists_ofSettings_iff {settings : Settings} (hlists : HaveLists settings) :
    (∃ words, (ofSettings settings).outcome = .ok words) ↔ Usable settings := by
  have hmade : ∀ key ∈ wordKeys,
      ((∃ words, wordsOf (counted key (settings key).items) = .ok words) ↔
        ∀ item ∈ (settings key).items, item.isTruthy = true → isText item = true) :=
    fun key hkey => exists_wordsOf_counted_iff hkey
  simp only [outcome_ofSettings_eq_ok_iff hlists]
  constructor
  · rintro ⟨words, hparts, keywords, hkeywords, names, hnames, calls, hcalls, -⟩
    refine ⟨fun key hkey => (hmade key hkey).mp ?_, hparts⟩
    simp only [wordKeys, List.mem_cons, List.not_mem_nil, or_false] at hkey
    rcases hkey with rfl | rfl | rfl
    · exact ⟨keywords, hkeywords⟩
    · exact ⟨names, hnames⟩
    · exact ⟨calls, hcalls⟩
  · intro h
    have hall := fun key hkey => (hmade key hkey).mpr (h.words key hkey)
    obtain ⟨keywords, hkeywords⟩ := hall .sqlKeywords (by decide)
    obtain ⟨names, hnames⟩ := hall .nameVerbs (by decide)
    obtain ⟨calls, hcalls⟩ := hall .callVerbs (by decide)
    exact ⟨_, h.ignored, keywords, hkeywords, names, hnames, calls, hcalls, rfl⟩

/-! ### Limits -/

/-- Limits that count as numbers are no failure. -/
theorem exists_vocabulary_iff {words : Words} :
    (∃ v, words.vocabulary = .ok v) ↔
      words.snippetLimit.whole?.isSome = true ∧ words.contextRadius.whole?.isSome = true := by
  unfold vocabulary limitOf
  cases words.snippetLimit.whole? with
  | none => simp [bind, Except.bind]
  | some n =>
    cases words.contextRadius.whole? <;> simp [bind, Except.bind, pure, Except.pure]

/-- With limits that count as numbers, word lists that are made give a vocabulary. -/
theorem exists_vocabulary_of_ofSettings {settings : Settings} (hlists : HaveLists settings)
    (hsnippet : (settings .snippetMaxChars).whole?.isSome = true)
    (hradius : (settings .contextRadius).whole?.isSome = true) {words : Words}
    (h : (ofSettings settings).outcome = .ok words) : ∃ v, words.vocabulary = .ok v := by
  rw [outcome_ofSettings_eq_ok_iff hlists] at h
  obtain ⟨-, -, -, -, -, -, -, rfl⟩ := h
  exact exists_vocabulary_iff.mpr ⟨hsnippet, hradius⟩

end Words

/-! ### Lists and numbers as they are settled -/

/-- The items of a list that is settled: those that the environment names, else those of the file, else
the default. -/
def settledItems (standard : List Json) (entry : Option Json) : Option Text → List Json
  | some raw => (commaItems raw).map .string
  | none =>
    match entry with
    | some (.array items) => items
    | _ => standard

theorem accepted_array (standard : List Json) (entry : Option Json) :
    accepted (.array standard) entry = .array (settledItems standard entry none) := by
  cases entry with
  | none => rfl
  | some value => cases value <;> rfl

theorem settled_array (standard : List Json) (entry : Option Json) (given : Option Text) :
    settled (.array standard) entry given = .array (settledItems standard entry given) := by
  unfold settled
  rw [accepted_array]
  cases given <;> rfl

/-- What is true of every list of texts is true of a list that is settled, unless the file gives
the list and no variable replaces it. -/
theorem settledItems_iff {P : List Json → Prop}
    (htexts : ∀ items, (∀ item ∈ items, Words.isText item = true) → P items)
    {standard : List Json} (hstandard : ∀ item ∈ standard, Words.isText item = true)
    (entry : Option Json) (given : Option Text) :
    P (settledItems standard entry given) ↔
      (given = none → ∀ items, entry = some (.array items) → P items) := by
  cases given with
  | some raw =>
    refine iff_of_true (htexts _ fun item hitem => ?_) (fun h => by cases h)
    obtain ⟨word, -, rfl⟩ := List.mem_map.mp hitem
    rfl
  | none =>
    have hdefault := htexts standard hstandard
    cases entry with
    | none => exact iff_of_true hdefault fun _ _ h => by cases h
    | some value =>
      cases value with
      | array items => simp [settledItems]
      | _ => exact iff_of_true hdefault fun _ _ h => by cases h

theorem isSome_whole?_accepted {current : Json} (h : current.whole?.isSome = true)
    (entry : Option Json) : (accepted current entry).whole?.isSome = true := by
  cases entry with
  | none => exact h
  | some value =>
    -- Where a number stands, only what counts as a number is taken over.
    cases current with
    | bool b => cases value <;> rfl
    | integer n => cases value <;> rfl
    | _ => cases h

theorem isSome_whole?_overridden {current : Json} (h : current.whole?.isSome = true)
    (given : Option Text) : (overridden current given).whole?.isSome = true := by
  cases given with
  | none => exact h
  | some raw =>
    unfold overridden
    rw [Option.bind_some]
    cases hread : readAs? current raw with
    | none => exact h
    | some value =>
      cases current with
      | bool b =>
        cases hread
        rfl
      | integer n =>
        obtain ⟨m, rfl⟩ := exists_integer_of_readAs? hread
        rfl
      | _ => cases h

/-- What counts as a number by default does so when it is settled. -/
theorem isSome_whole?_settled {standard : Json} (h : standard.whole?.isSome = true)
    (entry : Option Json) (given : Option Text) :
    (settled standard entry given).whole?.isSome = true :=
  isSome_whole?_overridden (isSome_whole?_accepted h entry) given

/-! ### From the sources to the vocabulary -/

namespace ConfigFile

/-- The list that a file gives to a setting, if no environment variable replaces it. -/
def GivesList (file : ConfigFile) (levels : Nat) (env : Environment) (key : SettingKey)
    (items : List Json) : Prop :=
  env.value? key.variableName = none ∧ file.entry? levels key = some (.array items)

/-- The lists in a file that count can be made use of: what is not empty in a list of words is a
text, and no variable that is to be ignored has parts. -/
structure ListsFit (file : ConfigFile) (levels : Nat) (env : Environment) : Prop where
  /-- The lists of words. -/
  words : ∀ key ∈ Words.wordKeys, ∀ items, file.GivesList levels env key items →
    ∀ item ∈ items, item.isTruthy = true → Words.isText item = true
  /-- The variables that are to be ignored. -/
  ignored : ∀ items, file.GivesList levels env .ignoreVariables items →
    ∀ item ∈ items, item.hasParts = false

end ConfigFile

/-- Loaded settings are lists where lists are wanted. -/
theorem haveLists_of_load {levels workers : Nat} {path : Text} {file : ConfigFile}
    {env : Environment}
    {settings : Settings} (hload : (Settings.load levels workers path file env).outcome = .ok settings) :
    Words.HaveLists settings := by
  intro key hkey
  obtain ⟨standard, hdefault, -⟩ := Words.default_of_mem_listKeys hkey workers
  rw [Settings.eq_settled_of_load hload, hdefault, settled_array]
  rfl

/-- **What is said of the lists of loaded settings** is said of the lists in the file that count, if it
is true of all texts. -/
theorem forall_items_of_load_iff {levels workers : Nat} {path : Text} {file : ConfigFile}
    {env : Environment} {settings : Settings}
    (hload : (Settings.load levels workers path file env).outcome = .ok settings) {key : SettingKey}
    (hkey : key ∈ Words.listKeys) {p : Json → Prop}
    (htexts : ∀ item, Words.isText item = true → p item) :
    (∀ item ∈ (settings key).items, p item) ↔
      ∀ items, file.GivesList levels env key items → ∀ item ∈ items, p item := by
  obtain ⟨standard, hdefault, hstandard⟩ := Words.default_of_mem_listKeys hkey workers
  rw [Settings.eq_settled_of_load hload, hdefault, settled_array]
  have hall := settledItems_iff (P := fun items => ∀ item ∈ items, p item)
    (fun items h item hitem => htexts item (h item hitem)) hstandard
    (file.entry? levels key) (env.value? key.variableName)
  refine hall.trans ⟨fun h items hgives => ?_, fun h hnone items hentry => ?_⟩
  · exact h hgives.1 items hgives.2
  · exact h items ⟨hnone, hentry⟩

theorem usable_iff_of_load {levels workers : Nat} {path : Text} {file : ConfigFile}
    {env : Environment}
    {settings : Settings} (hload : (Settings.load levels workers path file env).outcome = .ok settings) :
    Words.Usable settings ↔ file.ListsFit levels env := by
  have hwords : ∀ key ∈ Words.wordKeys, _ := fun key hkey =>
    forall_items_of_load_iff hload (List.mem_cons_of_mem _ hkey)
      (p := fun item => item.isTruthy = true → Words.isText item = true) fun item h _ => h
  have hignored := forall_items_of_load_iff hload
    (show .ignoreVariables ∈ Words.listKeys by decide) fun item => Words.hasParts_of_isText
  constructor
  · intro h
    exact ⟨fun key hkey => (hwords key hkey).mp (h.words key hkey), hignored.mp h.ignored⟩
  · intro h
    exact ⟨fun key hkey => (hwords key hkey).mpr (h.words key hkey), hignored.mpr h.ignored⟩

/-- **When configuration gives a vocabulary.** Whatever the environment is, loading fails if and only if
the configuration file cannot be read. The settings that are loaded give a vocabulary if and only if
the lists in the file fit that no variable replaces; the limits are never a reason for a failure. -/
theorem configuration_gives_vocabulary_iff (levels workers : Nat) (path : Text) (file : ConfigFile)
    (env : Environment) :
    ((∃ settings, (Settings.load levels workers path file env).outcome = .ok settings) ↔
      file.Readable levels) ∧
    ∀ settings, (Settings.load levels workers path file env).outcome = .ok settings →
      ((∃ words v, (Words.ofSettings settings).outcome = .ok words ∧ words.vocabulary = .ok v) ↔
        file.ListsFit levels env) := by
  refine ⟨Settings.exists_load_iff levels workers path file env, fun settings hload => ?_⟩
  have hlists := haveLists_of_load hload
  have hlimit : ∀ key, (key.default workers).whole?.isSome = true →
      (settings key).whole?.isSome = true := by
    intro key hkey
    rw [Settings.eq_settled_of_load hload]
    exact isSome_whole?_settled hkey _ _
  rw [← usable_iff_of_load hload, ← Words.exists_ofSettings_iff hlists]
  constructor
  · rintro ⟨words, v, hwords, -⟩
    exact ⟨words, hwords⟩
  · rintro ⟨words, hwords⟩
    obtain ⟨v, hv⟩ := Words.exists_vocabulary_of_ofSettings hlists
      (hlimit .snippetMaxChars rfl) (hlimit .contextRadius rfl) hwords
    exact ⟨words, v, hwords, hv⟩

/-- A file with a number among the keywords. -/
def numberAsKeyword : ConfigFile :=
  .ofText "\x7b\"scan\": \x7b\"sql_keywords\": [1]\x7d\x7d"

theorem configuration_numberAsKeyword :
    numberAsKeyword.configuration 100 =
      .ok (.holds (.object [("scan", .object [("sql_keywords", .array [.integer 1])])])) :=
  ConfigFile.configuration_of_line (by decide +kernel) (by decide)
    (((Json.WellFormed.array (List.forall_mem_singleton.mpr (.integer 1))).single _).single _)
    (by decide) (by decide)

/-- **Configuration can abort a run.** A file that is not UTF-8 stops loading, and a number among the
keywords is accepted by loading and stops the making of the word lists. -/
theorem bad_configurations_abort :
    (Settings.load 100 4 "config.json" (.content [0xFF]) []).outcome =
      .error (.encoding ⟨0xFF, 0, 1, .badStart⟩) ∧
    ∃ settings, (Settings.load 100 4 "config.json" numberAsKeyword []).outcome = .ok settings ∧
      (Words.ofSettings settings).outcome =
        .error (.badValue "object of type 'int' has no len()") := by
  refine ⟨rfl, ?_⟩
  rw [Settings.outcome_load, configuration_numberAsKeyword]
  exact ⟨_, rfl, rfl⟩

end SqlInventory
