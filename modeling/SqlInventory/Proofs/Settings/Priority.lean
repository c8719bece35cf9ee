import SqlInventory.Proofs.Settings.Sources

/-!
# When an environment variable beats the configuration file

An environment variable comes after the file, so its value is what counts, whatever the file says.
But its text is read as a value of the kind at hand, and the kind at hand may come from the file.

* `readAs?_of_sameKind`: a value that fits a setting has a kind that texts are read as in the same
  way as for the default, with one exception: a truth value fits where a whole number is wanted, and
  from then on texts are read as truth values;
* `value_of_accepted_variable`: so a variable that can be read as a value of the default's kind
  decides, unless the file gives a truth value in the place of a whole number;
* `environment_beats_file_iff` compares two runs: they agree on the setting if and only if the
  exception is made in both of them or in neither.

`truth_value_beats_environment` is a pair of runs that do not agree.
-/

namespace SqlInventory

/-! ### Kinds -/

/-- A file gives a truth value to a setting that is a whole number by default. -/
def ConfigFile.GivesTruth (file : ConfigFile) (levels workers : Nat) (key : SettingKey) : Prop :=
  (∃ n, key.default workers = .integer n) ∧ ∃ b, file.entry? levels key = some (.bool b)

/-- Texts are read in the same way as for the default after any value that fits, but for a truth
value in the place of a whole number. -/
theorem readAs?_of_sameKind {standard value : Json} (h : sameKind standard value = true) :
    ((∃ n, standard = .integer n) ∧ ∃ b, value = .bool b) ∨
      ∀ raw, readAs? value raw = readAs? standard raw := by
  unfold sameKind at h
  split at h
  · exact Or.inr fun _ => rfl
  · exact Or.inr fun _ => rfl
  · exact Or.inr fun _ => rfl
  · next n b => exact Or.inl ⟨⟨n, rfl⟩, b, rfl⟩
  · exact Or.inr fun _ => rfl
  · exact Or.inr fun _ => rfl
  · exact Or.inr fun _ => rfl
  · exact Or.inr fun _ => rfl
  · cases h

/-- Where a whole number is wanted, a text gives a whole number. -/
theorem exists_integer_of_readAs? {n : Int} {raw : Text} {value : Json}
    (h : readAs? (.integer n) raw = some value) : ∃ m, value = .integer m := by
  unfold readAs? coerce at h
  simp only at h
  split at h
  · exact ⟨_, (Option.some.inj h).symm⟩
  · cases h

/-- The truth value of a text. -/
def truthOf (raw : Text) : Json :=
  .bool (trueWords.contains (Text.lower (Text.strip raw)))

/-! ### One run -/

/-- **The variable decides**, if it can be read as a value of the default's kind and the file does
not give a truth value in the place of a whole number. -/
theorem settled_of_not_truth {standard value : Json} {entry : Option Json} {raw : Text}
    (hread : readAs? standard raw = some value)
    (htruth : ¬((∃ n, standard = .integer n) ∧ ∃ b, entry = some (.bool b))) :
    settled standard entry (some raw) = value := by
  -- The text is read as a value of the kind at hand, so all depends on what the file left there.
  have hkind : readAs? (accepted standard entry) raw = some value := by
    cases entry with
    | none => exact hread
    | some given =>
      unfold accepted
      simp only
      split
      · next hfits =>
        rcases readAs?_of_sameKind hfits with ⟨hwhole, b, rfl⟩ | hsame
        · exact absurd ⟨hwhole, b, rfl⟩ htruth
        · rw [hsame, hread]
      · exact hread
  unfold settled overridden
  rw [Option.bind_some, hkind]
  rfl

/-- What an environment variable comes to in a run: its value, or in the exceptional case a truth
value, which is not its value. -/
theorem value_of_accepted_variable {workers : Nat} {key : SettingKey} {raw : Text} {value : Json}
    (hraw : coerce key.variableName raw (key.default workers) = .ok value) {levels : Nat}
    {path : Text} {file : ConfigFile} {env : Environment} {settings : Settings}
    (henv : env.value? key.variableName = some raw)
    (hload : (Settings.load levels workers path file env).outcome = .ok settings) :
    (¬file.GivesTruth levels workers key ∧ settings key = value) ∨
      (file.GivesTruth levels workers key ∧ settings key = truthOf raw ∧ truthOf raw ≠ value) := by
  have hread : readAs? (key.default workers) raw = some value := by
    rw [← toOption_coerce key.variableName, hraw]
    rfl
  rw [Settings.eq_settled_of_load hload, henv]
  by_cases htruth : file.GivesTruth levels workers key
  · -- With a truth value at hand, any text is read as a truth value, and a number is none.
    refine Or.inr ⟨htruth, ?_⟩
    obtain ⟨⟨n, hwhole⟩, b, hentry⟩ := htruth
    rw [hwhole] at hread ⊢
    obtain ⟨m, rfl⟩ := exists_integer_of_readAs? hread
    rw [hentry]
    exact ⟨rfl, Json.noConfusion⟩
  · exact Or.inl ⟨htruth, settled_of_not_truth hread htruth⟩

/-! ### Two runs -/

/-- **When an environment variable beats the file.** Let a variable be readable as a value of the
default's kind. Its setting gets this value if and only if the file does not give a truth value in the
place of a whole number; and two runs with this variable, whatever their files and their other
variables, agree on the setting if and only if both files do so or neither. -/
theorem environment_beats_file_iff {workers : Nat} {key : SettingKey} {raw : Text} {value : Json}
    (hraw : coerce key.variableName raw (key.default workers) = .ok value)
    {levels₁ levels₂ : Nat} {path₁ path₂ : Text} {file₁ file₂ : ConfigFile}
    {env₁ env₂ : Environment} {settings₁ settings₂ : Settings}
    (henv₁ : env₁.value? key.variableName = some raw)
    (henv₂ : env₂.value? key.variableName = some raw)
    (hload₁ : (Settings.load levels₁ workers path₁ file₁ env₁).outcome = .ok settings₁)
    (hload₂ : (Settings.load levels₂ workers path₂ file₂ env₂).outcome = .ok settings₂) :
    (settings₁ key = value ↔ ¬file₁.GivesTruth levels₁ workers key) ∧
      (settings₁ key = settings₂ key ↔
        (file₁.GivesTruth levels₁ workers key ↔ file₂.GivesTruth levels₂ workers key)) := by
  rcases value_of_accepted_variable hraw henv₁ hload₁ with ⟨hno₁, hvalue₁⟩ | ⟨hyes₁, htruth₁, hne⟩
  · refine ⟨iff_of_true hvalue₁ hno₁, ?_⟩
    rcases value_of_accepted_variable hraw henv₂ hload₂ with
      ⟨hno₂, hvalue₂⟩ | ⟨hyes₂, htruth₂, hne⟩
    · exact iff_of_true (hvalue₁.trans hvalue₂.symm) (iff_of_false hno₁ hno₂)
    · rw [hvalue₁, htruth₂]
      exact iff_of_false (Ne.symm hne) fun h => hno₁ (h.mpr hyes₂)
  · rw [htruth₁]
    refine ⟨iff_of_false hne (not_not_intro hyes₁), ?_⟩
    rcases value_of_accepted_variable hraw henv₂ hload₂ with ⟨hno₂, hvalue₂⟩ | ⟨hyes₂, htruth₂, -⟩
    · rw [hvalue₂]
      exact iff_of_false hne fun h => hno₂ (h.mp hyes₁)
    · exact iff_of_true htruth₂.symm (iff_of_true hyes₁ hyes₂)

/-- An environment that asks for 80 characters. -/
def eightyCharacters : Environment :=
  [("SQLAUDIT_LIMITS_SNIPPET_MAX_CHARS", "80")]

/-- A file that gives another limit. -/
def otherLimit : ConfigFile :=
  .ofText "\x7b\"limits\": \x7b\"snippet_max_chars\": 120\x7d\x7d"

/-- A file that gives a truth value as the limit. -/
def truthAsLimit : ConfigFile :=
  .ofText "\x7b\"limits\": \x7b\"snippet_max_chars\": true\x7d\x7d"

theorem configuration_otherLimit :
    otherLimit.configuration 100 =
      .ok (.holds (.object [("limits", .object [("snippet_max_chars", .integer 120)])])) :=
  ConfigFile.configuration_of_line (by decide +kernel) (by decide)
    (((Json.WellFormed.integer 120).single _).single _) (by decide) (by decide)

theorem configuration_truthAsLimit :
    truthAsLimit.configuration 100 =
      .ok (.holds (.object [("limits", .object [("snippet_max_chars", .bool true)])])) :=
  ConfigFile.configuration_of_line (by decide +kernel) (by decide)
    (((Json.WellFormed.bool true).single _).single _) (by decide) (by decide)

theorem value?_eightyCharacters :
    eightyCharacters.value? SettingKey.snippetMaxChars.variableName = some "80".toList := by
  decide

theorem coerce_eighty :
    coerce SettingKey.snippetMaxChars.variableName "80" (SettingKey.snippetMaxChars.default 4) =
      .ok (.integer 80) := by
  have hnumber : Text.wholeNumber "80" = .ok 80 := by decide +kernel
  unfold SettingKey.default coerce
  simp only [hnumber]

/-- With a file that gives another limit and without any file, 80 characters are shown. -/
theorem eightyCharacters_beats_otherLimit :
    ∃ settings₁ settings₂,
      (Settings.load 100 4 "config.json" otherLimit eightyCharacters).outcome = .ok settings₁ ∧
      (Settings.load 100 4 "config.json" .absent eightyCharacters).outcome = .ok settings₂ ∧
      settings₁ .snippetMaxChars = .integer 80 ∧
      settings₁ .snippetMaxChars = settings₂ .snippetMaxChars := by
  have hload₁ := Settings.outcome_load 100 4 "config.json" otherLimit eightyCharacters
  have hload₂ := Settings.outcome_load 100 4 "config.json" .absent eightyCharacters
  rw [configuration_otherLimit] at hload₁
  have hfile₁ : ¬otherLimit.GivesTruth 100 4 .snippetMaxChars := by
    rintro ⟨-, b, hentry⟩
    rw [ConfigFile.entry?_of_configuration configuration_otherLimit] at hentry
    cases hentry
  have hfile₂ : ¬ConfigFile.absent.GivesTruth 100 4 .snippetMaxChars := by
    rintro ⟨-, b, hentry⟩
    cases hentry
  obtain ⟨hvalue, hagree⟩ := environment_beats_file_iff coerce_eighty value?_eightyCharacters
    value?_eightyCharacters hload₁ hload₂
  exact ⟨_, _, hload₁, hload₂, hvalue.mpr hfile₁, hagree.mpr (iff_of_false hfile₁ hfile₂)⟩

/-- **A truth value in the file beats the environment.** The text that asks for 80 characters is read
as a truth value, and as it is none of the words for true, the limit becomes false. -/
theorem truth_value_beats_environment :
    ∃ settings₁ settings₂,
      (Settings.load 100 4 "config.json" truthAsLimit eightyCharacters).outcome = .ok settings₁ ∧
      (Settings.load 100 4 "config.json" .absent eightyCharacters).outcome = .ok settings₂ ∧
      settings₁ .snippetMaxChars = .bool false ∧ settings₂ .snippetMaxChars = .integer 80 := by
  have hload₁ := Settings.outcome_load 100 4 "config.json" truthAsLimit eightyCharacters
  have hload₂ := Settings.outcome_load 100 4 "config.json" .absent eightyCharacters
  rw [configuration_truthAsLimit] at hload₁
  have hfile₁ : truthAsLimit.GivesTruth 100 4 .snippetMaxChars := by
    refine ⟨⟨200, rfl⟩, true, ?_⟩
    rw [ConfigFile.entry?_of_configuration configuration_truthAsLimit]
    rfl
  have hfile₂ : ¬ConfigFile.absent.GivesTruth 100 4 .snippetMaxChars := by
    rintro ⟨-, b, hentry⟩
    cases hentry
  have hno : truthOf "80" = .bool false := congrArg Json.bool (by decide)
  refine ⟨_, _, hload₁, hload₂, ?_, ?_⟩
  · rcases value_of_accepted_variable coerce_eighty value?_eightyCharacters hload₁ with
      ⟨hnot, -⟩ | ⟨-, htruth, -⟩
    · exact absurd hfile₁ hnot
    · exact htruth.trans hno
  · rcases value_of_accepted_variable coerce_eighty value?_eightyCharacters hload₂ with
      ⟨-, hvalue⟩ | ⟨hyes, -⟩
    · exact hvalue
    · exact absurd hyes hfile₂

end SqlInventory
