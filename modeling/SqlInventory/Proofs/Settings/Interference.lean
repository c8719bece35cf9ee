import SqlInventory.Proofs.Settings.Sources

/-!
# Settings do not interfere

What is loaded is an object of groups. It has a value under a group and a name exactly if there is
such a setting (`entry_toJson`), and this value depends on the default, the entry in the file and the
environment variable of this one setting. So members of the file that concern no setting, values that
do not fit, and variables that cannot be read change nothing elsewhere
(`settings_do_not_interfere_iff`).

There is one way in which an entry reaches beyond its own setting: it may keep the whole file from
being read. A number with too many digits does this wherever it stands, and a value that is nested too
deeply. `unknown_numeral_stops_loading` shows it of a number that concerns no setting at all.
-/

namespace SqlInventory

/-! ### What is loaded, as an object of groups -/

/-- Looking up a member among members that are made from a list. -/
theorem Json.member?_map {α : Type} (name : α → Text) (value : α → Json) (l : List α)
    (key : Text) :
    member? key (.object (l.map fun a => (name a, value a))) =
      (l.find? fun a => name a == key).map value := by
  unfold member?
  simp only [List.find?_map, Option.map_map]
  rfl

namespace Settings

theorem isSome_member?_toJson (settings : Settings) (group : Text) :
    (settings.toJson.member? group).isSome = true ↔ group ∈ SettingKey.groups := by
  unfold toJson
  rw [Json.member?_map, Option.isSome_map, List.find?_isSome]
  simp only [beq_iff_eq, exists_eq_right]

/-- **The object has a value under a group and a name** if and only if some setting has them, and it
is the value of this setting. -/
theorem entry_toJson (settings : Settings) (group name : Text) :
    (settings.toJson.member? group).bind (Json.member? name) =
      (SettingKey.find? group name).map settings := by
  unfold toJson
  rw [Json.member?_map]
  cases hfind : SettingKey.groups.find? fun g => g == group with
  | none =>
    have hgroup : group ∉ SettingKey.groups := by
      intro hmem
      rw [List.find?_eq_none] at hfind
      exact hfind group hmem (beq_self_eq_true group)
    have hnone : SettingKey.find? group name = none := by
      rw [Option.eq_none_iff_forall_not_mem]
      intro key hkey
      rw [Option.mem_def, SettingKey.find?_eq_some_iff] at hkey
      rw [← hkey.1] at hgroup
      exact hgroup (SettingKey.group_mem_groups key)
    rw [hnone]
    rfl
  | some g =>
    have hg := List.find?_some hfind
    rw [beq_iff_eq] at hg
    subst hg
    rw [Option.map_some, Option.bind_some, Json.member?_map, List.find?_filter]
    unfold SettingKey.find?
    simp only [Bool.decide_and, Bool.decide_eq_true]

end Settings

/-- **Settings do not interfere, unless the file stops the program.** Loading gives settings, under
exactly the groups and names that there are, each of them settled by its own default, its own entry
in the file and its own environment variable, if and only if the file can be read. -/
theorem settings_do_not_interfere_iff (levels workers : Nat) (path : Text) (file : ConfigFile)
    (env : Environment) :
    (∃ settings, (Settings.load levels workers path file env).outcome = .ok settings ∧
      (∀ group, (settings.toJson.member? group).isSome = true ↔ group ∈ SettingKey.groups) ∧
      ∀ group name value,
        (settings.toJson.member? group).bind (Json.member? name) = some value ↔
          ∃ key : SettingKey, key.group = group ∧ key.name = name ∧
            settled (key.default workers) (file.entry? levels key) (env.value? key.variableName) =
              value) ↔
    file.Readable levels := by
  rw [← Settings.exists_load_iff levels workers path file env]
  refine exists_congr fun settings => and_iff_left_of_imp fun hload => ⟨?_, ?_⟩
  · exact Settings.isSome_member?_toJson settings
  · intro group name value
    rw [Settings.entry_toJson, Option.map_eq_some_iff]
    refine exists_congr fun key => ?_
    rw [SettingKey.find?_eq_some_iff, and_assoc, Settings.eq_settled_of_load hload]

/-! ### A number that stops the program -/

/-- A file that gives a numeral of so many digits to something that is no setting. -/
def unknownNumeral (digits : Nat) : Text :=
  '{' :: '"' :: 'x' :: '"' :: ':' :: (List.replicate digits '1' ++ ['}'])

/-- Digits up to the closing brace make a whole number, if they are not too many. -/
theorem Json.readNumber_ones (digits n : Nat) :
    Json.readNumber digits (List.replicate (n + 1) '1' ++ ['}']) =
      if digits < n + 1 then .error (.tooLong (n + 1))
      else .ok (.integer (Json.digitsValue (List.replicate (n + 1) '1')), ['}']) := by
  have hdigits : Json.takeWhole ('1' :: (List.replicate n '1' ++ ['}'])) =
      ('1' :: List.replicate n '1', ['}']) := by
    unfold Json.takeWhole Json.takeDigits
    simp
  have hsign : (('1' :: (List.replicate n '1' ++ ['}'])).head? == some '-') = false := rfl
  have hfraction : Json.takeFraction ['}'] = ([], ['}']) := rfl
  have hexponent : Json.takeExponent ['}'] = (none, ['}']) := rfl
  unfold Json.readNumber
  rw [List.replicate_succ, List.cons_append]
  simp only [hsign, hdigits, hfraction, hexponent, Bool.false_eq_true, if_false, List.length_cons,
    List.length_replicate, List.isEmpty_nil, Option.isNone_none, Bool.and_self, if_true]

theorem Json.readMembers_unknownNumeral (digits fuel levels n : Nat) :
    Json.readMembers digits (fuel + 2) levels []
        ('"' :: 'x' :: '"' :: ':' :: (List.replicate (n + 1) '1' ++ ['}'])) =
      (Json.readNumber digits (List.replicate (n + 1) '1' ++ ['}'])).map
        fun (value, _) => ([(['x'], value)], []) := by
  have hkey : Json.readString 0 ('x' :: '"' :: ':' :: (List.replicate (n + 1) '1' ++ ['}'])) =
      some (['x'], ':' :: (List.replicate (n + 1) '1' ++ ['}'])) := rfl
  have hcolon : Json.skipSpace (':' :: (List.replicate (n + 1) '1' ++ ['}'])) =
      ':' :: (List.replicate (n + 1) '1' ++ ['}']) := rfl
  have hdigits : Json.skipSpace (List.replicate (n + 1) '1' ++ ['}']) =
      List.replicate (n + 1) '1' ++ ['}'] := rfl
  have hvalue : Json.readValue digits (fuel + 1) levels (List.replicate (n + 1) '1' ++ ['}']) =
      Json.readNumber digits (List.replicate (n + 1) '1' ++ ['}']) := rfl
  unfold Json.readMembers
  simp only [hkey, hcolon, hdigits, hvalue, Json.readNumber_ones]
  by_cases hlong : digits < n + 1
  · rw [if_pos hlong]
    rfl
  · rw [if_neg hlong]
    rfl

theorem Json.parse_unknownNumeral (levels n : Nat) :
    Json.parse (levels + 1) Text.digitLimit (unknownNumeral (n + 1)) =
      if Text.digitLimit < n + 1 then .error (.tooLong (n + 1))
      else .ok (.object [(['x'], .integer (Json.digitsValue (List.replicate (n + 1) '1')))]) := by
  have hlength : (unknownNumeral (n + 1)).length + 1 = n + 5 + 2 + 1 := by
    simp [unknownNumeral]
  have hvalue : Json.readValue Text.digitLimit (n + 5 + 2 + 1) (levels + 1)
      (Json.skipSpace (unknownNumeral (n + 1))) =
      (Json.readMembers Text.digitLimit (n + 5 + 2) levels []
        ('"' :: 'x' :: '"' :: ':' :: (List.replicate (n + 1) '1' ++ ['}']))).map
          fun read => (.object read.1, read.2) := rfl
  unfold Json.parse
  rw [hlength, hvalue, Json.readMembers_unknownNumeral, Json.readNumber_ones]
  by_cases hlong : Text.digitLimit < n + 1
  · rw [if_pos hlong, if_pos hlong]
    rfl
  · rw [if_neg hlong, if_neg hlong]
    rfl

theorem ConfigFile.configuration_unknownNumeral (levels n : Nat) :
    (ConfigFile.ofText (unknownNumeral (n + 1))).configuration (levels + 1) =
      if Text.digitLimit < n + 1 then .error (.json (.tooLong (n + 1)))
      else .ok (.holds
        (.object [(['x'], .integer (Json.digitsValue (List.replicate (n + 1) '1')))])) := by
  have hascii : ∀ c ∈ unknownNumeral (n + 1), c.toNat < 128 := by
    intro c hc
    simp only [unknownNumeral, List.mem_cons, List.mem_append, List.mem_replicate,
      List.not_mem_nil, or_false] at hc
    rcases hc with rfl | rfl | rfl | rfl | rfl | ⟨-, rfl⟩ | rfl <;> decide
  rw [ConfigFile.configuration_ofText hascii, Configuration.parse, Json.parse_unknownNumeral]
  by_cases hlong : Text.digitLimit < n + 1
  · rw [if_pos hlong, if_pos hlong]
  · rw [if_neg hlong, if_neg hlong]

/-- **A number that concerns no setting can stop the program.** With 4300 digits the file leaves every
setting at its default; with one digit more there are no settings at all. -/
theorem unknown_numeral_stops_loading :
    (∃ settings,
      (Settings.load 100 4 "config.json" (.ofText (unknownNumeral 4300)) []).outcome =
          .ok settings ∧
        ∀ key, settings key = key.default 4) ∧
    (Settings.load 100 4 "config.json" (.ofText (unknownNumeral 4301)) []).outcome =
      .error (.json (.tooLong 4301)) := by
  rw [Settings.outcome_load, Settings.outcome_load, ConfigFile.configuration_unknownNumeral,
    ConfigFile.configuration_unknownNumeral, if_neg (by decide), if_pos (by decide)]
  refine ⟨⟨_, rfl, fun key => ?_⟩, rfl⟩
  cases key <;> rfl

end SqlInventory
