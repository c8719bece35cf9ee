import SqlInventory.Proofs.Json.CompactReading
import SqlInventory.Settings.Load

/-!
# What the sources give to one setting

Loading goes through the members of the configuration file and then through the environment, and
changes one shared table of settings on the way. Seen from a single setting almost all of this is
idle: `settled` says what the setting gets in terms of its own default, its own entry in the file and
its own environment variable, and `outcome_load` says that loading gives exactly this to every
setting.

* `settings_takeMember`, `settings_takeVariable`: the steps. A member of the file concerns the setting
  with its group and name, a variable concerns its own setting, and every other setting stays as it is;
* `settings_foldl_takeMember`, `settings_foldl_takeGroup`, `settings_foldl_takeVariable`: the walks, by
  induction on the list that is gone through. A walk meets a setting at most once, because the keys
  of an object that was read are distinct, and so are the groups and the settings. This matters: what
  a step accepts depends on the value at hand, so a second meeting could be decided differently from
  the first;
* `outcome_load` puts the two sources together.

A file may also stop the program, and then no setting gets a value; `ConfigFile.Readable` is said of
those that do not.
-/

namespace SqlInventory

/-! ### One setting -/

/-- The setting that is found is the one with this group and this name. -/
theorem SettingKey.find?_eq_some_iff {group name : Text} {key : SettingKey} :
    SettingKey.find? group name = some key ↔ key.group = group ∧ key.name = name := by
  constructor
  · intro h
    have htest := List.find?_some h
    rw [Bool.and_eq_true, beq_iff_eq, beq_iff_eq] at htest
    exact htest
  · rintro ⟨rfl, rfl⟩
    exact SettingKey.find?_group_name key

/-- The value of a setting after an entry of the file was seen: the entry's, if it is of the kind of
the one at hand. -/
def accepted (current : Json) : Option Json → Json
  | some value => if sameKind current value then value else current
  | none => current

@[simp] theorem accepted_none (current : Json) : accepted current none = current := rfl

/-- A text read as a value of the kind of `current`. Only messages name the setting, so none is named
here. -/
def readAs? (current : Json) (raw : Text) : Option Json :=
  (coerce [] raw current).toOption

theorem toOption_coerce (key raw : Text) (current : Json) :
    (coerce key raw current).toOption = readAs? current raw := by
  unfold readAs? coerce
  cases current with
  | integer n => simp only; split <;> rfl
  | decimal d => simp only; split <;> rfl
  | _ => rfl

/-- The value of a setting after its environment variable was seen: the variable's, if it can be
read as a value of the kind at hand. -/
def overridden (current : Json) (given : Option Text) : Json :=
  (given.bind (readAs? current)).getD current

/-- **What a setting gets**, from its default, its entry in the file, and its environment variable. -/
def settled (standard : Json) (entry : Option Json) (given : Option Text) : Json :=
  overridden (accepted standard entry) given

/-- The entry of a setting in a configuration. -/
def Configuration.entry? (key : SettingKey) : Configuration → Option Json
  | .holds value => (value.member? key.group).bind (Json.member? key.name)
  | _ => none

namespace Draft

/-! ### The file -/

/-- **One member of the file.** It concerns the setting with this group and name alone. -/
theorem settings_takeMember (path group : Text) (d : Draft) (entry : Text × Json)
    (key : SettingKey) :
    (d.takeMember path group entry).settings key =
      accepted (d.settings key)
        (if key.group = group ∧ key.name = entry.1 then some entry.2 else none) := by
  unfold takeMember
  cases hfind : SettingKey.find? group entry.1 with
  | none =>
    have hother : ¬(key.group = group ∧ key.name = entry.1) := by
      rw [← SettingKey.find?_eq_some_iff, hfind]
      exact Option.some_ne_none key ∘ Eq.symm
    rw [if_neg hother]
    rfl
  | some found =>
    by_cases hkey : key = found
    · subst hkey
      rw [if_pos (SettingKey.find?_eq_some_iff.mp hfind)]
      unfold accepted
      simp only
      split
      · rw [settings_set, Settings.set_same]
      · rfl
    · -- The member belongs to another setting, whether it is taken or not.
      have hother : ¬(key.group = group ∧ key.name = entry.1) := by
        rw [← SettingKey.find?_eq_some_iff, hfind]
        exact fun h => hkey (Option.some.inj h).symm
      rw [if_neg hother, accepted_none]
      simp only
      split
      · rw [settings_set, Settings.set_other _ _ hkey]
      · rfl

/-- The members of a group, each with a key of its own. -/
theorem settings_foldl_takeMember (path group : Text) {members : List (Text × Json)}
    (hdistinct : (members.map Prod.fst).Nodup) (d : Draft) (key : SettingKey) :
    (members.foldl (takeMember path group) d).settings key =
      if key.group = group then
        accepted (d.settings key) (Json.member? key.name (.object members))
      else d.settings key := by
  induction members generalizing d with
  | nil => simp [Json.member?]
  | cons m rest ih =>
    obtain ⟨hnew, hrest⟩ := List.nodup_cons.mp hdistinct
    rw [List.foldl_cons, ih hrest, settings_takeMember]
    by_cases hgroup : key.group = group
    · rw [if_pos hgroup, if_pos hgroup]
      rw [Json.member?_cons]
      by_cases hname : key.name = m.1
      · -- This is the member of the setting, and no other follows.
        rw [if_pos ⟨hgroup, hname⟩, if_pos hname.symm, hname, Json.member?_eq_none hnew,
          accepted_none]
      · rw [if_neg (fun h => hname h.2), if_neg (Ne.symm hname), accepted_none]
    · rw [if_neg hgroup, if_neg hgroup, if_neg (fun h => hgroup h.1), accepted_none]

/-- One group of a file that was read. -/
theorem settings_takeGroup (path : Text) {value : Json} (hvalue : value.DistinctKeys) (d : Draft)
    (group : Text) (key : SettingKey) :
    (d.takeGroup path value group).settings key =
      if key.group = group then
        accepted (d.settings key) (Configuration.entry? key (.holds value))
      else d.settings key := by
  unfold takeGroup
  split
  · next members hmember =>
    have hdistinct := (hvalue.of_member? hmember).nodup
    rw [settings_foldl_takeMember path group hdistinct]
    refine ite_congr rfl (fun hgroup => ?_) (fun _ => rfl)
    subst hgroup
    simp only [Configuration.entry?, hmember, Option.bind_some]
  · next hmember =>
    -- What is no object has no members, so the file says nothing about the setting.
    split
    · next hgroup =>
      subst hgroup
      have hentry : Configuration.entry? key (.holds value) = none := by
        simp only [Configuration.entry?]
        cases hinner : value.member? key.group with
        | none => rfl
        | some inner =>
          cases inner with
          | object members => exact absurd hinner (hmember members)
          | _ => rfl
      rw [hentry, accepted_none]
    · rfl

/-- Some groups of a file that was read, each once. -/
theorem settings_foldl_takeGroup (path : Text) {value : Json} (hvalue : value.DistinctKeys)
    {groups : List Text} (hdistinct : groups.Nodup) (d : Draft) (key : SettingKey) :
    (groups.foldl (takeGroup path value) d).settings key =
      if key.group ∈ groups then
        accepted (d.settings key) (Configuration.entry? key (.holds value))
      else d.settings key := by
  induction groups generalizing d with
  | nil => simp
  | cons group rest ih =>
    obtain ⟨hnew, hrest⟩ := List.nodup_cons.mp hdistinct
    rw [List.foldl_cons, ih hrest, settings_takeGroup path hvalue]
    by_cases hgroup : key.group = group
    · subst hgroup
      rw [if_neg hnew, if_pos rfl, if_pos List.mem_cons_self]
    · rw [if_neg hgroup]
      refine ite_congr ?_ (fun _ => rfl) (fun _ => rfl)
      rw [List.mem_cons, eq_iff_iff]
      exact (or_iff_right hgroup).symm

end Draft

theorem SettingKey.group_mem_groups (key : SettingKey) : key.group ∈ SettingKey.groups := by
  cases key <;> decide

theorem SettingKey.nodup_groups : SettingKey.groups.Nodup := by
  decide

theorem SettingKey.nodup_all : SettingKey.all.Nodup := by
  decide

/-- A configuration as it is read from a file: what it holds has distinct keys. -/
def Configuration.IsRead : Configuration → Prop
  | .holds value => value.DistinctKeys
  | _ => True

/-- The three things that the text of a configuration file can come to. -/
theorem Configuration.parse_cases (levels : Nat) (text : Text) :
    (∃ value, Json.parse levels Text.digitLimit text = .ok value ∧
        parse levels text = .ok (.holds value)) ∨
      (Json.parse levels Text.digitLimit text = .error .malformed ∧
        parse levels text = .ok .skipped) ∨
      ∃ e, Json.parse levels Text.digitLimit text = .error e ∧ e ≠ .malformed ∧
        parse levels text = .error (.json e) := by
  unfold Configuration.parse
  split
  · next value hparse => exact Or.inl ⟨value, hparse, rfl⟩
  · next hparse => exact Or.inr (Or.inl ⟨hparse, rfl⟩)
  · next e hne hparse => exact Or.inr (Or.inr ⟨e, hparse, fun h => hne h, rfl⟩)

theorem Configuration.isRead_of_parse {levels : Nat} {text : Text} {configuration : Configuration}
    (h : parse levels text = .ok configuration) : configuration.IsRead := by
  rcases parse_cases levels text with ⟨value, hvalue, heq⟩ | ⟨-, heq⟩ | ⟨e, -, -, heq⟩
  · rw [heq] at h
    cases h
    exact Json.distinctKeys_of_parse hvalue
  · rw [heq] at h
    cases h
    trivial
  · rw [heq] at h
    cases h

theorem isRead_of_configuration {file : ConfigFile} {levels : Nat} {configuration : Configuration}
    (h : file.configuration levels = .ok configuration) : configuration.IsRead := by
  unfold ConfigFile.configuration at h
  split at h
  · cases h
    trivial
  · cases h
    trivial
  · split at h
    · cases h
    · exact Configuration.isRead_of_parse h

namespace Draft

/-- **The whole file**, seen from one setting. -/
theorem settings_takeConfiguration (path : Text) (d : Draft) {configuration : Configuration}
    (hread : configuration.IsRead) (key : SettingKey) :
    (d.takeConfiguration path configuration).settings key =
      accepted (d.settings key) (configuration.entry? key) := by
  cases configuration with
  | absent => rfl
  | skipped => rfl
  | holds value =>
    change (SettingKey.groups.foldl (takeGroup path value) d).settings key = _
    rw [settings_foldl_takeGroup path hread SettingKey.nodup_groups,
      if_pos (SettingKey.group_mem_groups key)]

/-! ### The environment -/

/-- **One environment variable.** It concerns its own setting alone. -/
theorem settings_takeVariable (env : Environment) (d : Draft) (named key : SettingKey) :
    (d.takeVariable env named).settings key =
      if key = named then overridden (d.settings key) (env.value? key.variableName)
      else d.settings key := by
  unfold takeVariable
  by_cases hkey : key = named
  · subst hkey
    rw [if_pos rfl]
    unfold overridden
    cases hvalue : env.value? key.variableName with
    | none => rfl
    | some raw =>
      rw [Option.bind_some, ← toOption_coerce key.variableName]
      simp only
      split
      · next value hok => rw [settings_set, Settings.set_same, hok]; rfl
      · next e herror => rw [settings_remark, herror]; rfl
  · rw [if_neg hkey]
    split
    · rfl
    · split
      · rw [settings_set, Settings.set_other _ _ hkey]
      · rfl

/-- The environment variables of some settings, each once. -/
theorem settings_foldl_takeVariable (env : Environment) {keys : List SettingKey}
    (hdistinct : keys.Nodup) (d : Draft) (key : SettingKey) :
    (keys.foldl (takeVariable env) d).settings key =
      if key ∈ keys then overridden (d.settings key) (env.value? key.variableName)
      else d.settings key := by
  induction keys generalizing d with
  | nil => simp
  | cons named rest ih =>
    obtain ⟨hnew, hrest⟩ := List.nodup_cons.mp hdistinct
    rw [List.foldl_cons, ih hrest, settings_takeVariable]
    by_cases hkey : key = named
    · subst hkey
      rw [if_neg hnew, if_pos rfl, if_pos List.mem_cons_self]
    · rw [if_neg hkey]
      refine ite_congr ?_ (fun _ => rfl) (fun _ => rfl)
      rw [List.mem_cons, eq_iff_iff]
      exact (or_iff_right hkey).symm

theorem settings_takeEnvironment (env : Environment) (d : Draft) (key : SettingKey) :
    (d.takeEnvironment env).settings key =
      overridden (d.settings key) (env.value? key.variableName) := by
  unfold takeEnvironment
  rw [settings_foldl_takeVariable env SettingKey.nodup_all, if_pos (SettingKey.mem_all key)]

end Draft

/-! ### Loading -/

/-- **What loading comes to.** It fails if and only if the file cannot be read; else every setting
is settled by what is its own. -/
theorem Settings.outcome_load (levels workers : Nat) (path : Text) (file : ConfigFile)
    (env : Environment) :
    (Settings.load levels workers path file env).outcome =
      (file.configuration levels).map fun configuration key =>
        settled (key.default workers) (configuration.entry? key) (env.value? key.variableName) := by
  unfold Settings.load
  cases hfile : file.configuration levels with
  | error e => rfl
  | ok configuration =>
    refine congrArg Except.ok (funext fun key => ?_)
    rw [Draft.settings_takeEnvironment,
      Draft.settings_takeConfiguration path _ (isRead_of_configuration hfile)]
    rfl

/-- The entry of a setting in a configuration file. -/
def ConfigFile.entry? (file : ConfigFile) (levels : Nat) (key : SettingKey) : Option Json :=
  (file.configuration levels).toOption.bind (Configuration.entry? key)

/-- A configuration file that does not stop the program: if it is there and can be opened, its bytes
are UTF-8, and the text is not written like JSON or is read without a failure. -/
def ConfigFile.Readable (file : ConfigFile) (levels : Nat) : Prop :=
  match file with
  | .content bytes =>
    ∃ text, Utf8.decode? bytes = .ok text ∧
      (Json.parse levels Text.digitLimit text = .error .malformed ∨
        ∃ value, Json.parse levels Text.digitLimit text = .ok value)
  | _ => True

theorem Configuration.exists_parse_iff (levels : Nat) (text : Text) :
    (∃ configuration, parse levels text = .ok configuration) ↔
      Json.parse levels Text.digitLimit text = .error .malformed ∨
        ∃ value, Json.parse levels Text.digitLimit text = .ok value := by
  rcases parse_cases levels text with ⟨value, hvalue, heq⟩ | ⟨hmalformed, heq⟩ | ⟨e, herror, hne, heq⟩
  · rw [hvalue, heq]
    exact iff_of_true ⟨_, rfl⟩ (Or.inr ⟨value, rfl⟩)
  · rw [hmalformed, heq]
    exact iff_of_true ⟨_, rfl⟩ (Or.inl rfl)
  · rw [herror, heq]
    simp [hne]

theorem ConfigFile.readable_iff {file : ConfigFile} {levels : Nat} :
    file.Readable levels ↔ ∃ configuration, file.configuration levels = .ok configuration := by
  cases file with
  | absent => exact iff_of_true trivial ⟨.absent, rfl⟩
  | unreadable => exact iff_of_true trivial ⟨.skipped, rfl⟩
  | content bytes =>
    unfold ConfigFile.Readable ConfigFile.configuration
    cases hdecode : Utf8.decode? bytes with
    | error e => simp [hdecode]
    | ok text => simp [hdecode, Configuration.exists_parse_iff]

theorem ConfigFile.entry?_of_configuration {file : ConfigFile} {levels : Nat}
    {configuration : Configuration} (h : file.configuration levels = .ok configuration)
    (key : SettingKey) : file.entry? levels key = configuration.entry? key := by
  unfold ConfigFile.entry?
  rw [h]
  rfl

/-- Loading gives settings if and only if the file can be read. -/
theorem Settings.exists_load_iff (levels workers : Nat) (path : Text) (file : ConfigFile)
    (env : Environment) :
    (∃ settings, (Settings.load levels workers path file env).outcome = .ok settings) ↔
      file.Readable levels := by
  rw [Settings.outcome_load, ConfigFile.readable_iff]
  constructor
  · rintro ⟨settings, hload⟩
    obtain ⟨configuration, hfile, -⟩ := exists_of_map_eq_ok hload
    exact ⟨configuration, hfile⟩
  · rintro ⟨configuration, hfile⟩
    rw [hfile]
    exact ⟨_, rfl⟩

/-- **Every setting that is loaded is settled by what is its own.** -/
theorem Settings.eq_settled_of_load {levels workers : Nat} {path : Text} {file : ConfigFile}
    {env : Environment} {settings : Settings}
    (h : (Settings.load levels workers path file env).outcome = .ok settings) (key : SettingKey) :
    settings key =
      settled (key.default workers) (file.entry? levels key) (env.value? key.variableName) := by
  rw [Settings.outcome_load] at h
  obtain ⟨configuration, hfile, rfl⟩ := exists_of_map_eq_ok h
  rw [ConfigFile.entry?_of_configuration hfile]

/-! ### Files given as text -/

/-- ASCII text is read as it was written. -/
theorem Utf8.decodeFrom?_encode {t : Text} (hascii : ∀ c ∈ t, c.toNat < 128) (place : Nat) :
    Utf8.decodeFrom? 0 place (Utf8.encode t) = .ok t := by
  induction t generalizing place with
  | nil => rfl
  | cons c rest ih =>
    have hc := hascii c List.mem_cons_self
    have hbyte : (UInt8.ofNat c.toNat).toNat = c.toNat := by
      rw [UInt8.toNat_ofNat']
      omega
    have hchar : Utf8.readChar (UInt8.ofNat c.toNat) (Utf8.encode rest) = (0, .ok c) := by
      unfold Utf8.readChar Utf8.lead?
      simp only [hbyte, if_pos hc]
      change (0, Except.ok (Char.ofNat c.toNat)) = _
      rw [Char.ofNat_toNat]
    have hencode : Utf8.encode (c :: rest) = UInt8.ofNat c.toNat :: Utf8.encode rest := by
      unfold Utf8.encode Utf8.encodeChar
      rw [List.flatMap_cons, if_pos hc]
      rfl
    rw [hencode, Utf8.decodeFrom?, hchar]
    change Except.map _ (Utf8.decodeFrom? 0 (place + 1) (Utf8.encode rest)) = _
    rw [ih (fun d hd => hascii d (List.mem_cons_of_mem c hd))]
    rfl

/-- The configuration file with this text. -/
def ConfigFile.ofText (t : Text) : ConfigFile := .content (Utf8.encode t)

theorem ConfigFile.configuration_ofText {t : Text} (hascii : ∀ c ∈ t, c.toNat < 128)
    (levels : Nat) : (ConfigFile.ofText t).configuration levels = Configuration.parse levels t := by
  have hdecode : Utf8.decode? (Utf8.encode t) = .ok t := Utf8.decodeFrom?_encode hascii 0
  unfold ConfigFile.ofText
  simp only [ConfigFile.configuration, hdecode]

/-- A file that has a value on one line holds this value. -/
theorem ConfigFile.configuration_of_line {t : Text} {v : Json} (hline : Json.compact v = t)
    (hascii : ∀ c ∈ t, c.toNat < 128) (h : v.WellFormed) {levels : Nat}
    (hlevels : t.length ≤ levels) (hdigits : t.length ≤ Text.digitLimit) :
    (ConfigFile.ofText t).configuration levels = .ok (.holds v) := by
  subst hline
  rw [configuration_ofText hascii, Configuration.parse, Json.parse_compact h hlevels hdigits]

/-- An object with one member is well-formed if the value of the member is. -/
theorem Json.WellFormed.single {v : Json} (h : v.WellFormed) (key : Text) :
    (Json.object [(key, v)]).WellFormed :=
  .object (List.nodup_singleton key) (List.forall_mem_singleton.mpr h)

end SqlInventory
