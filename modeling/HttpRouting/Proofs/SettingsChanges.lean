import HttpRouting.Proofs.SettingsSources

/-! # Settings that are changed key by key

A key and a value make an object of objects, which is read like a file. If it is refused, the settings stay as
they were. If it is accepted, each setting whose place it mentions takes the value that stands there, and every
other setting stays. So whatever is set, one after the other, every setting keeps a value that is well-typed for
it, and what the settings tell about themselves can be read again and gives the same settings.
-/

namespace HttpRouting

open Text

/-- Fields are in order when their names are. -/
theorem Fields.ordered_of_names {names : List String} {fields : Fields Json} (named : fields.map Prod.fst = names)
    (apart : names.Pairwise fun earlier later => earlier ≠ later ∧ overtakes later earlier = false) :
    fields.Ordered := by
  rw [← named, List.pairwise_map] at apart
  exact apart

/-- What stands at the place that an object was nested for. -/
theorem Settings.at?_nested (key : String) (value : Json) : (nested key value).at? (cut '.' key) = some value := by
  rw [nested]
  generalize cut '.' key = names
  induction names with
  | nil => exact Json.at?_nil value
  | cons name names ih =>
    rw [List.foldr_cons, Json.at?_object_cons, Fields.get?, List.lookup_cons_self, Option.bind_some, ih]

theorem Json.Ordered.nested {value : Json} (ordered : value.Ordered) (key : String) :
    (Settings.nested key value).Ordered := by
  rw [Settings.nested]
  generalize cut '.' key = names
  induction names with
  | nil => exact ordered
  | cons name names ih => exact .object (List.pairwise_singleton ..) (List.forall_mem_singleton.mpr ih)

namespace Setting

private theorem takes_default (setting : Setting) : setting.Takes setting.default := by
  cases setting with
  | env => exact ⟨_, rfl⟩
  | level | format | ignoreCase | precedence => simp [Takes, words?, default]

/-- What options give to a setting is well-typed for it. -/
theorem takes_of_given? {setting : Setting} {options : SettingsOptions} {value : Json}
    (given : options.given? setting = some value) : setting.Takes value := by
  cases setting with
  | env =>
    obtain ⟨text, -, rfl⟩ := Option.map_eq_some_iff.mp given
    exact ⟨text, rfl⟩
  | level =>
    obtain ⟨level, -, rfl⟩ := Option.map_eq_some_iff.mp given
    exact names_level.takes_iff.mpr ⟨level, rfl⟩
  | format =>
    obtain ⟨format, -, rfl⟩ := Option.map_eq_some_iff.mp given
    exact names_format.takes_iff.mpr ⟨format, rfl⟩
  | ignoreCase =>
    obtain ⟨router, -, given⟩ := Option.bind_eq_some_iff.mp given
    obtain ⟨flag, -, rfl⟩ := Option.map_eq_some_iff.mp given
    exact takes_ignoreCase_iff.mpr rfl
  | precedence =>
    obtain ⟨router, -, given⟩ := Option.bind_eq_some_iff.mp given
    obtain ⟨precedence, -, rfl⟩ := Option.map_eq_some_iff.mp given
    exact names_precedence.takes_iff.mpr ⟨precedence, rfl⟩

end Setting

namespace Settings

variable {settings after : Settings} {key : String} {value : Json}

theorem eq_of_value_eq {other : Settings} (same : ∀ setting, settings.value setting = other.value setting) :
    settings = other := by
  obtain ⟨env, level, format, ignoreCase, precedence⟩ := settings
  obtain ⟨env', level', format', ignoreCase', precedence'⟩ := other
  obtain rfl : env = env' := same .env
  obtain rfl : level = level' := same .level
  obtain rfl : format = format' := same .format
  obtain rfl : ignoreCase = ignoreCase' := same .ignoreCase
  obtain rfl : precedence = precedence' := same .precedence
  rfl

/-- What is asked for under the key of a setting is its value. -/
theorem get?_of_place {setting : Setting} (leads : cut '.' key = setting.place) :
    settings.get? key = some (.value (settings.value setting)) := by
  rw [get?, leads]
  cases setting <;> rfl

private theorem at?_all (settings : Settings) (setting : Setting) :
    settings.all.at? setting.place = some (settings.value setting) := by
  cases setting <;> rfl

/-- Well-typed settings tell of themselves what is read like a file. -/
theorem isSettings_all (typed : ∀ setting : Setting, setting.Takes (settings.value setting)) :
    settings.all.IsSettings := by
  refine ⟨_, rfl, fun field member => ?_⟩
  simp only [List.mem_cons, List.not_mem_nil, or_false] at member
  obtain rfl | rfl | rfl | rfl := member
  · exact .inl ⟨.env, rfl, typed .env⟩
  · exact .inl ⟨.level, rfl, typed .level⟩
  · exact .inl ⟨.format, rfl, typed .format⟩
  · refine .inr ⟨rfl, _, rfl, fun field member => ?_⟩
    simp only [List.mem_cons, List.not_mem_nil, or_false] at member
    obtain rfl | rfl := member
    · exact ⟨.ignoreCase, rfl, typed .ignoreCase⟩
    · exact ⟨.precedence, rfl, typed .precedence⟩

theorem ordered_of_takes {setting : Setting} (typed : setting.Takes value) : value.Ordered := by
  cases setting with
  | env =>
    obtain ⟨text, rfl⟩ := typed
    exact .string text
  | level =>
    obtain ⟨level, rfl⟩ := Setting.names_level.takes_iff.mp typed
    exact .string _
  | format =>
    obtain ⟨format, rfl⟩ := Setting.names_format.takes_iff.mp typed
    exact .string _
  | ignoreCase =>
    have held := Setting.takes_ignoreCase_iff.mp typed
    cases value with
    | bool flag => exact .bool flag
    | null | number | string | array | object => cases held
  | precedence =>
    obtain ⟨precedence, rfl⟩ := Setting.names_precedence.takes_iff.mp typed
    exact .string _

theorem ordered_all (typed : ∀ setting : Setting, setting.Takes (settings.value setting)) :
    settings.all.Ordered := by
  have outer : ["env", "logLevel", "logFormat", "router"].Pairwise fun earlier later =>
      earlier ≠ later ∧ Fields.overtakes later earlier = false := by decide
  have inner : ["ignoreCase", "regexPrecedence"].Pairwise fun earlier later =>
      earlier ≠ later ∧ Fields.overtakes later earlier = false := by decide
  refine .object (Fields.ordered_of_names rfl outer) fun field member => ?_
  simp only [List.mem_cons, List.not_mem_nil, or_false] at member
  obtain rfl | rfl | rfl | rfl := member
  · exact ordered_of_takes (typed .env)
  · exact ordered_of_takes (typed .level)
  · exact ordered_of_takes (typed .format)
  · refine .object (Fields.ordered_of_names rfl inner) fun field member => ?_
    simp only [List.mem_cons, List.not_mem_nil, or_false] at member
    obtain rfl | rfl := member
    · exact ordered_of_takes (typed .ignoreCase)
    · exact ordered_of_takes (typed .precedence)

/-- What well-typed settings tell of themselves can be read, and gives the same settings. -/
theorem exists_read_all (typed : ∀ setting : Setting, setting.Takes (settings.value setting)) (source : String) :
    ∃ options, SettingsOptions.read source settings.all = .ok options ∧ override {} options.json = settings := by
  obtain ⟨options, read⟩ := isOk_iff_exists.mp (SettingsOptions.isOk_readObject_iff.mpr (isSettings_all typed))
  refine ⟨options, by rw [SettingsOptions.read, read], eq_of_value_eq fun setting => ?_⟩
  rw [value_override, SettingsOptions.given?_readObject (ordered_all typed) read, at?_all, Option.getD_some]

/-- Setting a key is overriding by what is read of the object that the key and the value make. -/
theorem set_eq_ok : settings.set key value = .ok after ↔
    ∃ options, SettingsOptions.readObject (nested key value) = .ok options ∧
      after = settings.override options.json := by
  rw [set, bind_eq_ok]
  simp only [SettingsOptions.read, pure_eq_ok]
  cases SettingsOptions.readObject (nested key value) <;> simp [eq_comm]

/-- A refusal names the key. -/
theorem set_eq_error {error : SettingsError} : settings.set key value = .error error ↔
    ∃ cause, SettingsOptions.readObject (nested key value) = .error cause ∧
      error = ⟨"key \"" ++ key ++ "\"", cause⟩ := by
  rw [set, bind_eq_error]
  simp only [SettingsOptions.read]
  cases SettingsOptions.readObject (nested key value) <;> simp [eq_comm, pure, Except.pure]

/-- The settings that a program holds when a key is set: what the call gives, and the settings behind it. -/
def change (settings : Settings) (key : String) (value : Json) : Except SettingsError Unit × Settings :=
  match settings.set key value with
  | .ok after => (.ok (), after)
  | .error error => (.error error, settings)

/-- The settings that are made of well-typed options, and then changed key by key; some of the changes may have been
refused. -/
inductive Reached : Settings → Prop
  | made (options : SettingsOptions) : Reached (override {} options.json)
  | change {settings : Settings} (key : String) (value : Json) (reached : Reached settings) :
      Reached (settings.change key value).2

private theorem change_cases (settings : Settings) (key : String) (value : Json) :
    (∃ options, SettingsOptions.readObject (nested key value) = .ok options ∧
        settings.change key value = (.ok (), settings.override options.json)) ∨
      ∃ cause, SettingsOptions.readObject (nested key value) = .error cause ∧
        settings.change key value = (.error ⟨"key \"" ++ key ++ "\"", cause⟩, settings) := by
  cases read : SettingsOptions.readObject (nested key value) with
  | ok options =>
    have accepted : settings.set key value = _ := set_eq_ok.mpr ⟨options, read, rfl⟩
    exact .inl ⟨options, rfl, by rw [change, accepted]⟩
  | error cause =>
    have refused : settings.set key value = _ := set_eq_error.mpr ⟨cause, read, rfl⟩
    exact .inr ⟨cause, rfl, by rw [change, refused]⟩

private theorem takes_override (typed : ∀ setting : Setting, setting.Takes (settings.value setting))
    (options : SettingsOptions) (setting : Setting) : setting.Takes ((settings.override options.json).value setting) := by
  rw [value_override]
  cases given : options.given? setting with
  | none => exact typed setting
  | some value => exact Setting.takes_of_given? given

/-- Every setting keeps a value that is well-typed for it. -/
theorem Reached.takes (reached : Reached settings) (setting : Setting) : setting.Takes (settings.value setting) := by
  induction reached generalizing setting with
  | made options =>
    have default (setting : Setting) : setting.Takes (value {} setting) := by
      cases setting <;> exact Setting.takes_default _
    exact takes_override default options setting
  | change key value _ ih =>
    rcases change_cases _ key value with ⟨options, -, changed⟩ | ⟨cause, -, changed⟩
    · rw [changed]
      exact takes_override ih options setting
    · rw [changed]
      exact ih setting

/-- What setting a key does to settings that were reached in any way. What the key and the value make is an object of
known keys with well-typed values or not. If not, the call is refused, with an error that names the key, and nothing
changes. If so, the settings that the object mentions are replaced, and only these; for the key of a setting, the
value is what is asked for afterwards. Whatever was set before, each setting has a value that is well-typed for it,
and the settings can be read again from what they tell. -/
theorem Reached.change_spec (reached : Reached settings) (key : String) {value : Json} (ordered : value.Ordered) :
    (¬(nested key value).IsSettings → ∃ cause,
      settings.change key value = (.error ⟨"key \"" ++ key ++ "\"", cause⟩, settings)) ∧
    ((nested key value).IsSettings → ∃ after, settings.change key value = (.ok (), after) ∧
      (∀ setting, after.value setting = ((nested key value).at? setting.place).getD (settings.value setting)) ∧
      ∀ setting : Setting, cut '.' key = setting.place → after.get? key = some (.value value)) ∧
    (∀ setting : Setting, setting.Takes (settings.value setting)) ∧
    ∀ source, ∃ options, SettingsOptions.read source settings.all = .ok options ∧
      (override {} options.json).all = settings.all := by
  refine ⟨fun unfit => ?_, fun fit => ?_, reached.takes, fun source => ?_⟩
  · rcases change_cases settings key value with ⟨options, read, -⟩ | ⟨cause, -, refused⟩
    · exact absurd (SettingsOptions.isOk_readObject_iff.mp (isOk_iff_exists.mpr ⟨options, read⟩)) unfit
    · exact ⟨cause, refused⟩
  · rcases change_cases settings key value with ⟨options, read, accepted⟩ | ⟨cause, refused, -⟩
    · have replaced (setting : Setting) : (settings.override options.json).value setting =
          ((nested key value).at? setting.place).getD (settings.value setting) := by
        rw [value_override, SettingsOptions.given?_readObject (ordered.nested key) read]
      refine ⟨_, accepted, replaced, fun setting leads => ?_⟩
      rw [get?_of_place leads, replaced, ← leads, at?_nested, Option.getD_some]
    · have read := SettingsOptions.isOk_readObject_iff.mpr fit
      rw [refused] at read
      cases read
  · obtain ⟨options, read, same⟩ := exists_read_all reached.takes source
    exact ⟨options, read, by rw [same]⟩

/-- Settings that were made to ignore letter case, and of which the level was changed. -/
def quietSettings : Settings :=
  (change (override {} (SettingsOptions.json { router := some { ignoreCase := some true } })) "logLevel"
    (.string "warn")).2

/-- A level that there is not is refused, and an object replaces the one setting that it mentions. -/
theorem change_spec_quiet : Reached quietSettings ∧ (Json.string "loud").Ordered ∧
    (Json.object [("regexPrecedence", .string "capture")]).Ordered ∧
    (∃ cause, quietSettings.change "logLevel" (.string "loud") =
      (.error ⟨"key \"" ++ "logLevel" ++ "\"", cause⟩, quietSettings)) ∧
    ∃ after, quietSettings.change "router" (.object [("regexPrecedence", .string "capture")]) = (.ok (), after) ∧
      after.value .precedence = .string "capture" ∧ after.value .ignoreCase = .bool true ∧
      after.value .level = .string "warn" := by
  have reached : Reached quietSettings := .change "logLevel" (.string "warn") (.made _)
  have word : (Json.string "loud").Ordered := .string "loud"
  have inner : (Json.object [("regexPrecedence", .string "capture")]).Ordered :=
    .object (List.pairwise_singleton ..) (List.forall_mem_singleton.mpr (.string "capture"))
  have levelKey : cut '.' "logLevel" = ["logLevel"] := by decide +kernel
  have routerKey : cut '.' "router" = ["router"] := by decide +kernel
  have unfit : ¬(nested "logLevel" (.string "loud")).IsSettings := by
    rw [← SettingsOptions.isOk_readObject_iff, nested, levelKey]
    decide +kernel
  have fit : (nested "router" (.object [("regexPrecedence", .string "capture")])).IsSettings := by
    rw [← SettingsOptions.isOk_readObject_iff, nested, routerKey]
    decide +kernel
  refine ⟨reached, word, inner, (reached.change_spec "logLevel" word).1 unfit, ?_⟩
  obtain ⟨after, accepted, replaced, -⟩ := (reached.change_spec "router" inner).2.1 fit
  refine ⟨after, accepted, ?_, ?_, ?_⟩
  · rw [replaced, nested, routerKey]
    rfl
  · rw [replaced, nested, routerKey]
    rfl
  · rw [replaced, nested, routerKey]
    rfl

end Settings

end HttpRouting
