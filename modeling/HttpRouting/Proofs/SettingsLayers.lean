import HttpRouting.Proofs.SettingsSources

/-! # Settings in layers

Loading takes every setting from its variable, from the first file that is there, or from the defaults,
whichever gives it first, and each setting apart from the others. As long as the files can be read, what
makes loading fail is that file or a variable, and no other source.
-/

namespace HttpRouting

def SettingsOptions.ofText (source content : String) : Except SettingsError SettingsOptions :=
  match Json.parse? content with
  | none => .error ⟨source, .malformedJson⟩
  | some document => read source document

theorem SettingsOptions.isOk_ofText_iff {source content : String} :
    (ofText source content).isOk = true ↔ ∃ document, Json.parse? content = some document ∧ document.IsSettings := by
  unfold ofText read
  cases Json.parse? content with
  | none => simp
  | some document =>
    simp only [Option.some.injEq, exists_eq_left', ← isOk_readObject_iff]
    cases readObject document <;> rfl

/-- A text that gives options is that of an object, and they are what stands in it. -/
theorem SettingsOptions.of_ofText_eq_ok {source content : String} {options : SettingsOptions}
    (ran : ofText source content = .ok options) : ∃ document, Json.parse? content = some document ∧
      ∀ setting : Setting, options.given? setting = document.at? setting.place := by
  unfold ofText read at ran
  cases parsed : Json.parse? content with
  | none =>
    rw [parsed] at ran
    cases ran
  | some document =>
    simp only [parsed] at ran
    split at ran
    next read =>
      cases ran
      exact ⟨document, rfl, given?_readObject (Json.ordered_of_parse? parsed) read⟩
    next => cases ran

/-! ## The first file -/

namespace FileTree

/-- Whether a path is the first of a list whose file is there, and what the file holds. -/
def FirstFile (tree : FileTree) (paths : List String) (path content : String) : Prop :=
  ∃ before after, paths = before ++ path :: after ∧
    (∀ earlier ∈ before, tree.read? earlier = .ok none) ∧ tree.read? path = .ok (some content)

variable {tree : FileTree} {paths : List String} {head path content : String}

private theorem not_firstFile_nil : ¬ tree.FirstFile [] path content := by
  rintro ⟨before, after, same, -⟩
  exact absurd same (by simp)

private theorem firstFile_cons_of_missing (missing : tree.read? head = .ok none) :
    tree.FirstFile (head :: paths) path content ↔ tree.FirstFile paths path content := by
  constructor
  · rintro ⟨before, after, same, absent, read⟩
    rcases List.cons_eq_append_iff.mp same with ⟨-, here⟩ | ⟨rest, rfl, later⟩
    · obtain ⟨rfl, -⟩ := List.cons.inj here
      rw [missing] at read
      cases read
    · exact ⟨rest, after, later, fun earlier member => absent earlier (List.mem_cons_of_mem _ member), read⟩
  · rintro ⟨before, after, rfl, absent, read⟩
    exact ⟨head :: before, after, rfl, List.forall_mem_cons.mpr ⟨missing, absent⟩, read⟩

private theorem firstFile_cons_of_read {held : String} (there : tree.read? head = .ok (some held)) :
    tree.FirstFile (head :: paths) path content ↔ path = head ∧ content = held := by
  constructor
  · rintro ⟨before, after, same, absent, read⟩
    rcases List.cons_eq_append_iff.mp same with ⟨-, here⟩ | ⟨rest, rfl, -⟩
    · obtain ⟨rfl, -⟩ := List.cons.inj here
      rw [there] at read
      cases read
      exact ⟨rfl, rfl⟩
    · rw [absent head (List.mem_cons_self ..)] at there
      cases there
  · rintro ⟨rfl, rfl⟩
    exact ⟨[], paths, rfl, List.forall_mem_nil _, there⟩

/-- There is only one first file. -/
theorem FirstFile.unique {other held : String} (first : tree.FirstFile paths path content)
    (again : tree.FirstFile paths other held) : path = other ∧ content = held := by
  induction paths with
  | nil => exact absurd first not_firstFile_nil
  | cons head paths ih =>
    cases read : tree.read? head with
    | error fault =>
      obtain ⟨before, after, same, absent, there⟩ := first
      cases before with
      | nil =>
        cases same
        rw [there] at read
        cases read
      | cons earlier before =>
        cases same
        rw [absent head (List.mem_cons_self ..)] at read
        cases read
    | ok found =>
      cases found with
      | none =>
        rw [firstFile_cons_of_missing read] at first again
        exact ih first again
      | some text =>
        obtain ⟨rfl, rfl⟩ := (firstFile_cons_of_read read).mp first
        obtain ⟨rfl, rfl⟩ := (firstFile_cons_of_read read).mp again
        exact ⟨rfl, rfl⟩

private theorem options?_of_read (there : tree.read? path = .ok (some content)) :
    tree.options? path = (Outcome.lift .settings (SettingsOptions.ofText path content)).map some := by
  simp only [options?, there, SettingsOptions.ofText]
  cases Json.parse? content with
  | none => rfl
  | some document =>
    dsimp only
    cases SettingsOptions.read path document <;> rfl

/-- Files that can be read give the options of the first of them, or none when there is no file. -/
theorem firstOptions_eq (readable : ∀ path ∈ paths, ∃ content, tree.read? path = .ok content) :
    (∃ source content, (∀ path held, tree.FirstFile paths path held ↔ path = source ∧ held = content) ∧
      tree.firstOptions paths = Outcome.lift .settings (SettingsOptions.ofText source content)) ∨
    (∀ path held, ¬ tree.FirstFile paths path held) ∧ tree.firstOptions paths = Outcome.lift .settings (.ok {}) := by
  induction paths with
  | nil => exact .inr ⟨fun _ _ => not_firstFile_nil, rfl⟩
  | cons head paths ih =>
    obtain ⟨⟨found, read⟩, others⟩ := List.forall_mem_cons.mp readable
    cases found with
    | none =>
      have skipped : tree.firstOptions (head :: paths) = tree.firstOptions paths := by
        simp [firstOptions, options?, read, bind, Except.bind]
      simp only [firstFile_cons_of_missing read, skipped]
      exact ih others
    | some content =>
      refine .inl ⟨head, content, fun path held => firstFile_cons_of_read read, ?_⟩
      rw [firstOptions, options?_of_read read]
      cases SettingsOptions.ofText head content <;> rfl

end FileTree

/-! ## Layers -/

/-- The paths of the files that are tried. -/
def Settings.candidates : Option String → List String
  | none | some "" => defaultPaths
  | some path => [path]

/-- Where the value of a setting comes from: from its variable, unless this is empty; else from the first
file that is there, if it holds the setting; else it is the default. -/
inductive Setting.Resolves (setting : Setting) (tree : FileTree) (paths : List String)
    (environment : Environment) : Json → Prop where
  | fromVariable {text : String} {value : Json} (set : environment.get? setting.variableName = some text)
      (nonempty : text ≠ "") (means : setting.meaning? text = some value) :
      Resolves setting tree paths environment value
  | fromFile {path content : String} {document value : Json}
      (unset : ∀ text, environment.get? setting.variableName = some text → text = "")
      (first : tree.FirstFile paths path content) (parsed : Json.parse? content = some document)
      (given : document.at? setting.place = some value) : Resolves setting tree paths environment value
  | byDefault (unset : ∀ text, environment.get? setting.variableName = some text → text = "")
      (absent : ∀ path content document, tree.FirstFile paths path content →
        Json.parse? content = some document → document.at? setting.place = none) :
      Resolves setting tree paths environment setting.default

/-- A setting resolves to one value only. -/
theorem Setting.Resolves.unique {setting : Setting} {tree : FileTree} {paths : List String}
    {environment : Environment} {value other : Json} (resolves : setting.Resolves tree paths environment value)
    (again : setting.Resolves tree paths environment other) : value = other := by
  cases resolves with
  | fromVariable set nonempty means =>
    cases again with
    | fromVariable set' _ means' =>
      cases set.symm.trans set'
      exact Option.some.inj (means.symm.trans means')
    | fromFile unset | byDefault unset => exact absurd (unset _ set) nonempty
  | fromFile unset first parsed given =>
    cases again with
    | fromVariable set nonempty => exact absurd (unset _ set) nonempty
    | fromFile _ first' parsed' given' =>
      obtain ⟨rfl, rfl⟩ := first.unique first'
      cases parsed.symm.trans parsed'
      exact Option.some.inj (given.symm.trans given')
    | byDefault _ absent => exact absurd (given.symm.trans (absent _ _ _ first parsed)) (by simp)
  | byDefault unset absent =>
    cases again with
    | fromVariable set nonempty => exact absurd (unset _ set) nonempty
    | fromFile _ first parsed given => exact absurd (given.symm.trans (absent _ _ _ first parsed)) (by simp)
    | byDefault => rfl

namespace Settings

variable {tree : FileTree} {path : Option String} {environment : Environment}

private theorem value_default (setting : Setting) : ({} : Settings).value setting = setting.default := by
  cases setting <;> rfl

/-- Two layers over the defaults, in their order. -/
theorem value_layers (file options : SettingsOptions) (setting : Setting) :
    ((override {} file.json).override options.json).value setting =
      (options.given? setting).getD ((file.given? setting).getD setting.default) := by
  rw [value_override, value_override, value_default]

/-- A setting that a variable or a file gives, or else the default, resolves to that. -/
theorem resolves_getD {paths : List String} {setting : Setting} (means : environment.Means setting)
    {held : Option Json} (given : ∀ value, held = some value ↔ ∃ path content document,
      tree.FirstFile paths path content ∧ Json.parse? content = some document ∧
        document.at? setting.place = some value) :
    setting.Resolves tree paths environment
      (((environment.value? setting.variableName).bind setting.meaning?).getD (held.getD setting.default)) := by
  cases set : environment.value? setting.variableName with
  | some text =>
    obtain ⟨value, meant⟩ := Option.isSome_iff_exists.mp (means text set)
    obtain ⟨here, nonempty⟩ := Environment.value?_eq_some_iff.mp set
    rw [Option.bind_some, meant]
    exact .fromVariable here nonempty meant
  | none =>
    have unset : ∀ text, environment.get? setting.variableName = some text → text = "" := by
      intro text here
      by_contra nonempty
      rw [Environment.value?_eq_some_iff.mpr ⟨here, nonempty⟩] at set
      cases set
    cases held with
    | some value =>
      obtain ⟨path, content, document, first, parsed, here⟩ := (given value).mp rfl
      exact .fromFile unset first parsed here
    | none =>
      refine .byDefault unset fun path content document first parsed => ?_
      by_contra present
      obtain ⟨value, here⟩ := Option.ne_none_iff_exists'.mp present
      cases (given value).mpr ⟨path, content, document, first, parsed, here⟩

/-- What is loaded from files that can be read. -/
theorem load_eq (environment : Environment)
    (readable : ∀ candidate ∈ candidates path, ∃ content, tree.read? candidate = .ok content) :
    ∃ file : Except SettingsError SettingsOptions,
      load tree path environment = Outcome.lift .settings (do
        let file ← file
        let options ← environment.options
        return (override {} file.json).override options.json) ∧
      (file.isOk = false ↔ ∃ source content, tree.FirstFile (candidates path) source content ∧
        ∀ document, Json.parse? content = some document → ¬ document.IsSettings) ∧
      ∀ options, file = .ok options → ∀ (setting : Setting) value, options.given? setting = some value ↔
        ∃ source content document, tree.FirstFile (candidates path) source content ∧
          Json.parse? content = some document ∧ document.at? setting.place = some value := by
  have loads : load tree path environment = (do
      let file ← tree.firstOptions (candidates path)
      let options ← Outcome.lift .settings environment.options
      return (override {} file.json).override options.json) := rfl
  rcases FileTree.firstOptions_eq readable with ⟨source, content, first, found⟩ | ⟨missing, found⟩
  · refine ⟨SettingsOptions.ofText source content, ?_, ?_, fun options ran setting value => ?_⟩
    · rw [loads, found]
      cases SettingsOptions.ofText source content with
      | error => rfl
      | ok file => cases environment.options <;> rfl
    · rw [← Bool.not_eq_true, SettingsOptions.isOk_ofText_iff]
      simp [first]
    · obtain ⟨document, parsed, given⟩ := SettingsOptions.of_ofText_eq_ok ran
      simp only [first, given]
      constructor
      · exact fun here => ⟨source, content, document, ⟨rfl, rfl⟩, parsed, here⟩
      · rintro ⟨_, _, other, ⟨rfl, rfl⟩, again, here⟩
        rw [parsed] at again
        cases again
        exact here
  · refine ⟨.ok {}, ?_, ?_, fun options ran setting value => ?_⟩
    · rw [loads, found]
      cases environment.options <;> rfl
    · simp [missing]
    · cases ran
      have empty : SettingsOptions.given? {} setting = none := by cases setting <;> rfl
      simp [missing, empty]

private theorem isOk_options_eq_false_iff : environment.options.isOk = false ↔
    ∃ (setting : Setting) (text : String), environment.get? setting.variableName = some text ∧ text ≠ "" ∧
      setting.meaning? text = none := by
  rw [← Bool.not_eq_true, Environment.isOk_options_iff]
  simp only [Environment.Means, Environment.value?_eq_some_iff, not_forall, Bool.not_eq_true,
    Option.isSome_eq_false_iff, Option.isNone_iff_eq_none, exists_prop, and_assoc]

/-- Loading gives every setting the value of the first source that has one, and fails, always with an
error about the settings, exactly when the first file that is there is not an object of known keys with
well-typed values or a variable that is set means nothing. -/
theorem load_resolves
    (readable : ∀ candidate ∈ candidates path, ∃ content, tree.read? candidate = .ok content) :
    (∀ settings, load tree path environment = .ok settings → ∀ setting : Setting,
      setting.Resolves tree (candidates path) environment (settings.value setting)) ∧
    ((∃ error, load tree path environment = .error (.settings error)) ↔
      (∃ source content, tree.FirstFile (candidates path) source content ∧
        ∀ document, Json.parse? content = some document → ¬ document.IsSettings) ∨
      ∃ (setting : Setting) (text : String), environment.get? setting.variableName = some text ∧ text ≠ "" ∧
        setting.meaning? text = none) ∧
    ∀ fault, load tree path environment = .error fault → ∃ error, fault = .settings error := by
  obtain ⟨file, loads, fails, gives⟩ := load_eq environment readable
  rw [← fails, ← isOk_options_eq_false_iff, loads]
  refine ⟨fun settings ran setting => ?_, ?_, fun fault ran => ?_⟩
  · simp only [Outcome.lift_eq_ok, bind_eq_ok, pure_eq_ok] at ran
    obtain ⟨given, fileRead, options, variablesRead, rfl⟩ := ran
    have means := Environment.isOk_options_iff.mp (isOk_iff_exists.mpr ⟨options, variablesRead⟩) setting
    rw [value_layers, Environment.given?_of_options variablesRead]
    exact resolves_getD means (gives given fileRead setting)
  · cases file with
    | error error => simp [Outcome.lift, bind, Except.bind]
    | ok given => cases environment.options <;> simp [Outcome.lift, bind, Except.bind, pure, Except.pure]
  · obtain ⟨error, -, rfl⟩ := Outcome.lift_eq_error.mp ran
    exact ⟨error, rfl⟩

/-- A file below the second path that is tried, which gives three settings. -/
def savedTree : FileTree where
  files := [(["config", "junction.json"],
    "\x7b\"env\":\"\",\"logLevel\":\"debug\",\"router\":\x7b\"ignoreCase\":false\x7d\x7d")]

/-- Variables of which one overrides a setting of the file, and one is empty. -/
def savedVariables : Environment := [("LOG_LEVEL", "ERROR"), ("LOG_FORMAT", "")]

theorem load_resolves_saved : ∃ settings, load savedTree none savedVariables = .ok settings ∧
    settings.env.string? = some "" ∧ settings.level.string? = some "error" ∧
      ∀ setting : Setting, setting.Resolves savedTree (candidates none) savedVariables (settings.value setting) := by
  have computed : (load savedTree none savedVariables).toOption.map
      (fun settings => (settings.env.string?, settings.level.string?)) = some (some "", some "error") := by
    decide +kernel
  have absent : savedTree.read? "./junction.json" = .ok none := by decide +kernel
  have there : (savedTree.read? "./config/junction.json").isOk = true := by decide +kernel
  have readable : ∀ candidate ∈ candidates none, ∃ content, savedTree.read? candidate = .ok content :=
    List.forall_mem_cons.mpr ⟨⟨none, absent⟩, List.forall_mem_singleton.mpr (isOk_iff_exists.mp there)⟩
  obtain ⟨settings, loaded, values⟩ := Option.map_eq_some_iff.mp computed
  rw [toOption_eq_some] at loaded
  obtain ⟨env, level⟩ := Prod.mk.inj values
  exact ⟨settings, loaded, env, level, (load_resolves readable).1 settings loaded⟩

end Settings

end HttpRouting
