import HttpRouting.Proofs.JsonObjects
import HttpRouting.Settings

/-! # Settings in layers

Loading takes every setting from the environment, from the first file that is there, or from the
defaults, whichever gives it first, and each setting apart from the others. The five settings are told
apart by their names, their words and their defaults alone, so that what is said of a source is said
once for all of them: where its value stands, and which values are accepted.
-/

namespace HttpRouting

open Text

/-- One of the settings. -/
inductive Setting where
  | env
  | level
  | format
  | ignoreCase
  | precedence

namespace Setting

/-- The names that lead to the setting in a file. -/
def place : Setting → List String
  | env => ["env"]
  | level => ["logLevel"]
  | format => ["logFormat"]
  | ignoreCase => ["router", "ignoreCase"]
  | precedence => ["router", "regexPrecedence"]

def variableName : Setting → String
  | env => "NODE_ENV"
  | level => "LOG_LEVEL"
  | format => "LOG_FORMAT"
  | ignoreCase => "JUNCTION_IGNORE_CASE"
  | precedence => "JUNCTION_REGEX_PRECEDENCE"

/-- The value of the setting when no source gives one. -/
def default : Setting → Json
  | env => .string "development"
  | level => .string "info"
  | format => .string "pretty"
  | ignoreCase => .bool false
  | precedence => .string "regex"

/-- The words of the setting and the values that they mean, unless any text will do. -/
def words? : Setting → Option (Entries Json)
  | env => none
  | level => some (["debug", "info", "warn", "error"].map fun word => (word, .string word))
  | format => some (["json", "pretty"].map fun word => (word, .string word))
  | ignoreCase => some [("true", .bool true), ("1", .bool true), ("false", .bool false), ("0", .bool false)]
  | precedence => some (["regex", "capture"].map fun word => (word, .string word))

def meaning? (setting : Setting) (text : String) : Option Json :=
  match setting.words? with
  | none => some (.string text)
  | some words => words.get? (lower text)

def Takes (setting : Setting) (value : Json) : Prop :=
  match setting.words? with
  | none => ∃ text, value = .string text
  | some words => value ∈ words.map Prod.snd

/-- Whether a field, reached by some names, is that of a setting and well-typed for it. -/
def IsGivenBy (above : List String) (field : String × Json) : Prop :=
  ∃ setting : Setting, setting.place = above ++ [field.1] ∧ setting.Takes field.2

end Setting

/-- Whether a value is an object of known keys with well-typed values. -/
def Json.IsSettings (value : Json) : Prop :=
  ∃ fields, value = .object fields ∧ ∀ field ∈ fields, Setting.IsGivenBy [] field ∨
    field.1 = "router" ∧
      ∃ inner, field.2 = .object inner ∧ ∀ field ∈ inner, Setting.IsGivenBy ["router"] field

def Settings.value (settings : Settings) : Setting → Json
  | .env => settings.env
  | .level => settings.level
  | .format => settings.format
  | .ignoreCase => settings.ignoreCase
  | .precedence => settings.precedence

/-! ## One source -/

def RouterOptions.given? (options : RouterOptions) : Setting → Option Json
  | .ignoreCase => options.ignoreCase.map .bool
  | .precedence => options.precedence.map (.string ·.name)
  | _ => none

def SettingsOptions.given? (options : SettingsOptions) : Setting → Option Json
  | .env => options.env.map .string
  | .level => options.level.map (.string ·.name)
  | .format => options.format.map (.string ·.name)
  | .ignoreCase => options.router.bind (·.given? .ignoreCase)
  | .precedence => options.router.bind (·.given? .precedence)

private theorem lookup_optional {α : Type} (name other : String) (given : Option α) (json : α → Json) :
    (given.toList.map fun value => (name, json value)).lookup other =
      if other = name then given.map json else none := by
  cases given with
  | none => simp
  | some value =>
    by_cases same : other = name
    · simp [same]
    · simp [List.lookup_cons, same, beq_false_of_ne same]

/-- An object that has a field for a value only when there is one. -/
private theorem field?_object {name : String} {fields : Fields Json} {found : Option Json}
    (held : fields.lookup name = found) (present : found ≠ some .null) :
    (Json.object fields).field? name = found := by
  have same : (Json.object fields).fields?.bind (Fields.get? name) = found := held
  unfold Json.field?
  rw [same]
  cases found with
  | none => rfl
  | some value => cases value <;> first | rfl | exact absurd rfl present

theorem RouterOptions.field?_json (options : RouterOptions) :
    options.json.field? "ignoreCase" = options.given? .ignoreCase ∧
      options.json.field? "regexPrecedence" = options.given? .precedence := by
  refine ⟨field?_object ?_ ?_, field?_object ?_ ?_⟩
  · simp [List.lookup_append, lookup_optional, given?]
  · simp [given?]
  · simp [List.lookup_append, lookup_optional, given?]
  · simp [given?]

theorem SettingsOptions.field?_json (options : SettingsOptions) :
    options.json.field? "env" = options.given? .env ∧
      options.json.field? "logLevel" = options.given? .level ∧
      options.json.field? "logFormat" = options.given? .format ∧
      options.json.field? "router" = options.router.map RouterOptions.json := by
  refine ⟨field?_object ?_ ?_, field?_object ?_ ?_, field?_object ?_ ?_, field?_object ?_ ?_⟩
  · simp [List.lookup_append, lookup_optional, given?]
  · simp [given?]
  · simp [List.lookup_append, lookup_optional, given?]
  · simp [given?]
  · simp [List.lookup_append, lookup_optional, given?]
  · simp [given?]
  · simp [List.lookup_append, lookup_optional]
  · simp [RouterOptions.json]

/-- Options override exactly the settings that they give. -/
theorem Settings.value_override (settings : Settings) (options : SettingsOptions) (setting : Setting) :
    (settings.override options.json).value setting = (options.given? setting).getD (settings.value setting) := by
  obtain ⟨env, level, format, router⟩ := options.field?_json
  cases setting with
  | env => rw [value, override, env]; rfl
  | level => rw [value, override, level]; rfl
  | format => rw [value, override, format]; rfl
  | ignoreCase =>
    rw [value, override, router, SettingsOptions.given?]
    cases options.router with
    | none => rfl
    | some inner => exact congrArg (Option.getD · settings.ignoreCase) inner.field?_json.1
  | precedence =>
    rw [value, override, router, SettingsOptions.given?]
    cases options.router with
    | none => rfl
    | some inner => exact congrArg (Option.getD · settings.precedence) inner.field?_json.2

/-! ## Words -/

theorem Level.ofName?_eq_some_iff {name : String} {level : Level} :
    ofName? name = some level ↔ name = level.name := by
  constructor
  · intro found
    rw [ofName?] at found
    have same := List.find?_some found
    exact (beq_iff_eq.mp same).symm
  · rintro rfl
    cases level <;> rfl

theorem LogFormat.ofName?_eq_some_iff {name : String} {format : LogFormat} :
    ofName? name = some format ↔ name = format.name := by
  unfold ofName?
  cases format <;> split_ifs <;> simp_all [LogFormat.name]

theorem Precedence.ofName?_eq_some_iff {name : String} {precedence : Precedence} :
    ofName? name = some precedence ↔ name = precedence.name := by
  unfold ofName?
  cases precedence <;> split_ifs <;> simp_all [Precedence.name]

namespace Setting

/-- A setting whose words are the names of the values of a type, and a reader of these names. -/
structure Names {α : Type} (setting : Setting) (read : String → Option α) (name : α → String) : Prop where
  inverse : ∀ word value, read word = some value ↔ word = name value
  words : ∃ all : List α, (∀ value, value ∈ all) ∧
    setting.words? = some (all.map fun value => (name value, .string (name value)))

theorem names_level : level.Names Level.ofName? Level.name where
  inverse _ _ := Level.ofName?_eq_some_iff
  words := ⟨Level.all, fun level => by cases level <;> decide, rfl⟩

theorem names_format : format.Names LogFormat.ofName? LogFormat.name where
  inverse _ _ := LogFormat.ofName?_eq_some_iff
  words := ⟨[.json, .pretty], fun format => by cases format <;> decide, rfl⟩

theorem names_precedence : precedence.Names Precedence.ofName? Precedence.name where
  inverse _ _ := Precedence.ofName?_eq_some_iff
  words := ⟨[.regex, .capture], fun precedence => by cases precedence <;> decide, rfl⟩

section

variable {α : Type} {setting : Setting} {read : String → Option α} {name : α → String}

theorem Names.takes_iff (names : setting.Names read name) {value : Json} :
    setting.Takes value ↔ ∃ meant, value = .string (name meant) := by
  obtain ⟨all, complete, words⟩ := names.words
  simp only [Takes, words, List.map_map, List.mem_map, Function.comp_apply]
  constructor
  · rintro ⟨meant, -, rfl⟩
    exact ⟨meant, rfl⟩
  · rintro ⟨meant, rfl⟩
    exact ⟨meant, complete meant, rfl⟩

theorem Names.string?_bind_eq_some_iff (names : setting.Names read name) {value : Json} {meant : α} :
    value.string?.bind read = some meant ↔ value = .string (name meant) := by
  cases value <;> simp [Json.string?, names.inverse]

theorem Names.isSome_iff (names : setting.Names read name) {value : Json} :
    (value.string?.bind read).isSome = true ↔ setting.Takes value := by
  simp only [names.takes_iff, Option.isSome_iff_exists, names.string?_bind_eq_some_iff]

/-- A word that is the name of a value means this name. -/
theorem get?_names (all : List α) (word : String) :
    Entries.get? word (all.map fun value => (name value, Json.string (name value))) =
      if ∃ value ∈ all, word = name value then some (.string word) else none := by
  induction all with
  | nil => simp [Entries.get?]
  | cons value rest ih =>
    rw [List.map_cons, Entries.get?_cons, ih]
    by_cases same : word = name value
    · simp [same]
    · simp [same]

theorem Names.meaning?_eq (names : setting.Names read name) (text : String) :
    setting.meaning? text = (read (lower text)).map fun meant => .string (name meant) := by
  obtain ⟨all, complete, words⟩ := names.words
  simp only [meaning?, words, get?_names]
  cases found : read (lower text) with
  | some meant =>
    have same := (names.inverse _ _).mp found
    rw [if_pos ⟨meant, complete meant, same⟩, same]
    rfl
  | none =>
    refine if_neg ?_
    rintro ⟨meant, -, same⟩
    rw [(names.inverse _ _).mpr same] at found
    cases found

end

theorem takes_env_iff {value : Json} : env.Takes value ↔ value.string?.isSome = true := by
  cases value <;> simp [Takes, words?, Json.string?]

theorem takes_ignoreCase_iff {value : Json} : ignoreCase.Takes value ↔ value.bool?.isSome = true := by
  cases value <;> simp [Takes, words?, Json.bool?]

private theorem meaning?_ignoreCase (text : String) :
    ignoreCase.meaning? text = (Environment.truth? (lower text)).map .bool := by
  simp only [meaning?, words?, Environment.truth?, Entries.get?_cons]
  split_ifs <;> simp_all [Entries.get?]

end Setting

/-! ## Objects -/

private theorem string?_eq_some_iff {value : Json} {text : String} :
    value.string? = some text ↔ value = .string text := by
  cases value <;> simp [Json.string?]

private theorem bool?_eq_some_iff {value : Json} {flag : Bool} : value.bool? = some flag ↔ value = .bool flag := by
  cases value <;> simp [Json.bool?]

namespace Setting

variable {setting : Setting} {name : String} {field : String × Json}

private theorem place_eq_router_iff : setting.place = ["router", name] ↔
    setting = ignoreCase ∧ name = "ignoreCase" ∨ setting = precedence ∧ name = "regexPrecedence" := by
  cases setting <;> simp [place, eq_comm]

private theorem place_eq_singleton_iff : setting.place = [name] ↔
    setting = env ∧ name = "env" ∨ setting = level ∧ name = "logLevel" ∨ setting = format ∧ name = "logFormat" := by
  cases setting <;> simp [place, eq_comm]

private theorem isGivenBy_router_iff : IsGivenBy ["router"] field ↔
    field.1 = "ignoreCase" ∧ ignoreCase.Takes field.2 ∨ field.1 = "regexPrecedence" ∧ precedence.Takes field.2 := by
  simp only [IsGivenBy, List.singleton_append, place_eq_router_iff]
  grind

private theorem isGivenBy_nil_iff : IsGivenBy [] field ↔
    field.1 = "env" ∧ env.Takes field.2 ∨
      field.1 = "logLevel" ∧ level.Takes field.2 ∨ field.1 = "logFormat" ∧ format.Takes field.2 := by
  simp only [IsGivenBy, List.nil_append, place_eq_singleton_iff]
  grind

end Setting

namespace RouterOptions

variable {options next : RouterOptions} {field : String × Json}

private theorem isOk_readField (options : RouterOptions) (field : String × Json) :
    (options.readField field).isOk = true ↔ Setting.IsGivenBy ["router"] field := by
  rw [Setting.isGivenBy_router_iff, Setting.takes_ignoreCase_iff, ← Setting.names_precedence.isSome_iff, readField]
  split_ifs with first second
  · cases field.2.bool? <;> simp [first]
  · cases field.2.string?.bind Precedence.ofName? <;> simp [second]
  · simp [first, second]

/-- A field gives the setting of its name its value, and no other setting anything. -/
theorem given?_readField (ran : options.readField field = .ok next) {setting : Setting} {name : String}
    (placed : setting.place = ["router", name]) :
    next.given? setting = if field.1 = name then some field.2 else options.given? setting := by
  obtain ⟨key, value⟩ := field
  unfold readField at ran
  split_ifs at ran with first second
  · dsimp only at first ran
    split at ran
    next flag held =>
      cases ran
      rw [bool?_eq_some_iff] at held
      obtain ⟨rfl, rfl⟩ | ⟨rfl, rfl⟩ := Setting.place_eq_router_iff.mp placed <;> simp [given?, first, held]
    next => cases ran
  · dsimp only at first second ran
    split at ran
    next precedence held =>
      cases ran
      rw [Setting.names_precedence.string?_bind_eq_some_iff] at held
      obtain ⟨rfl, rfl⟩ | ⟨rfl, rfl⟩ := Setting.place_eq_router_iff.mp placed <;> simp [given?, second, held]
    next => cases ran

/-- An object is read as router options exactly when all its fields are known and well-typed. -/
theorem isOk_read_iff {value : Json} : (read value).isOk = true ↔
    ∃ fields, value = .object fields ∧ ∀ field ∈ fields, Setting.IsGivenBy ["router"] field := by
  cases value with
  | object fields =>
    change (fields.foldlM readField {}).isOk = true ↔ _
    simp [isOk_foldlM_iff isOk_readField]
  | _ => simp [read, Json.fields?]

/-- What is read of an ordered object gives a setting the value that the object holds at its place. -/
theorem given?_read {value : Json} (ordered : value.Ordered) (ran : read value = .ok options)
    {setting : Setting} {name : String} (placed : setting.place = ["router", name]) :
    options.given? setting = value.given? name := by
  cases ordered with
  | object distinct each =>
    rename_i fields
    change fields.foldlM readField {} = .ok options at ran
    have step : ∀ state, ∀ field ∈ fields, ∀ after, readField state field = .ok after →
        after.given? setting = if field.1 = name then some field.2 else state.given? setting :=
      fun state field _ after one => given?_readField one placed
    have last := part_of_foldlM (fun state => state.given? setting) some step distinct.nodup ran
    have empty : given? {} setting = none := by cases setting <;> rfl
    rw [last, empty]
    change _ = fields.get? name
    cases fields.get? name <;> rfl
  | _ => cases ran

end RouterOptions

namespace SettingsOptions

variable {options next : SettingsOptions} {field : String × Json}

private theorem isOk_readField (options : SettingsOptions) (field : String × Json) :
    (options.readField field).isOk = true ↔ Setting.IsGivenBy [] field ∨ field.1 = "router" ∧
      ∃ inner, field.2 = .object inner ∧ ∀ field ∈ inner, Setting.IsGivenBy ["router"] field := by
  rw [Setting.isGivenBy_nil_iff, Setting.takes_env_iff, ← Setting.names_level.isSome_iff,
    ← Setting.names_format.isSome_iff, ← RouterOptions.isOk_read_iff, readField]
  split_ifs with env level format router
  · cases field.2.string? <;> simp [env]
  · cases field.2.string?.bind Level.ofName? <;> simp [level]
  · cases field.2.string?.bind LogFormat.ofName? <;> simp [format]
  · cases RouterOptions.read field.2 <;> simp [router, bind, Except.bind, pure, Except.pure]
  · simp [env, level, format, router]

/-- A value is read as options exactly when it is an object of known keys with well-typed values. -/
theorem isOk_readObject_iff {value : Json} : (readObject value).isOk = true ↔ value.IsSettings := by
  cases value with
  | object fields =>
    change (fields.foldlM readField {}).isOk = true ↔ _
    simp [isOk_foldlM_iff isOk_readField, Json.IsSettings]
  | _ => simp [readObject, Json.fields?, Json.IsSettings]

/-- A field of the object gives what it holds to the settings whose place begins with its name. -/
theorem given?_readField (ordered : field.2.Ordered) (ran : options.readField field = .ok next)
    {setting : Setting} {name : String} {below : List String} (placed : setting.place = name :: below) :
    next.given? setting = if field.1 = name then field.2.at? below else options.given? setting := by
  obtain ⟨key, value⟩ := field
  unfold readField at ran
  split_ifs at ran with env level format router
  · dsimp only at env ran
    split at ran
    next text held =>
      cases ran
      rw [string?_eq_some_iff] at held
      cases setting <;> cases placed <;> simp [given?, env, held]
    next => cases ran
  · dsimp only at level ran
    split at ran
    next meant held =>
      cases ran
      rw [Setting.names_level.string?_bind_eq_some_iff] at held
      cases setting <;> cases placed <;> simp [given?, level, held]
    next => cases ran
  · dsimp only at format ran
    split at ran
    next meant held =>
      cases ran
      rw [Setting.names_format.string?_bind_eq_some_iff] at held
      cases setting <;> cases placed <;> simp [given?, format, held]
    next => cases ran
  · dsimp only at router ran
    obtain ⟨inner, read, ran⟩ := bind_eq_ok.mp ran
    cases ran
    cases setting with
    | env | level | format =>
      cases placed
      simp [given?, router]
    | ignoreCase | precedence =>
      cases placed
      simpa [given?, router] using RouterOptions.given?_read ordered read rfl

/-- What is read of an ordered value gives a setting the value that stands at its place. -/
theorem given?_readObject {value : Json} (ordered : value.Ordered) (ran : readObject value = .ok options)
    (setting : Setting) : options.given? setting = value.at? setting.place := by
  obtain ⟨name, below, placed⟩ : ∃ name below, setting.place = name :: below := by
    cases setting <;> exact ⟨_, _, rfl⟩
  cases ordered with
  | object distinct each =>
    rename_i fields
    change fields.foldlM readField {} = .ok options at ran
    have step : ∀ state, ∀ field ∈ fields, ∀ after, readField state field = .ok after →
        after.given? setting = if field.1 = name then field.2.at? below else state.given? setting :=
      fun state field member after one => given?_readField (each field member) one placed
    have last := part_of_foldlM (fun state => state.given? setting) (·.at? below) step distinct.nodup ran
    have empty : given? {} setting = none := by cases setting <;> rfl
    rw [last, empty, placed, Json.at?_object_cons]
    cases fields.get? name <;> rfl
  | _ => cases ran

end SettingsOptions

/-! ## The environment -/

namespace Environment

variable {environment : Environment}

theorem value?_eq_some_iff {name text : String} :
    environment.value? name = some text ↔ environment.get? name = some text ∧ text ≠ "" := by
  simp [value?, Option.filter_eq_some_iff]

/-- Whether the variable of a setting means something if it is set. -/
def Means (environment : Environment) (setting : Setting) : Prop :=
  ∀ text, environment.value? setting.variableName = some text → (setting.meaning? text).isSome = true

section

variable {α : Type} {setting : Setting} {read : String → Option α} {json : α → Json}

private theorem isOk_meaning?_iff (reads : ∀ text, setting.meaning? text = (read (lower text)).map json)
    (cause : String → SettingsCause) :
    (environment.meaning? setting.variableName read cause).isOk = true ↔ environment.Means setting := by
  unfold meaning? Means
  cases environment.value? setting.variableName with
  | none => simp
  | some text =>
    simp only [Option.some.injEq, forall_eq', reads]
    cases read (lower text) <;> simp

/-- What is read of the variable of a setting is what it means. -/
theorem map_of_meaning?_eq_ok (reads : ∀ text, setting.meaning? text = (read (lower text)).map json)
    {cause : String → SettingsCause} {found : Option α}
    (ran : environment.meaning? setting.variableName read cause = .ok found) :
    found.map json = (environment.value? setting.variableName).bind setting.meaning? := by
  unfold meaning? at ran
  cases held : environment.value? setting.variableName with
  | none =>
    rw [held] at ran
    cases ran
    rfl
  | some text =>
    simp only [held] at ran
    rw [Option.bind_some, reads]
    cases meant : read (lower text) with
    | none => simp [meant] at ran
    | some value =>
      simp only [meant, Except.ok.injEq] at ran
      rw [← ran]

end

/-- The router options of the environment are left out when no variable gives one. -/
private theorem given?_router (ignoreCase : Option Bool) (precedence : Option Precedence) (setting : Setting) :
    (if ignoreCase.isSome || precedence.isSome then
      some ({ ignoreCase, precedence } : RouterOptions) else none).bind (·.given? setting) =
        RouterOptions.given? { ignoreCase, precedence } setting := by
  cases ignoreCase <;> cases precedence <;> cases setting <;> rfl

/-- Options of the environment give each setting what its variable means. -/
theorem given?_of_options {options : SettingsOptions} (ran : environment.options = .ok options)
    (setting : Setting) :
    options.given? setting = (environment.value? setting.variableName).bind setting.meaning? := by
  simp only [Environment.options, bind_eq_ok, pure_eq_ok] at ran
  obtain ⟨level, levelRead, format, formatRead, ignoreCase, flagRead, precedence, precedenceRead, rfl⟩ := ran
  cases setting with
  | env => exact Option.map_eq_bind
  | level => exact map_of_meaning?_eq_ok Setting.names_level.meaning?_eq levelRead
  | format => exact map_of_meaning?_eq_ok Setting.names_format.meaning?_eq formatRead
  | ignoreCase =>
    exact (given?_router ignoreCase precedence _).trans (map_of_meaning?_eq_ok Setting.meaning?_ignoreCase flagRead)
  | precedence =>
    exact (given?_router ignoreCase precedence _).trans
      (map_of_meaning?_eq_ok Setting.names_precedence.meaning?_eq precedenceRead)

/-- The environment gives options exactly when every variable that is set means something. -/
theorem isOk_options_iff : environment.options.isOk = true ↔ ∀ setting, environment.Means setting := by
  have levels : (environment.meaning? "LOG_LEVEL" Level.ofName? .unknownLevel).isOk = true ↔
      environment.Means .level := isOk_meaning?_iff Setting.names_level.meaning?_eq _
  have formats : (environment.meaning? "LOG_FORMAT" LogFormat.ofName? .unknownFormat).isOk = true ↔
      environment.Means .format := isOk_meaning?_iff Setting.names_format.meaning?_eq _
  have flags : (environment.meaning? "JUNCTION_IGNORE_CASE" truth? .notBoolean).isOk = true ↔
      environment.Means .ignoreCase := isOk_meaning?_iff Setting.meaning?_ignoreCase _
  have precedences :
      (environment.meaning? "JUNCTION_REGEX_PRECEDENCE" Precedence.ofName? .unknownPrecedence).isOk = true ↔
        environment.Means .precedence := isOk_meaning?_iff Setting.names_precedence.meaning?_eq _
  simp only [isOk_iff_exists] at levels formats flags precedences ⊢
  constructor
  · rintro ⟨options, ran⟩ setting
    simp only [Environment.options, bind_eq_ok, pure_eq_ok] at ran
    obtain ⟨level, levelRead, format, formatRead, ignoreCase, flagRead, precedence, precedenceRead, -⟩ := ran
    cases setting with
    | env => exact fun _ _ => rfl
    | level => exact levels.mp ⟨level, levelRead⟩
    | format => exact formats.mp ⟨format, formatRead⟩
    | ignoreCase => exact flags.mp ⟨ignoreCase, flagRead⟩
    | precedence => exact precedences.mp ⟨precedence, precedenceRead⟩
  · intro means
    obtain ⟨level, levelRead⟩ := levels.mpr (means .level)
    obtain ⟨format, formatRead⟩ := formats.mpr (means .format)
    obtain ⟨ignoreCase, flagRead⟩ := flags.mpr (means .ignoreCase)
    obtain ⟨precedence, precedenceRead⟩ := precedences.mpr (means .precedence)
    simp only [Environment.options, bind_eq_ok, pure_eq_ok]
    exact ⟨_, level, levelRead, format, formatRead, ignoreCase, flagRead, precedence, precedenceRead, rfl⟩

end Environment

end HttpRouting
