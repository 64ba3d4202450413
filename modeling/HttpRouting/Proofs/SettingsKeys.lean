import HttpRouting.Proofs.PathText
import HttpRouting.Proofs.SettingsChanges

/-! # Keys that lead to something

A key leads to one of the settings, or to the record of those about paths, when it is one of six. What is found
there can be set again under the same key, and changes nothing.

The records that a key is followed through are open, and answer also to the names that every record shares. So some
more keys lead to something, which is no setting: nothing can be set under them.
-/

namespace HttpRouting

open Text

/-- Whether names lead from any record to what all records share: to an operation, to the record of these, or to what
that record holds in its turn. -/
def LeadsToShared : List String → Prop
  | [name] => (sharedMember? name).isSome = true
  | [first, name] => first = "__proto__" ∧ (sharedMember? name).isSome = true
  | _ => False

theorem LeadsToShared.head {name : String} {names : List String} (leads : LeadsToShared (name :: names)) :
    (sharedMember? name).isSome = true := by
  match names, leads with
  | [], leads => exact leads
  | [_], ⟨first, _⟩ =>
    rw [first]
    rfl

private theorem not_leadsToShared {name : String} (own : sharedMember? name = none) (names : List String) :
    ¬LeadsToShared (name :: names) := by
  intro leads
  have shared := leads.head
  rw [own] at shared
  cases shared

namespace SettingsNode

def walk? (node : SettingsNode) (names : List String) : Option SettingsNode :=
  names.foldlM (fun node name => node.member? name) node

private theorem walk?_cons (node : SettingsNode) (name : String) (names : List String) :
    node.walk? (name :: names) = (node.member? name).bind (·.walk? names) := rfl

/-- Whether no name leads further from a node. -/
def Leaf (node : SettingsNode) : Prop :=
  ∀ name, node.member? name = none

theorem Leaf.isSome_walk?_iff {node : SettingsNode} (leaf : node.Leaf) {names : List String} :
    (node.walk? names).isSome = true ↔ names = [] := by
  cases names with
  | nil => exact iff_of_true rfl rfl
  | cons name names => simp [walk?_cons, leaf name]

/-- A name that is not shared leads to such a node by being that of a field. -/
theorem Leaf.isSome_walk?_own {node : SettingsNode} (leaf : node.Leaf) {name : String}
    (own : sharedMember? name = none) {names : List String} :
    (node.walk? names).isSome = true ↔ names = [] ∨ LeadsToShared (name :: names) := by
  rw [leaf.isSome_walk?_iff, or_iff_left (not_leadsToShared own names)]

private theorem leaf_operation : operation.Leaf :=
  fun _ => rfl

private theorem isSome_shared? (name : String) : (shared? name).isSome = (sharedMember? name).isSome := by
  rw [shared?]
  split_ifs with itself
  · rw [itself]
    rfl
  · exact Option.isSome_map

private theorem shared?_of_ne {name : String} (differs : name ≠ "__proto__") {node : SettingsNode}
    (found : shared? name = some node) : node = operation := by
  rw [shared?, if_neg differs, Option.map_eq_some_iff] at found
  obtain ⟨_, _, rfl⟩ := found
  rfl

/-- The shared record answers to the shared names, and none leads on from there. -/
theorem isSome_walk?_sharedRecord {name : String} {names : List String} :
    (sharedRecord.walk? (name :: names)).isSome = true ↔ names = [] ∧ (sharedMember? name).isSome = true := by
  rw [walk?_cons]
  by_cases itself : name = "__proto__"
  · have null : (SettingsNode.value .null).Leaf := fun _ => rfl
    have known : (sharedMember? "__proto__").isSome = true := rfl
    rw [itself, and_iff_left known]
    exact null.isSome_walk?_iff
  · have held : sharedRecord.member? name = shared? name := if_neg itself
    rw [held, ← isSome_shared?]
    cases found : shared? name with
    | none => simp
    | some node =>
      rw [shared?_of_ne itself found, Option.bind_some, leaf_operation.isSome_walk?_iff]
      simp

private theorem isSome_walk?_shared {name : String} {names : List String} :
    ((shared? name).bind (·.walk? names)).isSome = true ↔ LeadsToShared (name :: names) := by
  by_cases itself : name = "__proto__"
  · have held : shared? name = some sharedRecord := if_pos itself
    rw [held, Option.bind_some]
    match names with
    | [] => exact iff_of_true rfl (itself ▸ rfl)
    | [second] => simp [isSome_walk?_sharedRecord, LeadsToShared, itself]
    | _ :: _ :: _ => simp [isSome_walk?_sharedRecord, LeadsToShared]
  · have alone : LeadsToShared (name :: names) ↔ names = [] ∧ (sharedMember? name).isSome = true := by
      match names with
      | [] => simp [LeadsToShared]
      | [second] => simp [LeadsToShared, itself]
      | _ :: _ :: _ => simp [LeadsToShared]
    rw [alone, ← isSome_shared?]
    cases found : shared? name with
    | none => simp
    | some node =>
      rw [shared?_of_ne itself found, Option.bind_some, leaf_operation.isSome_walk?_iff]
      simp

/-- Names lead from an object to what its own field holds, or else to what is shared. -/
theorem isSome_walk?_object {fields : Fields Json} {name : String} {names : List String} :
    ((value (.object fields)).walk? (name :: names)).isSome = true ↔
      match fields.get? name with
      | some held => ((value held).walk? names).isSome = true
      | none => LeadsToShared (name :: names) := by
  rw [walk?_cons, member?]
  cases fields.get? name with
  | some held => rfl
  | none => exact isSome_walk?_shared

end SettingsNode

namespace Settings

variable {settings : Settings} {key : String}

/-- The keys of the settings, and of the record of those about paths. -/
def keys : List String :=
  ["env", "logLevel", "logFormat", "router", "router.ignoreCase", "router.regexPrecedence"]

/-- Whether a key leads to what all records share, from the settings or from those about paths. -/
def IsShared (key : String) : Prop :=
  LeadsToShared (cut '.' key) ∨ ∃ below, cut '.' key = "router" :: below ∧ LeadsToShared below

private theorem mem_keys_iff :
    key ∈ keys ↔ cut '.' key = ["router"] ∨ ∃ setting : Setting, cut '.' key = setting.place := by
  have whole : join "." (cut '.' key) = key := join_cut key
  constructor
  · intro member
    simp only [keys, List.mem_cons, List.not_mem_nil, or_false] at member
    rcases member with rfl | rfl | rfl | rfl | rfl | rfl
    · exact .inr ⟨.env, by decide +kernel⟩
    · exact .inr ⟨.level, by decide +kernel⟩
    · exact .inr ⟨.format, by decide +kernel⟩
    · exact .inl (by decide +kernel)
    · exact .inr ⟨.ignoreCase, by decide +kernel⟩
    · exact .inr ⟨.precedence, by decide +kernel⟩
  · rintro (leads | ⟨setting, leads⟩)
    · rw [← whole, leads]
      decide +kernel
    · rw [← whole, leads]
      cases setting <;> decide +kernel

/-- The value of a setting is no object. -/
theorem leaf_of_takes {setting : Setting} {value : Json} (typed : setting.Takes value) :
    (SettingsNode.value value).Leaf := by
  have unfit (fields : Fields Json) : ¬setting.Takes (.object fields) := by
    cases setting with
    | env => simp [Setting.takes_env_iff, Json.string?]
    | level => simp [Setting.names_level.takes_iff]
    | format => simp [Setting.names_format.takes_iff]
    | ignoreCase => simp [Setting.takes_ignoreCase_iff, Json.bool?]
    | precedence => simp [Setting.names_precedence.takes_iff]
  cases value with
  | object fields => exact absurd typed (unfit fields)
  | null | bool | number | string | array => exact fun _ => rfl

private theorem exists_place_iff {names : List String} : (∃ setting : Setting, names = setting.place) ↔
    names ∈ [["env"], ["logLevel"], ["logFormat"], ["router", "ignoreCase"], ["router", "regexPrecedence"]] := by
  constructor
  · rintro ⟨setting, rfl⟩
    cases setting <;> simp [Setting.place]
  · intro member
    simp only [List.mem_cons, List.not_mem_nil, or_false] at member
    rcases member with rfl | rfl | rfl | rfl | rfl
    · exact ⟨.env, rfl⟩
    · exact ⟨.level, rfl⟩
    · exact ⟨.format, rfl⟩
    · exact ⟨.ignoreCase, rfl⟩
    · exact ⟨.precedence, rfl⟩

section

variable (leaf : ∀ setting, (SettingsNode.value (settings.value setting)).Leaf)

include leaf

/-- What leads on from the record of the settings about paths. -/
theorem isSome_walk?_router {names : List String} :
    ((SettingsNode.value settings.router).walk? names).isSome = true ↔
      names = [] ∨ (∃ setting : Setting, "router" :: names = setting.place) ∨ LeadsToShared names := by
  rw [exists_place_iff]
  match names with
  | [] => exact iff_of_true rfl (.inl rfl)
  | name :: names =>
    rw [router, SettingsNode.isSome_walk?_object]
    by_cases first : name = "ignoreCase"
    · subst first
      exact ((leaf .ignoreCase).isSome_walk?_own (rfl : sharedMember? "ignoreCase" = none)).trans (by simp)
    by_cases second : name = "regexPrecedence"
    · subst second
      exact ((leaf .precedence).isSome_walk?_own (rfl : sharedMember? "regexPrecedence" = none)).trans (by simp)
    have absent : Fields.get? name [("ignoreCase", settings.ignoreCase), ("regexPrecedence", settings.precedence)] =
        none := by
      simp [Fields.get?, first, second]
    simp [absent, first, second]

private theorem isSome_walk?_all {names : List String} : ((SettingsNode.value settings.all).walk? names).isSome = true ↔
    names = [] ∨ names = ["router"] ∨ (∃ setting : Setting, names = setting.place) ∨ LeadsToShared names ∨
      ∃ below, names = "router" :: below ∧ LeadsToShared below := by
  match names with
  | [] => exact iff_of_true rfl (.inl rfl)
  | name :: names =>
    rw [all, SettingsNode.isSome_walk?_object]
    by_cases paths : name = "router"
    · have own : sharedMember? "router" = none := rfl
      subst paths
      refine (isSome_walk?_router leaf).trans ?_
      simp [not_leadsToShared own]
    rw [exists_place_iff]
    by_cases first : name = "env"
    · subst first
      exact ((leaf .env).isSome_walk?_own (rfl : sharedMember? "env" = none)).trans (by simp)
    by_cases second : name = "logLevel"
    · subst second
      exact ((leaf .level).isSome_walk?_own (rfl : sharedMember? "logLevel" = none)).trans (by simp)
    by_cases third : name = "logFormat"
    · subst third
      exact ((leaf .format).isSome_walk?_own (rfl : sharedMember? "logFormat" = none)).trans (by simp)
    have absent : Fields.get? name [("env", settings.env), ("logLevel", settings.level),
        ("logFormat", settings.format), ("router", settings.router)] = none := by
      simp [Fields.get?, first, second, third, paths]
    simp [absent, first, second, third, paths]

end

private theorem has_iff (typed : ∀ setting : Setting, setting.Takes (settings.value setting)) :
    settings.has key = true ↔ key ∈ keys ∨ IsShared key := by
  rw [mem_keys_iff, IsShared, has, or_assoc]
  refine (isSome_walk?_all fun setting => leaf_of_takes (typed setting)).trans ?_
  rw [or_iff_right (cut_ne_nil '.' key)]

/-- A value that is read, and has for each setting that it mentions the value that this has, changes nothing. -/
theorem change_eq_self {value : Json} (ordered : value.Ordered) (fit : (nested key value).IsSettings)
    (same : ∀ setting, ((nested key value).at? setting.place).getD (settings.value setting) = settings.value setting) :
    settings.change key value = (.ok (), settings) := by
  obtain ⟨options, read⟩ := isOk_iff_exists.mp (SettingsOptions.isOk_readObject_iff.mpr fit)
  have kept : settings.override options.json = settings := eq_of_value_eq fun setting => by
    rw [value_override, SettingsOptions.given?_readObject (ordered.nested key) read, same]
  rw [change, set_eq_ok.mpr ⟨options, read, rfl⟩, kept]

/-- What is found under the key of a setting, or of the record of those about paths, can be set there again. -/
theorem exists_change_eq_self (typed : ∀ setting : Setting, setting.Takes (settings.value setting))
    (known : key ∈ keys) :
    ∃ value, settings.get? key = some (.value value) ∧ settings.change key value = (.ok (), settings) := by
  rcases mem_keys_iff.mp known with leads | ⟨setting, leads⟩
  · obtain ⟨fields, told, each⟩ := isSettings_all typed
    cases told
    have inside : ("router", settings.router) ∈ settings.all.fields?.getD [] := by simp [all, Json.fields?]
    refine ⟨settings.router, by rw [get?, leads]; rfl, change_eq_self ?_ ?_ fun setting => ?_⟩
    · cases ordered_all typed with
      | object _ ordered => exact ordered _ inside
    · rw [nested, leads]
      exact ⟨_, rfl, List.forall_mem_singleton.mpr (each _ inside)⟩
    · rw [nested, leads]
      cases setting <;> rfl
  · refine ⟨_, get?_of_place leads, change_eq_self (ordered_of_takes (typed setting)) ?_ fun other => ?_⟩
    · have fits := typed setting
      rw [nested, leads]
      cases setting with
      | env | level | format => exact ⟨_, rfl, List.forall_mem_singleton.mpr (.inl ⟨_, rfl, fits⟩)⟩
      | ignoreCase | precedence =>
        exact ⟨_, rfl, List.forall_mem_singleton.mpr
          (.inr ⟨rfl, _, rfl, List.forall_mem_singleton.mpr ⟨_, rfl, fits⟩⟩)⟩
    · rw [nested, leads]
      cases setting <;> cases other <;> rfl

/-- A shared name is that of no field of the settings. -/
theorem ne_of_shared {name : String} (shared : (sharedMember? name).isSome = true) :
    ∀ own ∈ ["env", "logLevel", "logFormat", "router", "ignoreCase", "regexPrecedence"], name ≠ own := by
  have unshared : ∀ own ∈ ["env", "logLevel", "logFormat", "router", "ignoreCase", "regexPrecedence"],
      sharedMember? own = none := by decide
  rintro own member rfl
  rw [unshared _ member] at shared
  cases shared

/-- Nothing can be set under a key that leads to what all records share. -/
theorem change_of_isShared (shared : IsShared key) (value : Json) : ∃ unknown,
    settings.change key value = (.error ⟨"key \"" ++ key ++ "\"", .unknownKey unknown⟩, settings) := by
  suffices refused : ∃ unknown, SettingsOptions.readObject (nested key value) = .error (.unknownKey unknown) by
    obtain ⟨unknown, refused⟩ := refused
    exact ⟨unknown, by rw [change, set_eq_error.mpr ⟨_, refused, rfl⟩]⟩
  rcases shared with leads | ⟨below, split, leads⟩
  · obtain ⟨name, names, split⟩ := List.exists_cons_of_ne_nil (cut_ne_nil '.' key)
    rw [split] at leads
    have others := ne_of_shared leads.head
    refine ⟨name, ?_⟩
    rw [nested, split]
    simp [SettingsOptions.readObject, Json.fields?, SettingsOptions.readField, others]
  · cases below with
    | nil => exact leads.elim
    | cons name names =>
      have others := ne_of_shared leads.head
      refine ⟨"router." ++ name, ?_⟩
      rw [nested, split]
      simp [SettingsOptions.readObject, Json.fields?, SettingsOptions.readField, RouterOptions.read,
        RouterOptions.readField, others]

/-- Which keys lead to something, whatever settings were reached: the six keys of the settings and of their record,
and those that lead to what all records share. What is found under one of the six can be set there again and changes
nothing; under the others nothing can be set, the call is refused as one for an unknown key. -/
theorem Reached.has_spec (reached : Reached settings) (key : String) :
    (settings.has key = true ↔ key ∈ keys ∨ IsShared key) ∧
    (key ∈ keys → ∃ value, settings.get? key = some (.value value) ∧ settings.change key value = (.ok (), settings)) ∧
    (IsShared key → ∀ value, ∃ unknown,
      settings.change key value = (.error ⟨"key \"" ++ key ++ "\"", .unknownKey unknown⟩, settings)) :=
  ⟨has_iff reached.takes, exists_change_eq_self reached.takes, change_of_isShared⟩

/-- The flag of settings that ignore letter case can be set again, and the operation that is found beside it
cannot. -/
theorem has_spec_quiet : Reached quietSettings ∧ "router.ignoreCase" ∈ keys ∧ IsShared "router.__proto__.toString" ∧
    quietSettings.has "router.ignoreCase" = true ∧
    quietSettings.change "router.ignoreCase" (.bool true) = (.ok (), quietSettings) ∧
    quietSettings.has "router.__proto__.toString" = true ∧
    ∃ unknown, quietSettings.change "router.__proto__.toString" .null =
      (.error ⟨"key \"" ++ "router.__proto__.toString" ++ "\"", .unknownKey unknown⟩, quietSettings) := by
  have reached : Reached quietSettings := .change "logLevel" (.string "warn") (.made _)
  have known : "router.ignoreCase" ∈ keys := by decide
  have names : cut '.' "router.__proto__.toString" = ["router", "__proto__", "toString"] := by decide +kernel
  have shared : IsShared "router.__proto__.toString" := .inr ⟨_, names, rfl, rfl⟩
  obtain ⟨leads, again, -⟩ := reached.has_spec "router.ignoreCase"
  obtain ⟨leads', -, refused⟩ := reached.has_spec "router.__proto__.toString"
  obtain ⟨value, found, kept⟩ := again known
  have flag : quietSettings.get? "router.ignoreCase" = some (.value (.bool true)) := by
    have names : cut '.' "router.ignoreCase" = ["router", "ignoreCase"] := by decide +kernel
    rw [get?, names]
    rfl
  cases flag.symm.trans found
  exact ⟨reached, known, shared, leads.mpr (.inl known), kept, leads'.mpr (.inr shared), refused shared .null⟩

/-- A key that leads to what every record shares is found, although it is none of the six, and nothing can be set
under it. -/
theorem has_constructor : Reached {} ∧ has {} "constructor" = true ∧ "constructor" ∉ keys ∧
    ∀ value, ∃ error, change {} "constructor" value = (.error error, {}) := by
  have names : cut '.' "constructor" = ["constructor"] := by decide +kernel
  have shared : IsShared "constructor" := .inl (by rw [names]; rfl)
  refine ⟨.made {}, by rw [has, get?, names]; rfl, by decide, fun value => ?_⟩
  obtain ⟨unknown, refused⟩ : ∃ unknown, change {} "constructor" value = (.error ⟨_, .unknownKey unknown⟩, {}) :=
    change_of_isShared shared value
  exact ⟨_, refused⟩

end Settings

end HttpRouting
