import HttpRouting.HostRouter
import HttpRouting.Proofs.LetterCase
import HttpRouting.Proofs.Outcomes
import HttpRouting.Proofs.PathText
import Mathlib.Data.List.Basic

/-! # Dispatch by host

Which registered pattern answers for a host is said here without the tree: `Matches` is what a pattern
stands for, `Preferred` compares two patterns at the first label where they differ, and a pattern is the
`Best` of some for a host when it matches and is preferred to all others of them that do.

The tree holds at most one endpoint for each pattern. A registration changes what it holds at its own
pattern or, when it is refused, nowhere, whatever nodes it leaves behind; and a look-up finds the endpoint of
the best pattern that the tree holds. So a host is dispatched by what was accepted, in whatever order.
-/

namespace HttpRouting

open Text

/-- The place of a label among those that a host's label matches: literals come first, `*` last. -/
def HostLabel.rank : HostLabel → Nat
  | .literal _ => 0
  | .any => 1
  | .rest => 2

theorem HostLabel.read_injective : Function.Injective HostLabel.read := by
  intro left right same
  rw [read, read] at same
  split_ifs at same <;> simp_all

/-- The labels of a host name give it back. -/
theorem join_hostLabels (name : String) : join "." (hostLabels name).reverse = name := by
  rw [hostLabels, List.reverse_reverse]
  exact join_cut name

namespace HostPattern

/-- Whether a pattern stands for the labels of a host, both from the right. -/
inductive Matches : HostPattern → List String → Prop
  | nil : Matches [] []
  | literal {label ahead labels} (matched : Matches ahead labels) :
      Matches (.literal label :: ahead) (label :: labels)
  | any {label ahead labels} (matched : Matches ahead labels) : Matches (.any :: ahead) (label :: labels)
  | rest {label labels} : Matches [.rest] (label :: labels)

/-- Whether a pattern has the better label where it first differs from another one. -/
inductive Preferred : HostPattern → HostPattern → Prop
  | here {label other ahead behind} (better : label.rank < other.rank) :
      Preferred (label :: ahead) (other :: behind)
  | later {label ahead behind} (preferred : Preferred ahead behind) :
      Preferred (label :: ahead) (label :: behind)

theorem Preferred.asymm {left right : HostPattern} (preferred : left.Preferred right) :
    ¬right.Preferred left := by
  induction preferred with
  | here better =>
    intro back
    cases back with
    | here worse => omega
    | later => omega
  | later _ ih =>
    intro back
    cases back with
    | here worse => omega
    | later back => exact ih back

private theorem matches_nil_iff {pattern : HostPattern} : pattern.Matches [] ↔ pattern = [] := by
  constructor
  · rintro ⟨⟩
    rfl
  · rintro rfl
    exact .nil

/-- A host's label is matched by a literal, by `+`, or with all that is ahead by `*`. -/
theorem matches_cons_iff {pattern : HostPattern} {label : String} {labels : List String} :
    pattern.Matches (label :: labels) ↔
      (∃ ahead : HostPattern, pattern = .literal label :: ahead ∧ ahead.Matches labels) ∨
        (∃ ahead : HostPattern, pattern = .any :: ahead ∧ ahead.Matches labels) ∨ pattern = [.rest] := by
  constructor
  · intro matched
    cases matched with
    | literal matched => exact .inl ⟨_, rfl, matched⟩
    | any matched => exact .inr (.inl ⟨_, rfl, matched⟩)
    | rest => exact .inr (.inr rfl)
  · rintro (⟨ahead, rfl, matched⟩ | ⟨ahead, rfl, matched⟩ | rfl)
    · exact .literal matched
    · exact .any matched
    · exact .rest

/-- Whether a pattern is the best of those that are held for the labels of a host. -/
structure Best (held : HostPattern → Prop) (labels : List String) (pattern : HostPattern) : Prop where
  matched : pattern.Matches labels
  among : held pattern
  first : ∀ other : HostPattern, other.Matches labels → held other → other ≠ pattern → pattern.Preferred other

theorem Best.unique {held : HostPattern → Prop} {labels : List String} {left right : HostPattern}
    (best : Best held labels left) (best' : Best held labels right) : left = right := by
  by_contra differs
  have preferred := best.first right best'.matched best'.among (Ne.symm differs)
  exact preferred.asymm (best'.first left best.matched best.among differs)

theorem Best.congr {held held' : HostPattern → Prop} (same : ∀ pattern, held pattern ↔ held' pattern)
    {labels : List String} {pattern : HostPattern} : Best held labels pattern ↔ Best held' labels pattern := by
  rw [show held = held' from funext fun pattern => propext (same pattern)]

/-- The best of the patterns below a literal is the best of all. -/
theorem Best.literal {held : HostPattern → Prop} {label : String} {labels : List String} {ahead : HostPattern}
    (best : Best (fun ahead => held (.literal label :: ahead)) labels ahead) :
    Best held (label :: labels) (.literal label :: ahead) := by
  refine ⟨.literal best.matched, best.among, fun other matched among differs => ?_⟩
  obtain ⟨behind, rfl, later⟩ | ⟨behind, rfl, later⟩ | rfl := matches_cons_iff.mp matched
  · exact .later (best.first behind later among fun same => differs (same ▸ rfl))
  · exact .here (by simp [HostLabel.rank])
  · exact .here (by simp [HostLabel.rank])

/-- The best of the patterns below `+` is the best of all when none below the literal matches. -/
theorem Best.any {held : HostPattern → Prop} {label : String} {labels : List String} {ahead : HostPattern}
    (unnamed : ∀ ahead : HostPattern, ahead.Matches labels → ¬held (.literal label :: ahead))
    (best : Best (fun ahead => held (.any :: ahead)) labels ahead) :
    Best held (label :: labels) (.any :: ahead) := by
  refine ⟨.any best.matched, best.among, fun other matched among differs => ?_⟩
  obtain ⟨behind, rfl, later⟩ | ⟨behind, rfl, later⟩ | rfl := matches_cons_iff.mp matched
  · exact absurd among (unnamed behind later)
  · exact .later (best.first behind later among fun same => differs (same ▸ rfl))
  · exact .here (by simp [HostLabel.rank])

/-- The pattern `*` is the best of all when no other one matches. -/
theorem Best.rest {held : HostPattern → Prop} {label : String} {labels : List String}
    (unnamed : ∀ ahead : HostPattern, ahead.Matches labels → ¬held (.literal label :: ahead))
    (bare : ∀ ahead : HostPattern, ahead.Matches labels → ¬held (.any :: ahead)) (among : held [.rest]) :
    Best held (label :: labels) [.rest] := by
  refine ⟨.rest, among, fun other matched among differs => ?_⟩
  obtain ⟨behind, rfl, later⟩ | ⟨behind, rfl, later⟩ | rfl := matches_cons_iff.mp matched
  · exact absurd among (unnamed behind later)
  · exact absurd among (bare behind later)
  · exact absurd rfl differs

theorem rest_mem_dropLast_cons {label : HostLabel} (single : label ≠ .rest) {ahead : HostPattern} :
    .rest ∈ (label :: ahead).dropLast ↔ .rest ∈ ahead.dropLast := by
  cases ahead with
  | nil => simp
  | cons => simp [single.symm]

/-- Texts spell the same pattern exactly when they are the same in lower case. -/
theorem ofText_eq_iff {left right : String} : ofText left = ofText right ↔ lower left = lower right := by
  constructor
  · intro same
    have labels : hostLabels (lower left) = hostLabels (lower right) :=
      List.map_injective_iff.mpr HostLabel.read_injective same
    rw [← join_hostLabels (lower left), labels, join_hostLabels]
  · intro same
    rw [ofText, ofText, texts, texts, same]

end HostPattern

namespace HostTree

variable {ε : Type}

/-- The endpoint that a tree holds for exactly this pattern. -/
def held? : HostPattern → HostTree ε → Option ε
  | [], node => node.endpoint
  | .literal label :: ahead, node => (node.child? label).bind (held? ahead)
  | .any :: ahead, node => node.any.bind (held? ahead)
  | .rest :: ahead, node => if ahead = [] then node.rest else none

theorem held?_fresh (pattern : HostPattern) : ({} : HostTree ε).held? pattern = none := by
  rcases pattern with _ | ⟨_ | _ | _, ahead⟩
  · rfl
  · rfl
  · rfl
  · rw [held?]
    split_ifs <;> rfl

private theorem find?_fresh (labels : List String) : ({} : HostTree ε).find? labels = none := by
  cases labels <;> rfl

/-- A child that is missing holds what a fresh one does. -/
theorem held?_literal (node : HostTree ε) (label : String) (ahead : HostPattern) :
    node.held? (.literal label :: ahead) = ((node.child? label).getD {}).held? ahead := by
  rw [held?]
  cases node.child? label with
  | none => exact (held?_fresh ahead).symm
  | some child => rfl

theorem held?_any (node : HostTree ε) (ahead : HostPattern) :
    node.held? (.any :: ahead) = (node.any.getD {}).held? ahead := by
  rw [held?]
  cases node.any with
  | none => exact (held?_fresh ahead).symm
  | some child => rfl

private theorem find?_cons (node : HostTree ε) (label : String) (labels : List String) :
    node.find? (label :: labels) = ((((node.child? label).getD {}).find? labels).or
      ((node.any.getD {}).find? labels)).or node.rest := by
  have below (child : Option (HostTree ε)) :
      (child.bind fun node => node.find? labels) = (child.getD {}).find? labels := by
    cases child with
    | none => exact (find?_fresh labels).symm
    | some node => rfl
  rw [find?, below, below]
  cases ((node.child? label).getD {}).find? labels with
  | some => rfl
  | none => cases (node.any.getD {}).find? labels <;> rfl

private theorem plant_literal (endpoint : ε) (label : String) (ahead : HostPattern) (node : HostTree ε) :
    plant endpoint (.literal label :: ahead) node =
      let planted := plant endpoint ahead ((node.child? label).getD {})
      (planted.1, { node with labels := Entries.put label planted.2 node.labels }) :=
  rfl

private theorem plant_any (endpoint : ε) (ahead : HostPattern) (node : HostTree ε) :
    plant endpoint (.any :: ahead) node =
      let planted := plant endpoint ahead (node.any.getD {})
      (planted.1, { node with any := some planted.2 }) :=
  rfl

/-- What a registration gives depends on the pattern and on what is held for it, not on the nodes on the way. -/
theorem result_plant (endpoint : ε) (pattern : HostPattern) (node : HostTree ε) :
    (plant endpoint pattern node).1 =
      if .rest ∈ pattern.dropLast then .error .starNotLeftmost
      else if (node.held? pattern).isSome then .error .hostTaken
      else .ok () := by
  induction pattern generalizing node with
  | nil => cases taken : node.endpoint <;> simp [plant, held?, taken]
  | cons label ahead ih =>
    cases label with
    | literal label =>
      rw [plant_literal, held?_literal, if_congr (HostPattern.rest_mem_dropLast_cons (by simp)) rfl rfl]
      exact ih _
    | any =>
      rw [plant_any, held?_any, if_congr (HostPattern.rest_mem_dropLast_cons (by simp)) rfl rfl]
      exact ih _
    | rest =>
      rw [plant, held?]
      by_cases last : ahead = []
      · cases taken : node.rest <;> simp [last]
      · simp [last, List.dropLast_cons_of_ne_nil]

/-- A registration is accepted for a pattern that nothing is held for, with a `*` at most at its end. -/
theorem isOk_plant (endpoint : ε) (pattern : HostPattern) (node : HostTree ε) :
    (plant endpoint pattern node).1.isOk = true ↔ .rest ∉ pattern.dropLast ∧ node.held? pattern = none := by
  rw [result_plant]
  split_ifs with misplaced taken
  · simp [misplaced]
  · simp [Option.isSome_iff_ne_none.mp taken]
  · simpa [misplaced] using taken

/-- A registration changes what is held for its own pattern, and only when it is accepted. -/
theorem held?_plant (endpoint : ε) (pattern : HostPattern) (node : HostTree ε) (other : HostPattern) :
    (plant endpoint pattern node).2.held? other =
      if (plant endpoint pattern node).1.isOk = true ∧ other = pattern then some endpoint
      else node.held? other := by
  induction pattern generalizing node other with
  | nil =>
    rw [plant]
    split_ifs with taken <;> rcases other with _ | ⟨_ | _ | _, ahead⟩ <;>
      simp_all [held?, child?]
  | cons label ahead ih =>
    cases label with
    | literal label =>
      rw [plant_literal]
      rcases other with _ | ⟨other | _ | _, below⟩
      · simp [held?]
      · rw [held?_literal, held?_literal, child?, Entries.get?_put]
        by_cases same : other = label
        · simp [same, ih]
        · simp [same, child?]
      · simp [held?]
      · simp [held?]
    | any =>
      rw [plant_any]
      rcases other with _ | ⟨other | _ | _, below⟩
      · simp [held?]
      · simp [held?, child?]
      · rw [held?_any, held?_any, Option.getD_some, ih]
        simp
      · simp [held?]
    | rest =>
      rw [plant]
      split_ifs <;> rcases other with _ | ⟨other | _ | _, below⟩ <;>
        simp_all [held?, child?]

/-- A look-up that finds nothing passes no pattern that matches. -/
theorem held?_of_find?_eq_none {node : HostTree ε} {labels : List String}
    (missing : node.find? labels = none) {pattern : HostPattern} (matched : pattern.Matches labels) :
    node.held? pattern = none := by
  induction labels generalizing node pattern with
  | nil =>
    obtain rfl := HostPattern.matches_nil_iff.mp matched
    exact missing
  | cons label labels ih =>
    rw [find?_cons, Option.or_eq_none_iff, Option.or_eq_none_iff] at missing
    obtain ⟨⟨named, any⟩, rest⟩ := missing
    obtain ⟨ahead, rfl, later⟩ | ⟨ahead, rfl, later⟩ | rfl := HostPattern.matches_cons_iff.mp matched
    · rw [held?_literal]
      exact ih named later
    · rw [held?_any]
      exact ih any later
    · exact rest

/-- A look-up finds what is held for the best of the patterns that something is held for. -/
theorem best_of_find? {node : HostTree ε} {labels : List String} {endpoint : ε}
    (found : node.find? labels = some endpoint) :
    ∃ pattern, HostPattern.Best (fun other => node.held? other ≠ none) labels pattern ∧
      node.held? pattern = some endpoint := by
  induction labels generalizing node with
  | nil =>
    have held : node.held? [] = some endpoint := found
    refine ⟨[], ⟨.nil, by simp [held], fun other matched _ differs => ?_⟩, held⟩
    exact absurd (HostPattern.matches_nil_iff.mp matched) differs
  | cons label labels ih =>
    rw [find?_cons] at found
    cases named : ((node.child? label).getD {}).find? labels with
    | some first =>
      obtain rfl : first = endpoint := by simpa [named] using found
      obtain ⟨ahead, best, held⟩ := ih named
      simp only [← held?_literal] at best held
      exact ⟨_, best.literal, held⟩
    | none =>
      have unnamed (ahead : HostPattern) (matched : ahead.Matches labels) :
          node.held? (.literal label :: ahead) = none := by
        rw [held?_literal]
        exact held?_of_find?_eq_none named matched
      cases any : (node.any.getD {}).find? labels with
      | some second =>
        obtain rfl : second = endpoint := by simpa [named, any] using found
        obtain ⟨ahead, best, held⟩ := ih any
        simp only [← held?_any] at best held
        exact ⟨_, best.any fun ahead matched => not_not.mpr (unnamed ahead matched), held⟩
      | none =>
        have bare (ahead : HostPattern) (matched : ahead.Matches labels) :
            node.held? (.any :: ahead) = none := by
          rw [held?_any]
          exact held?_of_find?_eq_none any matched
        have held : node.held? [.rest] = some endpoint := by simpa [named, any, held?] using found
        exact ⟨_, .rest (fun ahead matched => not_not.mpr (unnamed ahead matched))
          (fun ahead matched => not_not.mpr (bare ahead matched)) (by simp [held]), held⟩

theorem find?_eq_some_iff {node : HostTree ε} {labels : List String} {endpoint : ε} :
    node.find? labels = some endpoint ↔
      ∃ pattern, HostPattern.Best (fun other => node.held? other ≠ none) labels pattern ∧
        node.held? pattern = some endpoint := by
  refine ⟨best_of_find?, ?_⟩
  rintro ⟨pattern, best, held⟩
  cases found : node.find? labels with
  | none => rw [held?_of_find?_eq_none found best.matched] at held; exact held
  | some other =>
    obtain ⟨first, best', held'⟩ := best_of_find? found
    rw [← held, ← held', best.unique best']

private theorem find?_eq_none_iff {node : HostTree ε} {labels : List String} :
    node.find? labels = none ↔ ∀ pattern : HostPattern, pattern.Matches labels → node.held? pattern = none := by
  refine ⟨fun missing pattern => held?_of_find?_eq_none missing, fun unheld => ?_⟩
  rw [Option.eq_none_iff_forall_ne_some]
  intro endpoint found
  obtain ⟨pattern, best, held⟩ := best_of_find? found
  exact best.among (unheld pattern best.matched)

end HostTree

namespace HostPattern

private theorem read_eq_rest_iff {text : String} : .rest = HostLabel.read text ↔ text = "*" := by
  have star : HostLabel.read "*" = .rest := by decide
  rw [← star, HostLabel.read_injective.eq_iff, eq_comm]

/-- A `*` is misplaced in a pattern just where it is in its text. -/
theorem rest_mem_dropLast_ofText {text : String} :
    .rest ∈ (ofText text).dropLast ↔ "*" ∈ (texts text).dropLast := by
  rw [ofText, ← List.map_dropLast, List.mem_map]
  simp [eq_comm (b := HostLabel.rest), read_eq_rest_iff]

/-- The text of the pattern `*` is that alone. -/
theorem ofText_eq_rest_iff {text : String} : ofText text = [.rest] ↔ text = "*" := by
  have star : ofText "*" = [.rest] := by decide +kernel
  have same : lower "*" = String.singleton '*' := by decide +kernel
  rw [← star, ofText_eq_iff, same, lower_eq_singleton_iff (by decide)]
  rfl

end HostPattern

namespace HostRouter

variable {ε : Type} {router : HostRouter ε}

/-- A registration is accepted when no label is empty, a `*` is leftmost, and nothing is held for the
pattern. -/
theorem isOk_register (router : HostRouter ε) (text : String) (endpoint : ε) :
    (router.register text endpoint).1.isOk = true ↔
      "" ∉ HostPattern.texts text ∧ "*" ∉ (HostPattern.texts text).dropLast ∧
        router.root.held? (.ofText text) = none := by
  rw [register]
  by_cases empty : "" ∈ HostPattern.texts text
  · simp [empty]
  · rw [if_neg (by simpa using empty)]
    rw [isOk_mapError, HostTree.isOk_plant, HostPattern.rest_mem_dropLast_ofText]
    simp [empty]

/-- A registration changes what is held for its own pattern, and only when it is accepted. -/
theorem held?_register (router : HostRouter ε) (text : String) (endpoint : ε) (pattern : HostPattern) :
    (router.register text endpoint).2.root.held? pattern =
      if (router.register text endpoint).1.isOk = true ∧ pattern = .ofText text then some endpoint
      else router.root.held? pattern := by
  rw [register]
  by_cases empty : "" ∈ HostPattern.texts text
  · simp [empty]
  · rw [if_neg (by simpa using empty)]
    simp only [isOk_mapError]
    exact HostTree.held?_plant endpoint (.ofText text) router.root pattern

/-- The routers that registrations lead to, with those that were accepted, in their order. -/
inductive Reached : HostRouter ε → List (String × ε) → Prop
  | start : Reached {} []
  | accepted {router after : HostRouter ε} {calls : List (String × ε)} {text : String} {endpoint : ε}
      (reached : Reached router calls) (registered : router.register text endpoint = (.ok (), after)) :
      Reached after (calls ++ [(text, endpoint)])
  | refused {router after : HostRouter ε} {calls : List (String × ε)} {text : String} {endpoint : ε}
      {error : RegistrationError} (reached : Reached router calls)
      (registered : router.register text endpoint = (.error error, after)) : Reached after calls

/-- One registration of several: the router after it, and the accepted ones so far. -/
def registerNext (state : HostRouter ε × List (String × ε)) (call : String × ε) :
    HostRouter ε × List (String × ε) :=
  let (result, after) := state.1.register call.1 call.2
  (after, if result.isOk then state.2 ++ [call] else state.2)

/-- The router after some registrations, and those of them that it accepted. -/
def registerAll (calls : List (String × ε)) : HostRouter ε × List (String × ε) :=
  calls.foldl registerNext ({}, [])

theorem Reached.registerNext {state : HostRouter ε × List (String × ε)} (reached : Reached state.1 state.2)
    (call : String × ε) : Reached (registerNext state call).1 (registerNext state call).2 := by
  rw [HostRouter.registerNext]
  rcases registered : state.1.register call.1 call.2 with ⟨_ | _, after⟩
  · exact reached.refused registered
  · exact reached.accepted registered

/-- Whatever is registered leads to a router that holds what was accepted. -/
theorem reached_registerAll (calls : List (String × ε)) :
    Reached (registerAll calls).1 (registerAll calls).2 := by
  refine List.foldlRecOn (motive := fun state => Reached state.1 state.2) calls registerNext ?_ ?_
  · exact .start
  · intro state reached call _
    exact reached.registerNext call

/-- What is held for a pattern is what was accepted for a text that spells it. -/
theorem Reached.held?_eq_some_iff {calls : List (String × ε)} (reached : router.Reached calls)
    {pattern : HostPattern} {endpoint : ε} :
    router.root.held? pattern = some endpoint ↔ ∃ text, (text, endpoint) ∈ calls ∧ .ofText text = pattern := by
  induction reached generalizing pattern endpoint with
  | start => simp [HostTree.held?_fresh]
  | @accepted router after calls text added reached registered ih =>
    have holds := held?_register router text added pattern
    have free := ((isOk_register router text added).mp (by rw [registered]; rfl)).2.2
    rw [registered] at holds
    rw [holds]
    by_cases own : pattern = .ofText text
    · rw [if_pos ⟨rfl, own⟩, Option.some_inj, own]
      refine ⟨fun same => ⟨text, by simp [same], rfl⟩, ?_⟩
      rintro ⟨other, member, same⟩
      -- an accepted call found nothing held for its pattern, so no earlier one spells it
      rcases List.mem_append.mp member with earlier | last
      · rw [ih.mpr ⟨other, earlier, same⟩] at free
        cases free
      · exact (Prod.mk.inj (List.mem_singleton.mp last)).2.symm
    · rw [if_neg fun both => own both.2, ih]
      refine exists_congr fun other => and_congr_left fun same => ?_
      have differs : other ≠ text := fun both => own (both ▸ same.symm)
      simp [differs]
  | @refused router after calls text added error reached registered ih =>
    have holds := held?_register router text added pattern
    rw [registered] at holds
    rw [holds]
    exact ih

/-- Whether a text that spells the pattern is among the accepted ones. -/
def Registered (calls : List (String × ε)) (pattern : HostPattern) : Prop :=
  ∃ call ∈ calls, HostPattern.ofText call.1 = pattern

theorem Reached.held?_ne_none_iff {calls : List (String × ε)} (reached : router.Reached calls)
    (pattern : HostPattern) : router.root.held? pattern ≠ none ↔ Registered calls pattern := by
  rw [Option.ne_none_iff_exists']
  constructor
  · rintro ⟨endpoint, held⟩
    obtain ⟨text, member, spelled⟩ := reached.held?_eq_some_iff.mp held
    exact ⟨(text, endpoint), member, spelled⟩
  · rintro ⟨⟨text, endpoint⟩, member, spelled⟩
    exact ⟨endpoint, reached.held?_eq_some_iff.mpr ⟨text, member, spelled⟩⟩

/-- A host is answered for by the best of the accepted patterns that match it. -/
theorem Reached.find?_eq_some_iff {calls : List (String × ε)} (reached : router.Reached calls)
    (labels : List String) (endpoint : ε) :
    router.root.find? labels = some endpoint ↔
      ∃ text, (text, endpoint) ∈ calls ∧ HostPattern.Best (Registered calls) labels (.ofText text) := by
  rw [HostTree.find?_eq_some_iff]
  simp only [HostPattern.Best.congr reached.held?_ne_none_iff, reached.held?_eq_some_iff]
  constructor
  · rintro ⟨pattern, best, text, member, rfl⟩
    exact ⟨text, member, best⟩
  · rintro ⟨text, member, best⟩
    exact ⟨_, best, text, member, rfl⟩

/-- No host is found just when no accepted pattern matches it. -/
theorem Reached.find?_eq_none_iff {calls : List (String × ε)} (reached : router.Reached calls)
    (labels : List String) :
    router.root.find? labels = none ↔ ∀ call ∈ calls, ¬(HostPattern.ofText call.1).Matches labels := by
  rw [HostTree.find?_eq_none_iff]
  constructor
  · intro unheld call member matched
    exact (reached.held?_ne_none_iff _).mpr ⟨call, member, rfl⟩ (unheld _ matched)
  · intro unmatched pattern matched
    by_contra held
    obtain ⟨call, member, rfl⟩ := (reached.held?_ne_none_iff pattern).mp held
    exact unmatched call member matched

/-- Without a host, the endpoint of the pattern `*` answers. -/
theorem Reached.resolve?_of_missing {calls : List (String × ε)} (reached : router.Reached calls)
    {host : String} (missing : hostName host = "") (endpoint : ε) :
    router.resolve? host = some endpoint ↔ ("*", endpoint) ∈ calls := by
  have rest : router.resolve? host = router.root.held? [.rest] := by
    rw [resolve?, if_pos missing]
    rfl
  rw [rest, reached.held?_eq_some_iff]
  simp [HostPattern.ofText_eq_rest_iff]

/-- A well-formed pattern is refused just when its text, in lower case, is that of an accepted one. -/
theorem Reached.refused_iff {calls : List (String × ε)} (reached : router.Reached calls) {text : String}
    (endpoint : ε) (filled : "" ∉ HostPattern.texts text) (leftmost : "*" ∉ (HostPattern.texts text).dropLast) :
    (router.register text endpoint).1.isOk = false ↔ ∃ call ∈ calls, lower call.1 = lower text := by
  rw [← Bool.not_eq_true, isOk_register, not_and, not_and]
  have taken := reached.held?_ne_none_iff (.ofText text)
  simp only [Registered, HostPattern.ofText_eq_iff] at taken
  exact ⟨fun refused => taken.mp (refused filled leftmost), fun same _ _ => taken.mpr same⟩

/-- After any registrations, a host is dispatched by the patterns that were accepted, whatever their order:
the best one that matches answers, and nothing does when none matches; a missing host is left to `*`. And a
well-formed pattern is refused only as a duplicate. -/
theorem Reached.dispatch_spec {calls : List (String × ε)} (reached : router.Reached calls) :
    (∀ host, hostName host ≠ "" →
      (∀ endpoint, router.resolve? host = some endpoint ↔
        ∃ text, (text, endpoint) ∈ calls ∧
          HostPattern.Best (Registered calls) (hostLabels (hostName host)) (.ofText text)) ∧
      (router.resolve? host = none ↔
        ∀ call ∈ calls, ¬(HostPattern.ofText call.1).Matches (hostLabels (hostName host)))) ∧
    (∀ host, hostName host = "" → ∀ endpoint, router.resolve? host = some endpoint ↔ ("*", endpoint) ∈ calls) ∧
    ∀ text endpoint, "" ∉ HostPattern.texts text → "*" ∉ (HostPattern.texts text).dropLast →
      ((router.register text endpoint).1.isOk = false ↔ ∃ call ∈ calls, lower call.1 = lower text) := by
  refine ⟨fun host named => ?_, fun host missing endpoint => reached.resolve?_of_missing missing endpoint,
    fun text endpoint filled leftmost => reached.refused_iff endpoint filled leftmost⟩
  rw [resolve?, if_neg named]
  exact ⟨reached.find?_eq_some_iff _, reached.find?_eq_none_iff _⟩

/-- The hosts of a company, one of them named twice. -/
def siteCalls : List (String × Nat) :=
  [("example.com", 1), ("www.example.com", 2), ("www.+.com", 3), ("Example.com", 0), ("*.com", 4), ("*", 5)]

def sites : HostRouter Nat × List (String × Nat) :=
  registerAll siteCalls

theorem dispatch_spec_sites :
    Reached sites.1 sites.2 ∧ sites.2 = siteCalls.filter (·.2 ≠ 0) ∧
      sites.1.resolve? "WWW.Shop.com:8080" = some 3 ∧
      ∃ text, (text, 3) ∈ sites.2 ∧ HostPattern.Best (Registered sites.2) ["com", "shop", "www"] (.ofText text) := by
  have reached : Reached sites.1 sites.2 := reached_registerAll siteCalls
  have host : hostLabels (hostName "WWW.Shop.com:8080") = ["com", "shop", "www"] := by decide +kernel
  have resolved : sites.1.resolve? "WWW.Shop.com:8080" = some 3 := by decide +kernel
  have best := ((reached.dispatch_spec.1 "WWW.Shop.com:8080" (by decide +kernel)).1 3).mp resolved
  exact ⟨reached, by decide +kernel, resolved, host ▸ best⟩

end HostRouter
end HttpRouting
