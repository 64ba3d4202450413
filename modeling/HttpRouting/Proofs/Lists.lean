import Mathlib.Data.List.Forall2
import Mathlib.Data.List.Induction
import Mathlib.Data.List.Nodup
import Mathlib.Data.List.Pairwise

/-! # Lists kept in step

Facts about lists that the developments of look-ups and registries share: what repetitions leave, what
items that are related one by one have in common, and how a list is put together from the parts that
have one key each.
-/

namespace HttpRouting

/-- Without repetitions, an element at the end adds itself exactly when it is new. -/
theorem eraseDups_concat {α : Type} [DecidableEq α] (items : List α) (item : α) :
    (items ++ [item]).eraseDups =
      if item ∈ items then items.eraseDups else items.eraseDups ++ [item] := by
  rw [List.eraseDups_append]
  by_cases member : item ∈ items
  · simp [List.removeAll, member]
  · simp [List.removeAll, member, List.eraseDups_cons]

theorem nodup_eraseDups {α : Type} [DecidableEq α] (items : List α) : items.eraseDups.Nodup := by
  induction items using List.reverseRecOn with
  | nil => simp
  | append_singleton items item ih =>
    rw [eraseDups_concat]
    split_ifs with member
    · exact ih
    · rw [← List.concat_eq_append]
      exact ih.concat (mt List.mem_eraseDups.mp member)

/-- What comes sooner without repetitions is found sooner. -/
theorem idxOf_lt_of_eraseDups {α : Type} [DecidableEq α] {items : List α} {first second : α}
    (sooner : [first, second].Sublist items.eraseDups) : items.idxOf first < items.idxOf second := by
  induction items using List.reverseRecOn with
  | nil => simp at sooner
  | append_singleton items item ih =>
    have within : [first, second].Sublist items.eraseDups →
        (items ++ [item]).idxOf first < (items ++ [item]).idxOf second := by
      intro sooner
      have firstMem : first ∈ items := List.mem_eraseDups.mp (sooner.subset (by simp))
      have secondMem : second ∈ items := List.mem_eraseDups.mp (sooner.subset (by simp))
      rw [List.idxOf_append_of_mem firstMem, List.idxOf_append_of_mem secondMem]
      exact ih sooner
    rw [eraseDups_concat] at sooner
    split_ifs at sooner with member
    · exact within sooner
    · obtain ⟨front, back, split, front', back'⟩ := List.sublist_append_iff.mp sooner
      rcases List.sublist_singleton.mp back' with rfl | rfl
      · rw [List.append_nil] at split
        exact within (split ▸ front')
      · obtain ⟨rfl, last⟩ := List.append_inj' (show [first] ++ [second] = front ++ [item] from split) rfl
        obtain rfl := List.singleton_inj.mp last
        have firstMem : first ∈ items := List.mem_eraseDups.mp (front'.subset (by simp))
        rw [List.idxOf_append_of_mem firstMem, List.idxOf_append_of_notMem member]
        have inside := List.idxOf_lt_length_of_mem firstMem
        omega

/-- What is found sooner among the values of some items is found sooner among the items. -/
theorem findIdx_lt_of_filterMap {α β : Type} {f : α → Option β} {p q : β → Bool} {p' q' : α → Bool} {items : List α}
    (left : ∀ item, p' item = (f item).any p) (right : ∀ item, q' item = (f item).any q)
    (sooner : (items.filterMap f).findIdx p < (items.filterMap f).findIdx q) :
    items.findIdx p' < items.findIdx q' := by
  induction items with
  | nil => simp at sooner
  | cons item items ih =>
    rw [List.filterMap_cons] at sooner
    rw [List.findIdx_cons, List.findIdx_cons, left, right]
    cases value : f item with
    | none =>
      rw [value] at sooner
      exact Nat.succ_lt_succ (ih sooner)
    | some gained =>
      rw [value, List.findIdx_cons, List.findIdx_cons] at sooner
      rw [Option.any_some, Option.any_some]
      cases there : q gained with
      | true => simp [there] at sooner
      | false =>
        cases here : p gained with
        | true => exact Nat.succ_pos _
        | false =>
          rw [here, there] at sooner
          exact Nat.succ_lt_succ (ih (Nat.lt_of_succ_lt_succ sooner))

/-- Items are new and different when the first is new and the others are, also beside the first. -/
theorem nodup_cons_apart_iff {α : Type} {used items : List α} {item : α} :
    ((item :: items).Nodup ∧ ∀ other ∈ item :: items, other ∉ used) ↔
      item ∉ used ∧ items.Nodup ∧ ∀ other ∈ items, other ∉ item :: used := by
  rw [List.nodup_cons, List.forall_mem_cons]
  constructor
  · rintro ⟨⟨once, unique⟩, fresh, apart⟩
    refine ⟨fresh, unique, fun other member => ?_⟩
    rw [List.mem_cons, not_or]
    exact ⟨fun same => once (same ▸ member), apart other member⟩
  · rintro ⟨fresh, unique, apart⟩
    refine ⟨⟨fun member => apart item member (List.mem_cons_self ..), unique⟩, fresh, fun other member old => ?_⟩
    exact apart other member (List.mem_cons_of_mem _ old)

/-- Keeping one key after another keeps, all together, what has one of the keys. -/
theorem flatMap_filter_perm {α κ : Type} [DecidableEq κ] (key : α → κ) (items : List α) {keys : List κ}
    (unique : keys.Nodup) {keep : α → Bool} (kept : ∀ item ∈ items, keep item ↔ key item ∈ keys) :
    (keys.flatMap fun k => items.filter fun item => key item = k).Perm (items.filter keep) := by
  induction keys generalizing keep with
  | nil =>
    rw [List.flatMap_nil, List.filter_eq_nil_iff.mpr fun item member => by simp [kept item member]]
  | cons k keys ih =>
    obtain ⟨absent, unique⟩ := List.nodup_cons.mp unique
    have later : (keys.flatMap fun k => items.filter fun item => key item = k).Perm
        (items.filter fun item => !(key item = k) && keep item) := ih unique (by
      intro item member
      by_cases same : key item = k
      · simp [same, absent]
      · simp [same, kept item member])
    have here : (items.filter keep).filter (fun item => key item = k) =
        items.filter fun item => key item = k := by
      rw [List.filter_filter]
      refine List.filter_congr fun item member => ?_
      by_cases same : key item = k
      · simp [same, kept item member]
      · simp [same]
    rw [List.flatMap_cons, ← here]
    refine (later.append_left _).trans ?_
    rw [← List.filter_filter]
    exact List.filter_append_perm _ _

/-- The entries that are made for different keys can be taken apart by the key again. -/
theorem filter_flatMap_key {α κ : Type} [DecidableEq κ] (key : α → κ) {entries : κ → List α}
    (own : ∀ k, ∀ entry ∈ entries k, key entry = k) {keys : List κ} (unique : keys.Nodup) (k : κ) :
    ((keys.flatMap entries).filter fun entry => key entry == k) = if k ∈ keys then entries k else [] := by
  induction keys with
  | nil => simp
  | cons first keys ih =>
    obtain ⟨absent, unique⟩ := List.nodup_cons.mp unique
    rw [List.flatMap_cons, List.filter_append, ih unique]
    by_cases same : first = k
    · subst same
      have all : (entries first).filter (fun entry => key entry == first) = entries first :=
        List.filter_eq_self.mpr fun entry member => beq_iff_eq.mpr (own first entry member)
      simp [all, absent]
    · have nothing : (entries first).filter (fun entry => key entry == k) = [] :=
        List.filter_eq_nil_iff.mpr fun entry member => by simpa [own first entry member] using same
      simp [nothing, Ne.symm same]

/-- A list whose elements are all equal has no other order. -/
theorem eq_of_perm_of_all_eq {α : Type} {left right : List α} (perm : left.Perm right)
    (alike : ∀ item ∈ left, ∀ other ∈ left, item = other) : left = right := by
  cases left with
  | nil => exact perm.nil_eq
  | cons item rest =>
    have repeated : item :: rest = List.replicate (rest.length + 1) item :=
      List.eq_replicate_of_mem fun other member => alike other member item (List.mem_cons_self ..)
    rw [repeated] at perm ⊢
    exact (List.perm_replicate.mp perm.symm).symm

/-- A list with an order that none of its elements is in with another has only one element. -/
theorem all_eq_of_pairwise {α : Type} {R : α → α → Prop} {items : List α} (ordered : items.Pairwise R)
    (never : ∀ item ∈ items, ∀ other ∈ items, ¬R item other) :
    ∀ item ∈ items, ∀ other ∈ items, item = other := by
  match items with
  | [] => simp
  | [item] => simp
  | first :: second :: rest =>
    have holds := List.rel_of_pairwise_cons ordered (List.mem_cons_self ..)
    exact (never first (by simp) second (by simp) holds).elim

theorem exists_of_mem_left {α β : Type} {R : α → β → Prop} {left : List α} {right : List β}
    (related : List.Forall₂ R left right) {item : α} (member : item ∈ left) :
    ∃ other ∈ right, R item other := by
  induction related with
  | nil => cases member
  | cons head _ ih =>
    rcases List.mem_cons.mp member with rfl | later
    · exact ⟨_, List.mem_cons_self .., head⟩
    · obtain ⟨other, otherMem, holds⟩ := ih later
      exact ⟨other, List.mem_cons_of_mem _ otherMem, holds⟩

theorem exists_of_mem_right {α β : Type} {R : α → β → Prop} {left : List α} {right : List β}
    (related : List.Forall₂ R left right) {item : β} (member : item ∈ right) :
    ∃ other ∈ left, R other item := by
  induction related with
  | nil => cases member
  | cons head _ ih =>
    rcases List.mem_cons.mp member with rfl | later
    · exact ⟨_, List.mem_cons_self .., head⟩
    · obtain ⟨other, otherMem, holds⟩ := ih later
      exact ⟨other, List.mem_cons_of_mem _ otherMem, holds⟩

theorem exists_getElem?_of_forall₂ {α β : Type} {R : α → β → Prop} {left : List α} {right : List β}
    (related : List.Forall₂ R left right) {place : Nat} {item : α} (found : left[place]? = some item) :
    ∃ other, right[place]? = some other ∧ R item other := by
  induction related generalizing place with
  | nil => cases found
  | cons head _ ih =>
    cases place with
    | zero =>
      cases found
      exact ⟨_, rfl, head⟩
    | succ place => exact ih found

/-- Two steps that are taken item by item are taken list by list. -/
theorem forall₂_step_iff {α β γ : Type} {R : α → β → Prop} {S : β → γ → Prop} {left : List α} {right : List γ} :
    List.Forall₂ (fun a c => ∃ b, R a b ∧ S b c) left right ↔
      ∃ middle, List.Forall₂ R left middle ∧ List.Forall₂ S middle right := by
  constructor
  · intro related
    induction related with
    | nil => exact ⟨[], .nil, .nil⟩
    | cons head _ ih =>
      obtain ⟨b, first, second⟩ := head
      obtain ⟨middle, front, back⟩ := ih
      exact ⟨b :: middle, .cons first front, .cons second back⟩
  · rintro ⟨middle, front, back⟩
    induction front generalizing right with
    | nil =>
      cases back
      exact .nil
    | cons first _ ih =>
      cases back with
      | cons second back => exact .cons ⟨_, first, second⟩ (ih back)

/-- An order of related items carries over. -/
theorem pairwise_of_forall₂ {α β : Type} {R : α → β → Prop} {S : α → α → Prop} {T : β → β → Prop}
    (carry : ∀ a b c d, R a c → R b d → S a b → T c d) {left : List α} {right : List β}
    (related : List.Forall₂ R left right) (ordered : left.Pairwise S) : right.Pairwise T := by
  induction related with
  | nil => exact .nil
  | cons head tail ih =>
    obtain ⟨first, later⟩ := List.pairwise_cons.mp ordered
    refine List.pairwise_cons.mpr ⟨?_, ih later⟩
    intro item member
    obtain ⟨other, otherMem, holds⟩ := exists_of_mem_right tail member
    exact carry _ _ _ _ head holds (first other otherMem)

theorem flatMap_eq_of_forall₂ {α β γ : Type} {f : α → List γ} {g : β → List γ} {left : List α}
    {right : List β} (related : List.Forall₂ (fun a b => g b = f a) left right) :
    right.flatMap g = left.flatMap f := by
  induction related with
  | nil => rfl
  | cons head _ ih => rw [List.flatMap_cons, List.flatMap_cons, head, ih]

/-- Two choices that pick from the same items pick the same only when they agree on each of them. -/
theorem filterMap_eq_filterMap_iff {α β : Type} {f g : α → Option β} {items : List α}
    (alike : ∀ item ∈ items, (f item).isSome = (g item).isSome) :
    items.filterMap f = items.filterMap g ↔ ∀ item ∈ items, f item = g item := by
  induction items with
  | nil => simp
  | cons item items ih =>
    obtain ⟨here, later⟩ := List.forall_mem_cons.mp alike
    rw [List.forall_mem_cons, ← ih later, List.filterMap_cons, List.filterMap_cons]
    cases first : f item <;> cases second : g item <;> simp_all

theorem map_eq_of_forall₂ {α β γ : Type} {f : α → γ} {g : β → γ} {left : List α} {right : List β}
    (related : List.Forall₂ (fun a b => g b = f a) left right) : right.map g = left.map f := by
  induction related with
  | nil => rfl
  | cons head _ ih => rw [List.map_cons, List.map_cons, head, ih]

/-- When no key comes twice, an item is known by its key. -/
theorem eq_of_nodup_filterMap {α κ : Type} {key : α → Option κ} {items : List α}
    (unique : (items.filterMap key).Nodup) {left right : α} (here : left ∈ items) (there : right ∈ items)
    {k : κ} (leftKey : key left = some k) (rightKey : key right = some k) : left = right := by
  rw [List.Nodup, List.pairwise_filterMap] at unique
  have symmetric : Std.Symm fun a b => ∀ k, key a = some k → ∀ k', key b = some k' → k ≠ k' :=
    ⟨fun _ _ apart k aKey k' bKey same => apart k' bKey k aKey same.symm⟩
  by_contra differs
  exact unique.forall here there differs k leftKey k rightKey rfl

end HttpRouting
