import HttpRouting.Json.Access
import HttpRouting.Json.Parser
import HttpRouting.Proofs.Outcomes

/-! # Objects read from JSON texts

A field that a text repeats keeps its place and takes the later value, so an object that is read has
every name once. Reading its fields one after another therefore comes to the same as looking each name
up, whatever the reader makes of a field.
-/

namespace HttpRouting

namespace Fields

variable {α : Type}

/-- What `overtakes` would have moved forward stands in front: no name comes twice, and none stands
behind one that it overtakes. -/
def Ordered (fields : Fields α) : Prop :=
  fields.Pairwise fun earlier later => earlier.1 ≠ later.1 ∧ overtakes later.1 earlier.1 = false

private theorem overtakes_trans {first second third : String} (front : overtakes first second = true)
    (back : overtakes second third = true) : overtakes first third = true := by
  unfold overtakes at front back ⊢
  cases one : index? first with
  | none => simp [one] at front
  | some i =>
    cases two : index? second with
    | none => simp [two] at back
    | some j =>
      cases three : index? third with
      | none => rfl
      | some k =>
        simp only [one, two, three, decide_eq_true_eq] at front back ⊢
        omega

@[simp] theorem overtakes_self (name : String) : overtakes name name = false := by
  cases index : index? name <;> simp [overtakes, index]

private theorem mem_set {name : String} {value : α} {fields : Fields α} {field : String × α}
    (member : field ∈ fields.set name value) : field = (name, value) ∨ field ∈ fields := by
  induction fields with
  | nil => exact .inl (List.mem_singleton.mp member)
  | cons head rest ih =>
    obtain ⟨other, old⟩ := head
    unfold set at member
    split at member
    · rcases List.mem_cons.mp member with here | later
      · exact .inl here
      · exact .inr (List.mem_cons_of_mem _ later)
    · split at member
      · exact List.mem_cons.mp member
      · rcases List.mem_cons.mp member with here | later
        · exact .inr (here ▸ List.mem_cons_self ..)
        · exact (ih later).imp_right (List.mem_cons_of_mem _)

private theorem ordered_set (name : String) (value : α) {fields : Fields α} (ordered : fields.Ordered) :
    (fields.set name value).Ordered := by
  induction fields with
  | nil => exact List.pairwise_singleton ..
  | cons head rest ih =>
    obtain ⟨other, old⟩ := head
    obtain ⟨behind, tail⟩ := List.pairwise_cons.mp ordered
    unfold set
    split
    next same =>
      subst same
      exact List.pairwise_cons.mpr ⟨behind, tail⟩
    next differs =>
      split
      next overtaken =>
        refine List.pairwise_cons.mpr ⟨fun field member => ?_, ordered⟩
        rcases List.mem_cons.mp member with rfl | later
        · refine ⟨fun same => differs same.symm, Bool.eq_false_iff.mpr fun back => ?_⟩
          have loops := overtakes_trans overtaken back
          rw [overtakes_self] at loops
          cases loops
        · -- the new name overtakes `other`, which `field` does not
          have rests := (behind field later).2
          refine ⟨fun same => ?_, Bool.eq_false_iff.mpr fun back => ?_⟩
          · rw [← same, overtaken] at rests
            cases rests
          · rw [overtakes_trans back overtaken] at rests
            cases rests
      next rests =>
        refine List.pairwise_cons.mpr ⟨fun field member => ?_, ih tail⟩
        rcases mem_set member with rfl | later
        · exact ⟨differs, Bool.eq_false_iff.mpr rests⟩
        · exact behind field later

theorem Ordered.nodup {fields : Fields α} (ordered : fields.Ordered) : (fields.map Prod.fst).Nodup :=
  List.pairwise_map.mpr (ordered.imp And.left)

end Fields

namespace Json

/-- Every object in the value has its fields in order, and no name twice. -/
inductive Ordered : Json → Prop where
  | null : Ordered .null
  | bool (value : Bool) : Ordered (.bool value)
  | number (value : Number) : Ordered (.number value)
  | string (text : String) : Ordered (.string text)
  | array {items : List Json} (each : ∀ item ∈ items, Ordered item) : Ordered (.array items)
  | object {fields : Fields Json} (ordered : fields.Ordered)
      (each : ∀ field ∈ fields, Ordered field.2) : Ordered (.object fields)

/-- The three readers keep to ordered objects; the induction is on the count that they share. -/
private theorem ordered_readers (fuel : Nat) :
    (∀ chars value rest, readValue? fuel chars = some (value, rest) → value.Ordered) ∧
    (∀ read chars value rest, (∀ item ∈ read, item.Ordered) →
      readItems? fuel read chars = some (value, rest) → value.Ordered) ∧
    (∀ (read : Fields Json) chars value rest, read.Ordered → (∀ field ∈ read, field.2.Ordered) →
      readMembers? fuel read chars = some (value, rest) → value.Ordered) := by
  induction fuel with
  | zero => simp [readValue?, readItems?, readMembers?]
  | succ fuel ih =>
    obtain ⟨values, items, members⟩ := ih
    refine ⟨fun chars value rest done => ?_, fun read chars value rest each done => ?_,
      fun read chars value rest ordered each done => ?_⟩
    · rw [readValue?] at done
      split at done
      · cases done
      · split at done
        · cases done
          exact .object .nil (List.forall_mem_nil _)
        · exact members _ _ _ _ .nil (List.forall_mem_nil _) done
      · split at done
        · cases done
          exact .array (List.forall_mem_nil _)
        · exact items _ _ _ _ (List.forall_mem_nil _) done
      · obtain ⟨read, -, same⟩ := Option.map_eq_some_iff.mp done
        cases same
        exact .string _
      · split at done
        · cases done
          exact .bool true
        · cases done
          exact .bool false
        · cases done
          exact .null
        · obtain ⟨read, -, same⟩ := Option.map_eq_some_iff.mp done
          cases same
          exact .number _
    · rw [readItems?] at done
      obtain ⟨⟨item, after⟩, first, done⟩ := Option.bind_eq_some_iff.mp done
      have every : ∀ other ∈ item :: read, other.Ordered :=
        List.forall_mem_cons.mpr ⟨values _ _ _ first, each⟩
      dsimp only at done
      split at done
      · exact items _ _ _ _ every done
      · cases done
        exact .array fun other member => every other (List.mem_reverse.mp member)
      · cases done
    · rw [readMembers?] at done
      split at done
      · obtain ⟨⟨name, afterName⟩, -, done⟩ := Option.bind_eq_some_iff.mp done
        dsimp only at done
        split at done
        · obtain ⟨⟨given, after⟩, first, done⟩ := Option.bind_eq_some_iff.mp done
          have placed : (read.set name given).Ordered := Fields.ordered_set name given ordered
          have every : ∀ field ∈ read.set name given, field.2.Ordered := by
            intro field member
            rcases Fields.mem_set member with rfl | before
            · exact values _ _ _ first
            · exact each field before
          dsimp only at done
          split at done
          · exact members _ _ _ _ placed every done
          · cases done
            exact .object placed every
          · cases done
        · cases done
      · cases done

/-- Every object in a value that is read from a text has its fields in order, and no name twice. -/
theorem ordered_of_parse? {text : String} {value : Json} (parsed : parse? text = some value) :
    value.Ordered := by
  obtain ⟨⟨read, rest⟩, first, done⟩ := Option.bind_eq_some_iff.mp parsed
  dsimp only at done
  split at done
  · cases done
    exact (ordered_readers _).1 _ _ _ first
  · cases done

/-- What a list of names leads to, one object inside another. -/
def at? (value : Json) (place : List String) : Option Json :=
  place.foldlM given? value

@[simp] theorem at?_nil (value : Json) : value.at? [] = some value := rfl

@[simp] theorem at?_singleton (value : Json) (name : String) : value.at? [name] = value.given? name := by
  simp [at?]

theorem at?_object_cons (fields : Fields Json) (name : String) (below : List String) :
    (object fields).at? (name :: below) = (fields.get? name).bind (·.at? below) := rfl

end Json

/-- A reader that takes the fields of an object one after another, and whose part `part` is changed by the
field of one name alone, leaves in that part what the field of that name gives. -/
theorem part_of_foldlM {σ ε β : Type} {step : σ → String × Json → Except ε σ} (part : σ → Option β)
    {name : String} (given : Json → Option β)
    {fields : Fields Json} (one : ∀ state, ∀ field ∈ fields, ∀ next, step state field = .ok next →
      part next = if field.1 = name then given field.2 else part state)
    (distinct : (fields.map Prod.fst).Nodup) {start final : σ}
    (ran : fields.foldlM step start = .ok final) :
    part final = (fields.get? name).elim (part start) given := by
  induction fields generalizing start with
  | nil =>
    rw [List.foldlM_nil, pure_eq_ok] at ran
    rw [← ran]
    rfl
  | cons field rest ih =>
    rw [List.foldlM_cons, bind_eq_ok] at ran
    obtain ⟨next, first, ran⟩ := ran
    obtain ⟨apart, distinct⟩ := List.nodup_cons.mp distinct
    have others := fun state other member => one state other (List.mem_cons_of_mem _ member)
    rw [ih others distinct ran, one _ _ (List.mem_cons_self ..) _ first, Fields.get?, Fields.get?, List.lookup_cons]
    by_cases same : field.1 = name
    · have absent : rest.lookup name = none := by
        rw [List.lookup_eq_none_iff]
        intro other member
        have elsewhere : field.1 ≠ other.1 := fun again => apart (again ▸ List.mem_map_of_mem member)
        simpa [← same] using elsewhere
      simp [absent, same]
    · have differs : (name == field.1) = false := beq_false_of_ne (Ne.symm same)
      rw [if_neg same, differs]

end HttpRouting
