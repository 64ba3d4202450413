import HttpRouting.Effect
import Mathlib.Tactic.Common

/-! # Traces of nested spans

Spans that nest leave their events behind as brackets do. What is recorded goes to a span that is open: to
one that is held from outside, or to one that was started further on and has not been finished. `Balanced`
is the grammar of such traces, and `Enclosed` what it says of one span: it is started and finished once,
every other event of it stands between the two, and a span started between the two is finished between
them.
-/

namespace HttpRouting

def SpanEvent.IsStart : SpanEvent → Prop
  | .start .. => True
  | _ => False

/-- Whether an event neither starts nor finishes its span. -/
def SpanEvent.IsNote : SpanEvent → Prop
  | .start .. | .finish => False
  | _ => True

theorem SpanEvent.IsStart.not_isNote {event : SpanEvent} (start : event.IsStart) : ¬ event.IsNote := by
  cases event <;> first | exact id | cases start

namespace Trace

/-- The traces of nested spans, with the spans that are held from outside, the number of the first span
that they start, and the number of the next one after them. -/
inductive Balanced : List Nat → Nat → List Event → Nat → Prop where
  | nil {held : List Nat} {first : Nat} : Balanced held first [] first
  | other {held : List Nat} {first last : Nat} {event : Event} {events : List Event}
      (apart : ∀ span what, event ≠ .span span what) (rest : Balanced held first events last) :
      Balanced held first (event :: events) last
  | note {held : List Nat} {first last span : Nat} {what : SpanEvent} {events : List Event}
      (member : span ∈ held) (note : what.IsNote) (rest : Balanced held first events last) :
      Balanced held first (.span span what :: events) last
  | span {held : List Nat} {first middle last : Nat} {opened : SpanEvent} {inside after : List Event}
      (start : opened.IsStart) (inner : Balanced (first :: held) (first + 1) inside middle)
      (rest : Balanced held middle after last) :
      Balanced held first (.span first opened :: (inside ++ .span first .finish :: after)) last

/-- Whether a span is started and finished once among some events, with its other events and the spans
started meanwhile between the two. -/
def Enclosed (span : Nat) (events : List Event) : Prop :=
  ∃ before opened inside after,
    events = before ++ .span span opened :: (inside ++ .span span .finish :: after) ∧ opened.IsStart ∧
      (∀ what, .span span what ∉ before) ∧ (∀ what, .span span what ∉ after) ∧
      (∀ what, .span span what ∈ inside → what.IsNote) ∧
      ∀ other what, what.IsStart → .span other what ∈ inside → .span other .finish ∈ inside

theorem Enclosed.finish_mem {span : Nat} {events : List Event} (enclosed : Enclosed span events) :
    .span span .finish ∈ events := by
  obtain ⟨before, opened, inside, after, rfl, -⟩ := enclosed
  simp

/-- A span is enclosed in more events as well, if none of these is about it. -/
theorem Enclosed.behind {span : Nat} {events : List Event} (enclosed : Enclosed span events) (left : List Event)
    (apart : ∀ what, .span span what ∉ left) : Enclosed span (left ++ events) := by
  obtain ⟨before, opened, inside, after, rfl, start, early, late, notes, nested⟩ := enclosed
  refine ⟨left ++ before, opened, inside, after, by simp, start, fun what member => ?_, late, notes, nested⟩
  exact (List.mem_append.mp member).elim (apart what) (early what)

theorem Enclosed.ahead {span : Nat} {events : List Event} (enclosed : Enclosed span events) (right : List Event)
    (apart : ∀ what, .span span what ∉ right) : Enclosed span (events ++ right) := by
  obtain ⟨before, opened, inside, after, rfl, start, early, late, notes, nested⟩ := enclosed
  refine ⟨before, opened, inside, after ++ right, by simp, start, early, fun what member => ?_, notes, nested⟩
  exact (List.mem_append.mp member).elim (late what) (apart what)

namespace Balanced

variable {held : List Nat} {first middle last span : Nat} {events later : List Event} {what : SpanEvent}

theorem append (left : Balanced held first events middle) (right : Balanced held middle later last) :
    Balanced held first (events ++ later) last := by
  induction left with
  | nil => exact right
  | other apart _ ih => exact .other apart (ih right)
  | note member note _ ih => exact .note member note (ih right)
  | span start inner _ _ ih =>
    rw [List.cons_append, List.append_assoc, List.cons_append]
    exact .span start inner (ih right)

/-- Events that are at most notes on spans held from outside. -/
theorem of_notes (notes : ∀ span what, .span span what ∈ events → span ∈ held ∧ what.IsNote) :
    Balanced held first events first := by
  induction events with
  | nil => exact .nil
  | cons event events ih =>
    have rest := ih fun span what member => notes span what (List.mem_cons_of_mem _ member)
    cases event with
    | span span what =>
      obtain ⟨member, note⟩ := notes span what (List.mem_cons_self ..)
      exact .note member note rest
    | mark | log | written => exact .other (by simp) rest

theorem le (balanced : Balanced held first events last) : first ≤ last := by
  induction balanced with
  | nil => exact Nat.le_refl _
  | other _ _ ih | note _ _ _ ih => exact ih
  | span _ _ _ inner rest => omega

/-- Whatever is recorded is a note on a span held from outside, or about a span that is started here. -/
theorem of_mem (balanced : Balanced held first events last) (member : .span span what ∈ events) :
    span ∈ held ∧ what.IsNote ∨ first ≤ span ∧ span < last := by
  induction balanced with
  | nil => cases member
  | other apart _ ih =>
    rcases List.mem_cons.mp member with here | later
    · exact absurd here.symm (apart _ _)
    · exact ih later
  | note holds note _ ih =>
    rcases List.mem_cons.mp member with here | later
    · cases here
      exact .inl ⟨holds, note⟩
    · exact ih later
  | span start inner rest ihInner ihRest =>
    have bound := inner.le
    have bound' := rest.le
    rcases List.mem_cons.mp member with here | member
    · cases here
      exact .inr ⟨Nat.le_refl _, by omega⟩
    rcases List.mem_append.mp member with inside | member
    · rcases ihInner inside with ⟨holds, note⟩ | between
      · rcases List.mem_cons.mp holds with rfl | holds
        · exact .inr ⟨Nat.le_refl _, by omega⟩
        · exact .inl ⟨holds, note⟩
      · exact .inr ⟨by omega, by omega⟩
    rcases List.mem_cons.mp member with here | after
    · cases here
      exact .inr ⟨Nat.le_refl _, by omega⟩
    · rcases ihRest after with notes | between
      · exact .inl notes
      · exact .inr ⟨by omega, by omega⟩

/-- Every span that is started here is enclosed here. The induction goes into the spans that are still
open, so it is over all that may be held. -/
theorem enclosed (balanced : Balanced held first events last) (below : ∀ span ∈ held, span < first)
    (started : first ≤ span) (past : span < last) : Enclosed span events := by
  induction balanced generalizing span with
  | nil => omega
  | @other _ _ _ event _ apart _ ih =>
    exact (ih below started past).behind [event] fun what member =>
      apart _ _ (List.mem_singleton.mp member).symm
  | @note _ _ _ holder what _ holds note _ ih =>
    refine (ih below started past).behind [.span holder what] fun other member => ?_
    have earlier := below holder holds
    cases List.mem_singleton.mp member
    omega
  | @span held first middle last opened inside after start inner rest ihInner ihRest =>
    have apart {other : Nat} (outside : ∀ what, .span other what ∉ inside) (differs : other ≠ first) :
        ∀ what, .span other what ∉ .span first opened :: (inside ++ [.span first .finish]) := by
      simp [outside, differs]
    have bound := inner.le
    have bound' := rest.le
    have below' : ∀ other ∈ first :: held, other < first + 1 :=
      List.forall_mem_cons.mpr ⟨Nat.lt_succ_self _, fun other holds => Nat.lt_succ_of_lt (below other holds)⟩
    have unheld : ∀ other, first ≤ other → other ∉ held := fun other high holds => by
      have := below other holds
      omega
    have within : ∀ other, first < other → other < middle → Enclosed other inside :=
      fun other high low => ihInner below' high low
    rcases Nat.lt_trichotomy span first with low | rfl | high
    · omega
    · refine ⟨[], opened, inside, after, rfl, start, fun _ => List.not_mem_nil, fun what member => ?_,
        fun what member => ?_, fun other what opens member => ?_⟩
      · rcases rest.of_mem member with ⟨holds, -⟩ | between
        · exact unheld _ started holds
        · omega
      · rcases inner.of_mem member with ⟨-, note⟩ | between
        · exact note
        · omega
      · rcases inner.of_mem member with ⟨-, note⟩ | ⟨high, low⟩
        · exact absurd note opens.not_isNote
        · exact (within other high low).finish_mem
    · by_cases inward : span < middle
      · -- the span is started inside the first one
        have enclosed := (within span high inward).behind [.span first opened] (by simp; omega)
        refine enclosed.ahead (.span first .finish :: after) fun what member => ?_
        rcases List.mem_cons.mp member with here | later
        · cases here
          omega
        · rcases rest.of_mem later with ⟨holds, -⟩ | between
          · exact unheld _ started holds
          · omega
      · -- the span is started after the first one is finished
        have below'' : ∀ other ∈ held, other < middle := fun other holds => by
          have := below other holds
          omega
        have enclosed := ihRest below'' (Nat.le_of_not_lt inward) past
        have outside : ∀ what, .span span what ∉ inside := fun what member => by
          rcases inner.of_mem member with ⟨holds, -⟩ | between
          · have := below' _ holds
            omega
          · omega
        simpa using enclosed.behind _ (apart outside (by omega))

end Balanced

end Trace

end HttpRouting
