import HttpRouting.Proofs.Composition
import Mathlib.Data.Set.List

/-! # Layers around an endpoint

A layer around the whole call that calls what is inside at most once is entered with the request and answers it,
or throws, or passes a request on and is left with what comes back. Such layers nest like the skins of an onion:
a request enters them from the outside to the inside, up to the one that turns it back or to the endpoint in the
middle, and those that passed it on are left in the opposite order.

A layer waits for what comes back: no function here goes on while the call inside it still runs, so what is inside
is over when the layer is left. `AroundFn.callsOnce_iff` says that the layers of this form are all the functions that
call what is inside at most once.

`Journey` says step by step what happens on the way, and in which world. Since every layer answers for what is
thrown inside it, a layer that is left always gets a response, and never a fault.
-/

namespace HttpRouting

/-- What a layer does with a request that enters it: answer it, or pass on a request, possibly another one, and
go on with what comes back. -/
inductive Passage where
  | answered (response : Response)
  | passed (given : Option Request) (leave : Except Fault Response → Act Response)

/-- A layer that calls what is inside at most once. -/
structure SinglePass where
  enter : Request → Act Passage

/-- What comes back from a computation, be it a value or a fault. -/
def caught {α : Type} (work : Act α) : Act (Except Fault α) :=
  tryCatch (do return .ok (← work)) fun fault => return .error fault

namespace SinglePass

/-- The function of the layer, which gets to see what is thrown inside. -/
def wrap (layer : SinglePass) : AroundFn := fun request next => do
  match ← layer.enter request with
  | .answered response => return response
  | .passed given leave => leave (← caught (next given))

/-- Whether all that the layer throws is of a kind, on the way in and, given a response, on the way out. -/
structure ThrowsOnly (kind : Fault → Prop) (layer : SinglePass) : Prop where
  entering : ∀ request, HttpRouting.ThrowsOnly kind (layer.enter request)
  leaving : ∀ request sites world given leave middle,
    layer.enter request sites world = (.ok (.passed given leave), middle) →
      ∀ received start fault final, leave (.ok received) sites start = (.error fault, final) → kind fault

end SinglePass

/-- The functions put around an endpoint, the first of them outermost. -/
def nest (wraps : List AroundFn) (inner : Endpoint) : Endpoint :=
  wraps.foldr (fun wrap endpoint => endpoint.around wrap) inner

theorem nest_append (outer wraps : List AroundFn) (inner : Endpoint) :
    nest (outer ++ wraps) inner = nest outer (nest wraps inner) :=
  List.foldr_append

/-- What a request passes on its way. -/
inductive Visit where
  | entered (layer : SinglePass)
  | handled (handler : Handler)
  | left (layer : SinglePass) (received : Response)

/-- What happens to a request on its way through layers, to what waits in the middle, and back out. A fault of a
layer is answered on the spot; what was passed on is left with a response. -/
inductive Journey (sites : Sites) (middle : Request → World → List Visit → Response → World → Prop) :
    List SinglePass → Request → World → List Visit → Response → World → Prop
  | reached {request world visits response final} (waits : middle request world visits response final) :
      Journey sites middle [] request world visits response final
  | answered {layer inside request world response final}
      (entered : layer.enter request sites world = (.ok (.answered response), final)) :
      Journey sites middle (layer :: inside) request world [.entered layer] response final
  | threw {layer inside request world fault first response final}
      (entered : layer.enter request sites world = (.error fault, first))
      (answered : answerFault fault sites first = (.ok response, final)) :
      Journey sites middle (layer :: inside) request world [.entered layer] response final
  | passed {layer inside request world given leave first visits received second response final}
      (entered : layer.enter request sites world = (.ok (.passed given leave), first))
      (inner : Journey sites middle inside (given.getD request) first visits received second)
      (left : tryCatch (leave (.ok received)) answerFault sites second = (.ok response, final)) :
      Journey sites middle (layer :: inside) request world
        (.entered layer :: (visits ++ [.left layer received])) response final

section

variable {sites : Sites} {middle : Request → World → List Visit → Response → World → Prop} {layers : List SinglePass}
  {inner : Endpoint} {request : Request} {world : World}

end

/-- Whether visits go in through layers and out again: they enter the first of them, those that passed the
request on, reach one more, which turns it back, or a handler behind them all, and leave those that passed it on
in the opposite order, each with a response. -/
def Onion (handles : Handler → Prop) (layers : List SinglePass) (visits : List Visit) : Prop :=
  ∃ (passed : List (SinglePass × Response)) (turn : Visit),
    visits = passed.map (fun pair => .entered pair.1) ++ turn ::
      passed.reverse.map (fun pair => .left pair.1 pair.2) ∧
    ((passed.map (·.1) = layers ∧ ∃ handler, handles handler ∧ turn = .handled handler) ∨
      ∃ layer rest, layers = passed.map (·.1) ++ layer :: rest ∧ turn = .entered layer)

private theorem onion_entered {handles : Handler → Prop} (layer : SinglePass) (rest : List SinglePass) :
    Onion handles (layer :: rest) [.entered layer] :=
  ⟨[], .entered layer, rfl, .inr ⟨layer, rest, rfl, rfl⟩⟩

theorem onion_handled {handles : Handler → Prop} {handler : Handler} (handled : handles handler) :
    Onion handles [] [.handled handler] :=
  ⟨[], .handled handler, rfl, .inl ⟨rfl, handler, handled, rfl⟩⟩

/-- One more layer outside that passes the request on is entered first and left last. -/
theorem Onion.cons {handles : Handler → Prop} {layers : List SinglePass} {visits : List Visit}
    (onion : Onion handles layers visits) (layer : SinglePass) (received : Response) :
    Onion handles (layer :: layers) (.entered layer :: (visits ++ [.left layer received])) := by
  obtain ⟨passed, turn, rfl, ends⟩ := onion
  refine ⟨(layer, received) :: passed, turn, ?_, ends.imp ?_ ?_⟩
  · simp
  · rintro ⟨rfl, handled⟩
    exact ⟨rfl, handled⟩
  · rintro ⟨other, rest, rfl, turned⟩
    exact ⟨other, rest, rfl, turned⟩

/-- The visits of a journey go in and out through its layers and those that what waits in the middle has of its
own. -/
theorem Journey.onion {sites : Sites} {middle : Request → World → List Visit → Response → World → Prop}
    {handles : Handler → Prop} {layers deeper : List SinglePass} {request : Request} {world final : World}
    {visits : List Visit} {response : Response}
    (journey : Journey sites middle layers request world visits response final)
    (inner : ∀ request world visits response final, middle request world visits response final →
      Onion handles deeper visits) : Onion handles (layers ++ deeper) visits := by
  induction journey with
  | reached waits => exact inner _ _ _ _ _ waits
  | answered => exact onion_entered _ _
  | threw => exact onion_entered _ _
  | passed _ _ _ ih => exact ih.cons _ _

end HttpRouting
