import HttpRouting.Route.Method
import HttpRouting.Route.Registration

/-! # Method tables

The endpoints of one route, by method, with a slot for any method. The slot and a bound method
exclude each other, so a table that was built by `set` never holds both. A route that answers `GET`
and does not bind `HEAD` answers `HEAD` by the `GET` endpoint with its body dropped; what dropping
the body means for an endpoint is the reader's to say.
-/

namespace HttpRouting

/-- The endpoints of one route, in the order in which they were bound. -/
structure MethodTable (ε : Type) where
  bound : List (Method × ε) := []
  catchAll : Option ε := none

namespace MethodTable

variable {ε δ : Type}

def empty : MethodTable ε := {}

def bound? (table : MethodTable ε) (method : Method) : Option ε :=
  table.bound.lookup method

def binds (table : MethodTable ε) (method : Method) : Bool :=
  (table.bound? method).isSome

/-- Whether a selector has an endpoint of its own. -/
def has (table : MethodTable ε) : Selector → Bool
  | .any => table.catchAll.isSome
  | .only method => table.binds method

def isEmpty (table : MethodTable ε) : Bool :=
  table.bound.isEmpty && table.catchAll.isNone

/-- The selectors already taken that a selector would collide with. -/
def conflicts (table : MethodTable ε) (selector : Selector) : List Selector :=
  if table.catchAll.isSome then [.any]
  else
    match selector with
    | .any => table.bound.map fun pair => .only pair.1
    | .only method => if table.binds method then [selector] else []

/-- The selectors of the table, in canonical order. -/
def selectors (table : MethodTable ε) : List Selector :=
  (Method.all.filter table.binds).map .only ++ if table.catchAll.isSome then [.any] else []

/-- The taken selectors that the selectors of `other` collide with. -/
def overlap (table : MethodTable ε) (other : MethodTable δ) : List Selector :=
  other.selectors.flatMap table.conflicts

def listed (selectors : List Selector) : String :=
  Text.join ", " (selectors.map Selector.name)

/-- Bind an endpoint; refused when the selector collides with a taken one. -/
def set (table : MethodTable ε) (selector : Selector) (endpoint : ε) (pattern : String) :
    Except RegistrationError (MethodTable ε) :=
  match table.conflicts selector with
  | [] =>
    match selector with
    | .any => .ok { table with catchAll := some endpoint }
    | .only method => .ok { table with bound := table.bound ++ [(method, endpoint)] }
  | taken => .error ⟨pattern, .methodTaken, some (listed taken)⟩

/-- The endpoint that answers a request's method: the one bound to it, else the catch-all, else, for
`HEAD`, the `GET` endpoint passed through `headOf`. -/
def get? (headOf : ε → ε) (table : MethodTable ε) (method : String) : Option ε :=
  let parsed := Method.parse? method
  match (parsed.bind table.bound?).orElse fun _ => table.catchAll with
  | some endpoint => some endpoint
  | none => if parsed = some .head then (table.bound? .get).map headOf else none

/-- The methods that the table answers, in canonical order. -/
def allowed (table : MethodTable ε) : List Method :=
  if table.catchAll.isSome then Method.all
  else Method.all.filter fun method =>
    table.binds method || (method == .head && table.binds .get)

def map (change : ε → δ) (table : MethodTable ε) : MethodTable δ where
  bound := table.bound.map fun pair => (pair.1, change pair.2)
  catchAll := table.catchAll.map change

/-- The table with every endpoint changed by a computation, in the order of the table. -/
def mapM {m : Type → Type} [Monad m] (change : ε → m δ) (table : MethodTable ε) :
    m (MethodTable δ) := do
  let bound ← table.bound.mapM fun pair => do return (pair.1, ← change pair.2)
  match table.catchAll with
  | none => return { bound }
  | some endpoint => return { bound, catchAll := some (← change endpoint) }

end MethodTable

end HttpRouting
