import HttpRouting.Route.MethodTable

/-! # Method tables that are being asked

A table that has to answer `HEAD` by the endpoint of `GET` makes the endpoint for that when it is first asked,
and hands out the same one from then on. So asking changes a table, though not what it binds; what was made is
only looked at while nothing that is bound answers `HEAD`.
-/

namespace HttpRouting

/-- A method table, with the endpoint that it has made to answer `HEAD` if it was asked for one. -/
structure ServingTable (ε : Type) where
  table : MethodTable ε := {}
  madeHead : Option ε := none

namespace ServingTable

variable {ε : Type}

/-- Bind an endpoint; refused when the selector collides with a taken one. What a refusal leaves behind is part
of the result. -/
def set (serving : ServingTable ε) (selector : Selector) (endpoint : ε) (pattern : String) :
    Except RegistrationError Unit × ServingTable ε :=
  match serving.table.set selector endpoint pattern with
  | .ok table => (.ok (), { serving with table })
  | .error error => (.error error, serving)

/-- The endpoint that answers `HEAD` in the place of `GET`: the one that was made before, or one that is made now
of what is bound to `GET`. -/
def headFromGet (headOf : ε → ε) (serving : ServingTable ε) : Option ε × ServingTable ε :=
  match serving.madeHead with
  | some made => (some made, serving)
  | none =>
    match serving.table.bound? .get with
    | none => (none, serving)
    | some endpoint => (some (headOf endpoint), { serving with madeHead := some (headOf endpoint) })

/-- The endpoint that answers a request's method: the one bound to it, else the catch-all, else, for `HEAD`, the
one that is made of the `GET` endpoint. -/
def get (headOf : ε → ε) (serving : ServingTable ε) (method : String) : Option ε × ServingTable ε :=
  let parsed := Method.parse? method
  match (parsed.bind serving.table.bound?).orElse fun _ => serving.table.catchAll with
  | some endpoint => (some endpoint, serving)
  | none => if parsed = some .head then serving.headFromGet headOf else (none, serving)

end ServingTable

end HttpRouting
