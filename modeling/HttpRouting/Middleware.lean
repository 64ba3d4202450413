import HttpRouting.Endpoint

/-! # Middleware

A middleware turns an endpoint into one that does more. Most are made from a function that comes
before, after or around the endpoint. The first of several composed middleware is the outermost: it
sees the request first and the response last.

A stack is a composition whose result can always be wrapped again, so what a middleware of its own
making throws becomes a response at the outer end. A live stack stands for a pipeline that is kept
elsewhere under a number and may still change; `expand` puts in what the pipelines hold at a given
moment, and only a middleware without live stacks can be applied.
-/

namespace HttpRouting

/-- Something that wraps endpoints. -/
inductive Middleware where
  | before (change : BeforeFn)
  | after (change : AfterFn)
  | around (wrap : AroundFn)
  | custom (build : Endpoint → Outcome Endpoint)
  | compose (layers : List Middleware)
  | conditional (holds : Request → Act Bool) (layer : Middleware)
  | stack (layers : List Middleware)
  | live (pipeline : Nat)

namespace Middleware

/-- The endpoint that answers by `wrapped` when the condition holds and by `inner` otherwise. -/
def choose (holds : Request → Act Bool) (wrapped inner : Endpoint) : Endpoint :=
  .guarded fun request => do
    if ← holds request then wrapped.call request else inner.call request

mutual

def transform : Middleware → Endpoint → Outcome Endpoint
  | .before change, inner => .ok (inner.before change)
  | .after change, inner => .ok (inner.after change)
  | .around wrap, inner => .ok (inner.around wrap)
  | .custom build, inner => build inner
  | .compose layers, inner => transformAll layers inner
  | .conditional holds layer, inner => do
    return choose holds (← layer.transform inner) inner
  | .stack layers, inner => do
    return (← transformAll layers inner).adapt
  | .live _, _ => .error (.violation .outOfRange)

/-- The endpoint wrapped by every middleware of a list, the last first. -/
def transformAll : List Middleware → Endpoint → Outcome Endpoint
  | [], inner => .ok inner
  | layer :: layers, inner => do
    layer.transform (← transformAll layers inner)

end

mutual

/-- The middleware with each live stack replaced by what its pipeline holds, which may again have
live stacks; a number without a pipeline stays as it is. -/
def expandOnce (pipelines : List (List Middleware)) : Middleware → Middleware
  | .compose layers => .compose (expandAll pipelines layers)
  | .conditional holds layer => .conditional holds (expandOnce pipelines layer)
  | .stack layers => .stack (expandAll pipelines layers)
  | .live pipeline =>
    match pipelines[pipeline]? with
    | some layers => .stack layers
    | none => .live pipeline
  | .before change => .before change
  | .after change => .after change
  | .around wrap => .around wrap
  | .custom build => .custom build

/-- Every middleware of a list with its live stacks replaced. -/
def expandAll (pipelines : List (List Middleware)) : List Middleware → List Middleware
  | [] => []
  | layer :: layers => expandOnce pipelines layer :: expandAll pipelines layers

end

/-- The middleware without live stacks. Pipelines that do not hold one another in a circle are never
nested deeper than there are pipelines; a circle is left, and cannot be applied. -/
def expand (pipelines : List (List Middleware)) (middleware : Middleware) : Middleware :=
  pipelines.foldl (fun expanded _ => expandOnce pipelines expanded) middleware

end Middleware

end HttpRouting
