import HttpRouting.Endpoint
import HttpRouting.Entries
import HttpRouting.Route.Registration
import HttpRouting.Text.Case

/-! # Routing by host

A host pattern is a list of labels, read from the right: a literal label, `+` for any one label, or,
only as the leftmost, `*` for one or more labels. At the first label from the right where two matching
patterns differ, a literal label is preferred to `+` and `+` to `*`. A missing host is matched by `*`
alone.

Endpoints stand in a tree of labels, at the node that the labels of their pattern lead to. A look-up goes
down by a literal label first, then by `+`, and falls back to the `*` of a node when neither finds
anything below it. A registration makes the nodes that are missing on its way, and these stay when it is
refused at the end of it.
-/

namespace HttpRouting

open Text

/-- One label of a host pattern. -/
inductive HostLabel where
  | literal (text : String)
  | any
  | rest
deriving DecidableEq, Repr

def HostLabel.read (text : String) : HostLabel :=
  if text = "*" then .rest else if text = "+" then .any else .literal text

/-- The labels of a host pattern, from the right; all but the last are single labels. -/
abbrev HostPattern := List HostLabel

/-- The labels of a host name, from the right. -/
def hostLabels (name : String) : List String :=
  (cut '.' name).reverse

/-- The host in the value of a `Host` field: in lower case, without a port and one closing dot. -/
def hostName (host : String) : String :=
  let name :=
    match host.toList with
    | '[' :: _ =>
      if host.toList.contains ']' then before ']' host ++ "]" else ""
    | _ => before ':' host
  dropOneTrailing '.' (lower name)

/-- The texts of the labels of a pattern, in lower case and from the right. -/
def HostPattern.texts (text : String) : List String :=
  hostLabels (lower text)

def HostPattern.ofText (text : String) : HostPattern :=
  (texts text).map HostLabel.read

/-- A node of the tree of hosts with all that is below it: the children by literal label and by `+`, the
endpoint of a `*` here, and the endpoint of a pattern that ends here. -/
structure HostTree (ε : Type) where
  labels : List (String × HostTree ε) := []
  any : Option (HostTree ε) := none
  rest : Option ε := none
  endpoint : Option ε := none

namespace HostTree

variable {ε : Type}

def child? (node : HostTree ε) (label : String) : Option (HostTree ε) :=
  Entries.get? label node.labels

/-- Register an endpoint at the end of a pattern, unless one is there already or a `*` stands before the
end. The nodes that were made on the way are kept in either case. -/
def plant (endpoint : ε) : HostPattern → HostTree ε → Except RegistrationCause Unit × HostTree ε
  | [], node =>
    if node.endpoint.isSome then (.error .hostTaken, node)
    else (.ok (), { node with endpoint := some endpoint })
  | .rest :: ahead, node =>
    if ahead ≠ [] then (.error .starNotLeftmost, node)
    else if node.rest.isSome then (.error .hostTaken, node)
    else (.ok (), { node with rest := some endpoint })
  | .any :: ahead, node =>
    let (result, child) := plant endpoint ahead (node.any.getD {})
    (result, { node with any := some child })
  | .literal label :: ahead, node =>
    let (result, child) := plant endpoint ahead ((node.child? label).getD {})
    (result, { node with labels := Entries.put label child node.labels })

/-- The endpoint of the best pattern for the labels still ahead. -/
def find? : HostTree ε → List String → Option ε
  | node, [] => node.endpoint
  | node, label :: labels =>
    match (node.child? label).bind fun child => find? child labels with
    | some endpoint => some endpoint
    | none =>
      match node.any.bind fun child => find? child labels with
      | some endpoint => some endpoint
      | none => node.rest

end HostTree

/-- Endpoints by host. -/
structure HostRouter (ε : Type) where
  root : HostTree ε := {}

namespace HostRouter

variable {ε : Type}

def resolve? (router : HostRouter ε) (host : String) : Option ε :=
  if hostName host = "" then router.root.rest
  else router.root.find? (hostLabels (hostName host))

/-- Register an endpoint for a host pattern, of which no label may be empty. What a refusal leaves behind
is part of the result. -/
def register (router : HostRouter ε) (text : String) (endpoint : ε) :
    Except RegistrationError Unit × HostRouter ε :=
  if (HostPattern.texts text).contains "" then (.error ⟨text, .emptyLabel, none⟩, router)
  else
    let (result, root) := router.root.plant endpoint (HostPattern.ofText text)
    (result.mapError fun cause => ⟨text, cause, none⟩, { router with root })

def dispatch (router : HostRouter Endpoint) (request : Request) : Act Response :=
  match router.resolve? request.host with
  | some endpoint => endpoint.call request
  | none => ofViolation Response.notFound

end HostRouter

end HttpRouting
