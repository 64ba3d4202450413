import HttpRouting.Endpoint
import HttpRouting.Route.Registration
import HttpRouting.Text.Case

/-! # Routing by scheme

Endpoints by the scheme of the address, such as `https`, in any letter case, with an endpoint for the
schemes that have none.
-/

namespace HttpRouting

open Text

/-- Endpoints by scheme. -/
structure SchemeRouter (ε : Type) where
  schemes : Entries ε := []
  fallback : Option ε := none

namespace SchemeRouter

variable {ε : Type}

/-- A scheme as it is compared: in lower case, without the colon that may follow it. -/
def key (scheme : String) : String :=
  dropOneTrailing ':' (lower scheme)

def register (router : SchemeRouter ε) (scheme : String) (endpoint : ε) :
    Except RegistrationError (SchemeRouter ε) :=
  if router.schemes.has (key scheme) then .error ⟨key scheme, .schemeTaken, none⟩
  else .ok { router with schemes := router.schemes.put (key scheme) endpoint }

def withFallback (router : SchemeRouter ε) (endpoint : ε) : SchemeRouter ε :=
  { router with fallback := some endpoint }

def resolve? (router : SchemeRouter ε) (scheme : String) : Option ε :=
  (router.schemes.get? (lower scheme)).orElse fun _ => router.fallback

def dispatch (router : SchemeRouter Endpoint) (request : Request) : Act Response :=
  match router.resolve? request.scheme with
  | some endpoint => endpoint.call request
  | none => ofViolation Response.notFound

end SchemeRouter

end HttpRouting
