import ControlEndpoint.Broadcast
import ControlEndpoint.Clocked
import ControlEndpoint.Drive

/-!
# Responders

A responder answers the requests it knows.  It is any clocked part that reads the broadcasts of
an endpoint and shows what it drives.  A responder that does not own the request of the moment
keeps idle.

Responders of several kinds attach to one endpoint through a type that has a constructor for
each kind.
-/

namespace ControlEndpoint

universe u

/-- States that answer the broadcasts of an endpoint. -/
abbrev Responder (σ : Type u) := Clocked σ Broadcast Drive

end ControlEndpoint
