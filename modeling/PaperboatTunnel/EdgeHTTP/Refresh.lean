import PaperboatTunnel.ConnectorProtocol.Ingress
import PaperboatTunnel.Lib.Renewal
import PaperboatTunnel.Route.Generations

/-!
# `Refresh` — how long a request and a TCP connection are authorized

The loops that keep a decision of the ingress authority fresh: that of `BrowserAccess.authorize` for one request, and
that of `bridgePublicTCP` for one connection. The request counts the lifetime of a decision from the moment it asked;
the bridge compares with the time at which the decision expires.
-/

namespace PaperboatTunnel.EdgeHTTP

open GoTime ConnectorProtocol Renewal TransitionSystem Bool

variable (lib : AddressLib)

variable {lib : AddressLib}

end PaperboatTunnel.EdgeHTTP
