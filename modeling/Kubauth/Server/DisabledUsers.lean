import Kubauth.Server.Login
import Kubauth.Server.Token
import Kubauth.Server.UpstreamPrincipal

/-!
# Disabled users

A user may be disabled in the local directory, which should close every way
in.  The login form and the password grant go through `Authenticate`, which
returns no user then.  The callback of an upstream goes through `Identify`,
which returns the user beside a status, and drops the status.
-/

namespace Kubauth

namespace Server

namespace OidcServer

end OidcServer

end Server

end Kubauth
