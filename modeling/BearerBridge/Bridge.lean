/-
# A bridge from its settings

The same policy issues and validates, and the handshake is the one of the trusted proxies.
-/
import BearerBridge.Routes
import BearerBridge.Settings

namespace BearerBridge.Settings

/-- The handshake of the trusted proxies. -/
def proxy (s : Settings) : Proxy :=
  ⟨s.trustedProxies, s.proxyHeaders⟩

/-- The bridge that settings describe, with what writes its page of metrics. -/
def bridge (s : Settings) (exporter : Exporter) : Traced (Except Failure Routes) := do
  let issuer ← Issuer.ofPolicy s.policy
  Routes.build s.tokenPath issuer (Validator.ofPolicy s.policy) s.proxy.authenticate exporter

end BearerBridge.Settings
