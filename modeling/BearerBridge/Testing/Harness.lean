/-
# A bridge with a client in front

For tests, a bridge and a client of it in one piece: the client gets its tokens from the bridge's
token page and sends its requests to the bridge's other pages.

* `Harness.send` : a request as it is;
* `Harness.execute` : a request with a credential from the cache.
-/
import BearerBridge.Client.Location
import BearerBridge.Client.Schedule
import BearerBridge.Routes

namespace BearerBridge

/-- A bridge, and what its client is set up with. -/
structure Harness where
  routes : Routes
  /-- The root of the bridge. -/
  root : Url
  location : Location
  /-- What the client adds to requests for a token. -/
  handshakeHeaders : Http.Headers
  /-- The version of all other requests; a token is requested with version 1.1. -/
  version : Http.Version
  cache : CredentialCache

namespace Harness

/-- The routes of a bridge for tests, whose handshake takes a header's word for it and whose
numbers nobody collects. -/
def routesOf (policy : Policy) (tokenPath : String) : Traced (Except String Routes) := do
  let issuer ← Issuer.ofPolicy policy
  match ← Routes.build tokenPath issuer (Validator.ofPolicy policy) TestHandshake.authenticate
    .detached with
  | .ok routes => return .ok routes
  | .error f => return .error ("Failed to build routes: " ++ f.message)

/-- Whether a URL belongs to the bridge. -/
def owns (h : Harness) (url : Url) : Bool :=
  url.scheme == h.root.scheme && url.host == h.root.host && url.port == h.root.port

/-- The response of the bridge to a request for a URL. -/
def get (h : Harness) (moment : Moment) (recorded : List Measurement) (version : Http.Version)
    (url : Url) (headers : Http.Headers) : Traced (Except String Http.Response) := do
  if h.owns url then
    let target : Http.Target := ⟨Url.pathText url.path, url.query⟩
    return .ok (← h.routes.respond recorded moment ⟨"GET", target, version, headers, none⟩)
  else return .error "the server cannot be reached"

/-- The token that the client gets for a request to some target. -/
def obtainToken (h : Harness) (moment : Moment) (recorded : List Measurement) (target : Url) :
    Traced (Except ClientFault String) := do
  match h.location.resolve target with
  | .error f => return .error f
  | .ok url =>
    let answer ← h.get moment recorded .v11 url h.handshakeHeaders
    let page := answer.map (fun r => (r.status, Utf8.ofString r.body))
    return h.location.fetch (fun _ => page) target

/-- A request as it is. -/
def send (h : Harness) (moment : Moment) (recorded : List Measurement) (url : Url)
    (headers : Http.Headers) : Traced (Except ClientFault Http.Response) := do
  return (← h.get moment recorded h.version url headers).mapError .requestFailed

/-- The cache after a call at the moment, and the outcome of the call. -/
def obtain (h : Harness) (moment : Moment) (recorded : List Measurement) (target : Url) :
    Traced (CredentialCache × Except ClientFault Credential) := do
  let replies ←
    if h.cache.isExpired moment.now then
      (fun token => [⟨0, token⟩]) <$> h.obtainToken moment recorded target
    else pure []
  let (w, outcomes) :=
    Schedule.concurrent ⟨h.cache, replies, .exhausted⟩ [.arrive target moment.now true]
  return (w.cache, outcomes.head?.getD (.error (.requestFailed "no outcome")))

/-- **A request with a credential from the cache.** -/
def execute (h : Harness) (moment : Moment) (recorded : List Measurement) (url : Url)
    (headers : Http.Headers) : Traced (Harness × Except ClientFault Http.Response) := do
  let (cache, outcome) ← h.obtain moment recorded url
  let h := { h with cache }
  match outcome with
  | .error f => return (h, .error f)
  | .ok c => return (h, ← h.send moment recorded url (c.attach headers))

end Harness

end BearerBridge
