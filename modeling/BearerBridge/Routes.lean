/-
# Routes

Every page is reached by its literal path.  The token page and the negotiated page stand behind
the handshake, the protected page behind a bearer token, and the others are open.  A guard runs
before the method is looked at; methods other than GET and HEAD are told what is allowed.

* `Routes.respond` : the response to a request, with what is reported on the way;
* `Routes.serve` : a sequence of requests.
-/
import BearerBridge.Guard
import BearerBridge.Issuer
import BearerBridge.Metrics
import BearerBridge.Refusal
import BearerBridge.Summary

namespace BearerBridge

/-! ## Pages -/

/-- The pages of the bridge. -/
inductive Page where
  | greeting
  | unprotected
  | protectedPage
  | negotiated
  | health
  | metrics
  | token
  deriving DecidableEq, Repr

/-- The pages whose paths are fixed. -/
def fixedPages : List (String × Page) :=
  [("/", .greeting), ("/unprotected", .unprotected), ("/protected", .protectedPage),
    ("/protected_negotiate", .negotiated), ("/health", .health), ("/metrics", .metrics)]

/-- A token page: where it is, who issues tokens, and who verifies the handshake. -/
structure TokenPage where
  path : String
  issuer : Issuer
  authenticator : Authenticator

/-- The text of the page at the root. -/
def greeting : String :=
  "Negotiated token bridge. Fetch a token from the token endpoint, then call /protected with it."

/-- Whether a text is an absolute path without the signs of patterns. -/
def isLiteralPath (path : String) : Bool :=
  path.toList.head? == some '/'
    && !path.toList.any (fun c => c == ':' || c == '*' || c == '\x7b' || c == '\x7d')

/-- Puts the token page at a path, behind the handshake. -/
def TokenPage.register (path : String) (issuer : Option Issuer)
    (authenticator : Option Authenticator) : Traced (Except Failure TokenPage) := do
  match issuer, authenticator with
  | none, _ => return .error (.configuration "token endpoint requires a token issuer")
  | _, none => return .error (.configuration "token endpoint requires a handshake authenticator")
  | some issuer, some authenticator =>
    if isLiteralPath path then
      Traced.event (.endpointRegistered path)
      return .ok ⟨path, issuer, authenticator⟩
    else
      return .error
        (.configuration ("token path must be an absolute literal path, got '" ++ path ++ "'"))

/-- The bridge with all its pages. -/
structure Routes where
  tokenPage : TokenPage
  validator : Validator
  /-- What writes the page of metrics. -/
  exporter : Exporter

/-- When a request is answered: the instant, and how many microseconds issuing takes. -/
structure Moment where
  now : Int64
  micros : Nat
  deriving DecidableEq, Repr

namespace Routes

/-- The bridge with its token page at a path, unless another page has it. -/
def build (path : String) (issuer : Issuer) (validator : Validator)
    (authenticator : Authenticator) (exporter : Exporter) :
    Traced (Except Failure Routes) := do
  if fixedPages.any (·.1 == path) then
    return .error (.configuration ("token path '" ++ path ++ "' collides with a built-in route"))
  match ← TokenPage.register path (some issuer) (some authenticator) with
  | .error f => return .error f
  | .ok page => return .ok ⟨page, validator, exporter⟩

/-- The page at a path. -/
def page? (routes : Routes) (path : String) : Option Page :=
  match fixedPages.find? (·.1 == path) with
  | some (_, page) => some page
  | none => if path = routes.tokenPage.path then some .token else none

/-- Whether a method reads a page. -/
def reads (r : Http.Request) : Bool := r.method == "GET" || r.method == "HEAD"

/-- The response of a page that is read, unless the method does not read it. -/
def whenRead (r : Http.Request) (answer : Traced Http.Response) : Traced Http.Response :=
  if reads r then answer else return .empty 405

/-- The token page, for a client that passed the handshake. -/
def issueResponse (routes : Routes) (moment : Moment) (p : Principal) :
    Traced Http.Response := do
  match ← routes.tokenPage.issuer.issue p moment.now moment.micros with
  | .ok token => return (Http.Response.plain 200 token).withHeader "cache-control" "no-store"
  | .error f => return f.response

/-- What a page answers, its guard included. -/
def pageResponse (routes : Routes) (recorded : List Measurement) (moment : Moment)
    (r : Http.Request) : Page → Traced Http.Response
  | .greeting => whenRead r (pure (.plain 200 greeting))
  | .unprotected => whenRead r (pure (.json 200 (summaryMembers r none false)))
  | .health => whenRead r (pure (.plain 200 "OK"))
  | .metrics => whenRead r (pure (.plain 200 (routes.exporter recorded)))
  | .protectedPage => do
    match ← admitBearer routes.validator moment.now r with
    | .error f => return f.response
    | .ok i => whenRead r (pure (summary r i.client))
  | .negotiated => do
    match ← admitHandshake routes.tokenPage.authenticator r with
    | .error f => return f.response
    | .ok p => whenRead r (pure (summary r p.client))
  | .token => do
    match ← admitHandshake routes.tokenPage.authenticator r with
    | .error f => return f.response
    | .ok p => whenRead r (routes.issueResponse moment p)

/-- A response as a method gets it: without its body, or with the methods that are allowed. -/
def forMethod (r : Http.Request) (response : Http.Response) : Http.Response :=
  if r.method = "HEAD" then response.withoutBody
  else if reads r then response
  else response.withHeader "allow" "GET,HEAD"

/-- **The response to a request**, when `recorded` was measured before. -/
def respond (routes : Routes) (recorded : List Measurement) (moment : Moment)
    (r : Http.Request) : Traced Http.Response :=
  match routes.page? r.target.path with
  | none => return .empty 404
  | some page => (forMethod r ·) <$> routes.pageResponse recorded moment r page

/-- The responses to a sequence of requests. -/
def serve (routes : Routes) (recorded : List Measurement) :
    List (Moment × Http.Request) → Traced (List Http.Response)
  | [] => return []
  | (moment, r) :: rest => do
    let first := routes.respond recorded moment r
    let response ← first
    let responses ← routes.serve (recorded ++ first.measurements) rest
    return response :: responses

end Routes

end BearerBridge
