/-
# What the pages answer

A request comes to a page by its path, and then to the guard of the page.  Who gets past the guard
and reads is answered by the page; everybody else is told why not, and never with success.

* `build_eq_ok_iff` : which paths a token page may have;
* `page?_of_build` : the page at that path;
* `status_response_ne` : a failure is not answered with success;
* `respond_protectedPage`, `respond_negotiated` : the summaries for whom the guards let in;
* `respond_token`, `issue_of_respond_token` : what the token page answers, and what it answers with
  success.
-/
import BearerBridge.Proofs.Bearer
import BearerBridge.Proofs.Shaping
import BearerBridge.Routes

namespace BearerBridge

/-! ## Requests for other pages -/

/-- A request with what it carries, for some page instead of what it asks for. -/
def Http.Request.get (r : Request) (path : String) (query : Option String) : Request :=
  { r with method := "GET", target := ⟨path, query⟩ }

/-- What a proxy asserts has nothing to do with the page asked for. -/
theorem Proxy.authenticate_get (proxy : Proxy) (r : Http.Request) (path : String)
    (query : Option String) : proxy.authenticate (r.get path query) = proxy.authenticate r :=
  rfl

/-! ## Failures -/

/-- The two tables of statuses agree. -/
theorem Failure.answerStatus_eq_status (f : Failure) : f.answerStatus = f.status := by
  cases f <;> rfl

theorem Failure.status_response (f : Failure) : f.response.status = f.status := by
  rw [response, answerStatus_eq_status]
  split <;> rfl

/-- A failure is not answered with success. -/
theorem Failure.status_response_ne (f : Failure) : f.response.status ≠ 200 := by
  rw [status_response]
  cases f <;> simp [status]

/-- What the client is told, as it stands in the body of the response. -/
def Failure.told (f : Failure) : List (String × Json.Value) :=
  [("code", .text f.code), ("message", .text f.clientMessage)]

theorem Failure.body_response (f : Failure) :
    f.response.body = String.ofList (Json.objectChars [("error", .object f.told)]) := by
  rw [response]
  split <;> rfl

/-! ## Guards -/

/-- The guard of the handshake lets in whom the authenticator verified. -/
theorem value_admitHandshake_iff {authenticator : Authenticator} {r : Http.Request}
    {p : Principal} :
    (admitHandshake authenticator r).value = .ok p ↔ (authenticator r).value = .ok (some p) := by
  rw [admitHandshake]
  simp only [Traced.value_bind]
  rcases (authenticator r).value with f | _ | p' <;> simp

namespace Routes

variable {path : String} {issuer : Issuer} {validator : Validator} {authenticator : Authenticator}
  {exporter : Exporter} {routes : Routes} {recorded : List Measurement} {moment : Moment}
  {r : Http.Request} {query : Option String}

/-! ## Paths -/

/-- Which paths a token page may have: absolute ones without the signs of patterns that are not
the path of another page. -/
theorem build_eq_ok_iff :
    (build path issuer validator authenticator exporter).value = .ok routes
      ↔ fixedPages.any (·.1 == path) = false ∧ isLiteralPath path = true
        ∧ routes = ⟨⟨path, issuer, authenticator⟩, validator, exporter⟩ := by
  rw [build]
  cases fixedPages.any (·.1 == path) with
  | true => simp
  | false =>
    simp only [Bool.false_eq_true, if_false, Traced.value_bind, TokenPage.register]
    cases isLiteralPath path <;> simp [eq_comm]

/-- The token page is found at its path, as no other page is there. -/
theorem page?_of_build
    (h : (build path issuer validator authenticator exporter).value = .ok routes) :
    routes.page? path = some .token := by
  obtain ⟨hfree, -, rfl⟩ := build_eq_ok_iff.1 h
  have hnone : fixedPages.find? (·.1 == path) = none := by
    rw [List.find?_eq_none]
    exact fun x hx he => List.any_eq_false.1 hfree x hx he
  rw [page?, hnone]
  exact if_pos rfl

/-- What is asked for with GET is answered by the page at its path. -/
theorem respond_get {page : Page} (h : routes.page? path = some page) :
    (routes.respond recorded moment (r.get path query)).value
      = (routes.pageResponse recorded moment (r.get path query) page).value := by
  rw [respond, show (r.get path query).target.path = path from rfl, h]
  rfl

theorem whenRead_get (answer : Traced Http.Response) :
    whenRead (r.get path query) answer = answer :=
  rfl

/-! ## Summaries -/

/-- A query that does not repeat the parameter gets a summary. -/
theorem summary_get {client : Client} {keep : Bool} (h : keepGroups? query = some keep) :
    summary (r.get path query) client
      = .json 200 (summaryMembers (r.get path query) (some client) keep) := by
  rw [summary, show (r.get path query).target.query = query from rfl, h]

/-- The summary for whom the validator takes the bearer of a token for. -/
theorem respond_protectedPage {i : Identity}
    (h : (admitBearer routes.validator moment.now r).value = .ok i) {keep : Bool}
    (hkeep : keepGroups? query = some keep) :
    (routes.respond recorded moment (r.get "/protected" query)).value
      = .json 200 (summaryMembers (r.get "/protected" query) (some i.client) keep) := by
  have hadmit : (admitBearer routes.validator moment.now (r.get "/protected" query)).value
      = .ok i := h
  rw [respond_get rfl, pageResponse, Traced.value_bind, hadmit]
  dsimp only
  rw [whenRead_get, Traced.value_pure, summary_get hkeep]

/-- The summary for whom the handshake verified. -/
theorem respond_negotiated {p : Principal}
    (h : (routes.tokenPage.authenticator (r.get "/protected_negotiate" query)).value
      = .ok (some p)) {keep : Bool} (hkeep : keepGroups? query = some keep) :
    (routes.respond recorded moment (r.get "/protected_negotiate" query)).value
      = .json 200
        (summaryMembers (r.get "/protected_negotiate" query) (some p.client) keep) := by
  rw [respond_get rfl, pageResponse, Traced.value_bind, value_admitHandshake_iff.2 h]
  dsimp only
  rw [whenRead_get, Traced.value_pure, summary_get hkeep]

/-! ## Tokens -/

/-- **What the token page answers** to whom the handshake verified: the token that is issued, or why
none is. -/
theorem respond_token {p : Principal} (hpage : routes.page? path = some .token)
    (h : (routes.tokenPage.authenticator (r.get path query)).value = .ok (some p)) :
    (routes.respond recorded moment (r.get path query)).value
      = match (routes.tokenPage.issuer.issue p moment.now moment.micros).value with
        | .ok token => (Http.Response.plain 200 token).withHeader "cache-control" "no-store"
        | .error f => f.response := by
  rw [respond_get hpage, pageResponse, Traced.value_bind, value_admitHandshake_iff.2 h]
  dsimp only
  rw [whenRead_get, issueResponse, Traced.value_bind]
  cases (routes.tokenPage.issuer.issue p moment.now moment.micros).value <;> rfl

/-- What the token page answers with success is a token. -/
theorem issue_of_respond_token {p : Principal} {response : Http.Response}
    (hpage : routes.page? path = some .token)
    (h : (routes.tokenPage.authenticator (r.get path query)).value = .ok (some p))
    (hresponse : (routes.respond recorded moment (r.get path query)).value = response)
    (hstatus : response.status = 200) :
    (routes.tokenPage.issuer.issue p moment.now moment.micros).value = .ok response.body := by
  rw [respond_token hpage h] at hresponse
  cases hissue : (routes.tokenPage.issuer.issue p moment.now moment.micros).value with
  | ok token =>
    rw [hissue] at hresponse
    rw [← hresponse]
    rfl
  | error f =>
    rw [hissue] at hresponse
    rw [← hresponse] at hstatus
    exact absurd hstatus f.status_response_ne

end Routes

end BearerBridge
