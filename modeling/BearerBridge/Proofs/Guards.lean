/-
# Who is asked about a request

A guard decides about a request before its page does.  Two pages are behind the handshake, and for
each of their requests the guard asks the authenticator once; the page behind bearer tokens asks
the validator once for each token.  Nothing else that the bridge does asks anybody, so who is asked
can be read off the path of a request.

* `value_admitHandshake` : whom the handshake lets in, and why others are turned away;
* `Page.needsHandshake`, `needsHandshake_iff` : the pages behind the handshake, and their paths;
* `consultations_negotiated`, `consultations_protectedPage`, `consultations_open` : who is asked
  behind which page;
* `respond_of_refused` : whoever is turned away from a page behind the handshake is told why.
-/
import BearerBridge.Proofs.Pages
import BearerBridge.Proofs.Reports

namespace BearerBridge

/-! ## The handshake -/

/-- **Whom the handshake lets in**, and why others are turned away. -/
theorem value_admitHandshake (authenticator : Authenticator) (r : Http.Request) :
    (admitHandshake authenticator r).value = match (authenticator r).value with
      | .ok (some p) => .ok p
      | .ok none => .error .handshakeRequired
      | .error f => .error f := by
  rw [admitHandshake]
  simp only [Traced.value_bind]
  rcases (authenticator r).value with f | _ | p <;> rfl

/-- The status that a handshake is counted under. -/
def handshakeStatus : Except Failure (Option Principal) → String
  | .ok (some _) => "success"
  | .ok none => "challenged"
  | .error _ => "error"

/-- Each handshake is counted once, after whatever the authenticator counts. -/
theorem measurements_admitHandshake (authenticator : Authenticator) (r : Http.Request) :
    (admitHandshake authenticator r).measurements
      = (authenticator r).measurements
        ++ [.handshake (handshakeStatus (authenticator r).value)] := by
  rw [admitHandshake]
  simp only [Traced.measurements_bind, Traced.measurements_consult, List.nil_append]
  rcases (authenticator r).value with f | _ | p <;> simp [handshakeStatus]

/-- The guard asks the authenticator once, and nobody else but the authenticator asks more. -/
theorem consultations_admitHandshake (authenticator : Authenticator) (r : Http.Request)
    (c : Consultation) :
    (admitHandshake authenticator r).consultations c
      = (if .authenticator = c then 1 else 0) + (authenticator r).consultations c := by
  rw [admitHandshake]
  simp only [Traced.consultations_bind, Traced.consultations_consult]
  rcases (authenticator r).value with f | _ | p <;> simp

/-- A proxy asks nobody. -/
theorem Proxy.consultations_authenticate (proxy : Proxy) (r : Http.Request) (c : Consultation) :
    (proxy.authenticate r).consultations c = 0 :=
  (proxy.onlyLogs_authenticate r).consultations c

/-! ## Bearer tokens -/

theorem Validator.consultations_validate (v : Validator) (token : String) (now : Int64)
    (c : Consultation) : (v.validate token now).consultations c = 0 := by
  rw [validate, Traced.consultations_bind, (v.policy.onlyLogs_check token now).consultations]
  split <;> simp

/-- Whom the guard of bearer tokens lets in: whoever the validator accepts the token of. -/
theorem value_admitBearer_eq_ok_iff {v : Validator} {now : Int64} {r : Http.Request}
    {i : Identity} :
    (admitBearer v now r).value = .ok i
      ↔ ∃ token, (bearerToken r.headers).value = .ok token
        ∧ (v.validate token now).value = .ok i := by
  cases htoken : (bearerToken r.headers).value with
  | error f =>
    rw [admitBearer, Traced.value_bind, htoken]
    simp
  | ok token => simp [value_admitBearer htoken]

/-- The guard asks the validator when there is a token, and nobody else. -/
theorem consultations_admitBearer (v : Validator) (now : Int64) (r : Http.Request)
    (c : Consultation) :
    (admitBearer v now r).consultations c
      = if (bearerToken r.headers).value.isOk ∧ .validator = c then 1 else 0 := by
  rw [admitBearer, Traced.consultations_bind, (onlyLogs_bearerToken r.headers).consultations]
  cases (bearerToken r.headers).value with
  | error f => simp [Except.isOk, Except.toBool]
  | ok token => simp [Except.isOk, Except.toBool, Validator.consultations_validate]

theorem Issuer.consultations_issue (issuer : Issuer) (p : Principal) (now : Int64) (micros : Nat)
    (c : Consultation) : (issuer.issue p now micros).consultations c = 0 := by
  rw [issue, Traced.consultations_bind, (issuer.onlyLogs_encode p now).consultations]
  cases (issuer.encode p now).value <;> simp

/-! ## Pages -/

/-- The pages behind the handshake. -/
def Page.needsHandshake : Page → Bool
  | token => true
  | negotiated => true
  | _ => false

namespace Routes

variable {path : String} {issuer : Issuer} {validator : Validator} {authenticator : Authenticator}
  {exporter : Exporter} {routes : Routes} {recorded : List Measurement} {moment : Moment}
  {r : Http.Request} {page : Page}

/-- Which page is found at which of the fixed paths. -/
theorem page?_eq_some_iff (hpage : page ≠ .token) :
    routes.page? path = some page ↔ (path, page) ∈ fixedPages := by
  constructor
  · intro h
    rw [page?] at h
    split at h
    · next fixed found hfound =>
      obtain rfl := Option.some.inj h
      have hpath := List.find?_some hfound
      obtain rfl : fixed = path := eq_of_beq hpath
      exact List.mem_of_find?_eq_some hfound
    · split at h
      · exact absurd (Option.some.inj h).symm hpage
      · exact absurd h (by simp)
  · intro h
    simp only [fixedPages, List.mem_cons, Prod.mk.injEq, List.not_mem_nil, or_false] at h
    rcases h with ⟨rfl, rfl⟩ | ⟨rfl, rfl⟩ | ⟨rfl, rfl⟩ | ⟨rfl, rfl⟩ | ⟨rfl, rfl⟩ | ⟨rfl, rfl⟩ <;> rfl

/-- The token page is found at its path only. -/
theorem eq_path_of_page? {asked : String} (h : routes.page? asked = some .token) :
    asked = routes.tokenPage.path := by
  rw [page?] at h
  split at h
  · next fixed found hfound =>
    obtain rfl := Option.some.inj h
    have hmem := List.mem_of_find?_eq_some hfound
    exact absurd hmem (by simp [fixedPages])
  · split at h
    · next he => exact he
    · exact absurd h (by simp)

theorem page?_eq_token_iff
    (hbuild : (build path issuer validator authenticator exporter).value = .ok routes)
    {asked : String} :
    routes.page? asked = some .token ↔ asked = path := by
  constructor
  · intro h
    obtain ⟨-, -, rfl⟩ := build_eq_ok_iff.1 hbuild
    exact eq_path_of_page? h
  · rintro rfl
    exact page?_of_build hbuild

/-- The page of the protected summary is found at its path only. -/
theorem page?_eq_protectedPage_iff {asked : String} :
    routes.page? asked = some .protectedPage ↔ asked = "/protected" := by
  rw [page?_eq_some_iff (by decide)]
  simp [fixedPages]

/-- The page of the negotiated summary is found at its path only. -/
theorem page?_eq_negotiated_iff {asked : String} :
    routes.page? asked = some .negotiated ↔ asked = "/protected_negotiate" := by
  rw [page?_eq_some_iff (by decide)]
  simp [fixedPages]

/-- The paths behind the handshake are the one of the token page and that of the negotiated
summary. -/
theorem needsHandshake_iff
    (hbuild : (build path issuer validator authenticator exporter).value = .ok routes)
    {asked : String} :
    (∃ page, routes.page? asked = some page ∧ page.needsHandshake = true)
      ↔ asked ∈ [path, "/protected_negotiate"] := by
  rw [List.mem_pair]
  constructor
  · rintro ⟨page, hpage, hneeds⟩
    cases page with
    | token => exact .inl ((page?_eq_token_iff hbuild).1 hpage)
    | negotiated => exact .inr (page?_eq_negotiated_iff.1 hpage)
    | _ => exact absurd hneeds (by decide)
  · rintro (h | h)
    · exact ⟨.token, (page?_eq_token_iff hbuild).2 h, rfl⟩
    · exact ⟨.negotiated, page?_eq_negotiated_iff.2 h, rfl⟩

/-- What is asked for is answered by the page at its path. -/
theorem respond_of_page (h : routes.page? r.target.path = some page) :
    routes.respond recorded moment r
      = (forMethod r ·) <$> routes.pageResponse recorded moment r page := by
  rw [respond, h]

/-- Where no page is, nobody is asked. -/
theorem respond_of_no_page (h : routes.page? r.target.path = none) :
    routes.respond recorded moment r = pure (.empty 404) := by
  rw [respond, h]

/-! ## Who is asked -/

theorem consultations_whenRead {answer : Traced Http.Response} {c : Consultation}
    (h : answer.consultations c = 0) : (whenRead r answer).consultations c = 0 := by
  rw [whenRead]
  split
  · exact h
  · rfl

theorem consultations_issueResponse (p : Principal) (c : Consultation) :
    (routes.issueResponse moment p).consultations c = 0 := by
  rw [issueResponse, Traced.consultations_bind, Issuer.consultations_issue]
  cases (routes.tokenPage.issuer.issue p moment.now moment.micros).value <;> rfl

/-- **Behind the handshake the authenticator is asked once**, and nobody but the authenticator asks
more. -/
theorem consultations_negotiated (hpage : routes.page? r.target.path = some page)
    (hneeds : page.needsHandshake = true) (c : Consultation) :
    (routes.respond recorded moment r).consultations c
      = (if .authenticator = c then 1 else 0)
        + (routes.tokenPage.authenticator r).consultations c := by
  rw [respond_of_page hpage, Traced.consultations_map]
  cases page with
  | negotiated =>
    rw [pageResponse, Traced.consultations_bind, consultations_admitHandshake]
    cases (admitHandshake routes.tokenPage.authenticator r).value with
    | error f => rfl
    | ok p => rw [consultations_whenRead (Traced.consultations_pure _ c), Nat.add_zero]
  | token =>
    rw [pageResponse, Traced.consultations_bind, consultations_admitHandshake]
    cases (admitHandshake routes.tokenPage.authenticator r).value with
    | error f => rfl
    | ok p => rw [consultations_whenRead (consultations_issueResponse ..), Nat.add_zero]
  | _ => exact absurd hneeds (by decide)

/-- **Behind bearer tokens the validator is asked once for each token**, and nobody else. -/
theorem consultations_protectedPage (hpage : routes.page? r.target.path = some .protectedPage)
    (c : Consultation) :
    (routes.respond recorded moment r).consultations c
      = if (bearerToken r.headers).value.isOk ∧ .validator = c then 1 else 0 := by
  rw [respond_of_page hpage, Traced.consultations_map, pageResponse, Traced.consultations_bind,
    consultations_admitBearer]
  cases (admitBearer routes.validator moment.now r).value with
  | error f => rfl
  | ok i => rw [consultations_whenRead (Traced.consultations_pure _ c), Nat.add_zero]

/-- **At every other path nobody is asked.** -/
theorem consultations_open (hneeds : ∀ page, routes.page? r.target.path = some page →
      page.needsHandshake = false ∧ page ≠ .protectedPage) (c : Consultation) :
    (routes.respond recorded moment r).consultations c = 0 := by
  cases hpage : routes.page? r.target.path with
  | none => rw [respond_of_no_page hpage, Traced.consultations_pure]
  | some page =>
    obtain ⟨hopen, hother⟩ := hneeds page hpage
    rw [respond_of_page hpage, Traced.consultations_map]
    cases page with
    | protectedPage => exact absurd rfl hother
    | negotiated => exact absurd hopen (by decide)
    | token => exact absurd hopen (by decide)
    | _ =>
      rw [pageResponse]
      exact consultations_whenRead (Traced.consultations_pure _ c)

/-! ## Who is turned away -/

/-- **Whoever is turned away from a page behind the handshake is told why.** -/
theorem respond_of_refused (hpage : routes.page? r.target.path = some page)
    (hneeds : page.needsHandshake = true) {f : Failure}
    (h : (admitHandshake routes.tokenPage.authenticator r).value = .error f) :
    (routes.respond recorded moment r).value = forMethod r f.response := by
  rw [respond_of_page hpage, Traced.value_map]
  cases page with
  | negotiated => rw [pageResponse, Traced.value_bind, h, Traced.value_pure]
  | token => rw [pageResponse, Traced.value_bind, h, Traced.value_pure]
  | _ => exact absurd hneeds (by decide)

end Routes

end BearerBridge
