/-
# The counters account for all requests

Every request that is behind a guard is counted once, whatever comes of it: at the handshake, at the
issuer when the handshake lets it in to the token page, and at the validator when it brings a bearer
token.  So after each of a sequence of requests the counters add up to the numbers of requests of
these kinds, and those for validations tell apart why tokens were rejected.

* `measured` : what is measured about a request, read off the request;
* `measurements_respond`, `measurements_answers` : nothing else is measured about one request, and
  about a sequence of them;
* `Conserved` : what the counters add up to;
* `conserved_answers` : they do so after each request.
-/
import BearerBridge.Proofs.Reports
import BearerBridge.Proofs.Counting
import BearerBridge.Proofs.Separation

namespace BearerBridge

/-! ## Validations -/

/-- Each bearer token is counted once, with what comes of it before any hooks. -/
theorem measurements_admitBearer (v : Validator) (now : Int64) (r : Http.Request) :
    (admitBearer v now r).measurements
      = ((bearerToken r.headers).value.toOption.map
          fun token => Validator.measurement (v.policy.identify token now)).toList := by
  rw [admitBearer, Traced.measurements_bind, (onlyLogs_bearerToken r.headers).measurements,
    List.nil_append]
  cases (bearerToken r.headers).value with
  | error f => rfl
  | ok token =>
    dsimp only
    rw [Traced.measurements_bind, Validator.measurements_validate]
    rfl

/-- Different reasons have different labels. -/
theorem Rejection.label_inj {why other : Rejection} : why.label = other.label ↔ why = other := by
  cases why <;> cases other <;> decide

/-- No reason has the label that stands for none. -/
theorem Rejection.label_ne_none (why : Rejection) : why.label ≠ "none" := by
  cases why <;> decide

namespace Routes

variable {path : String} {issuer : Issuer} {validator : Validator} {authenticator : Authenticator}
  {exporter : Exporter} {routes : Routes} {recorded : List Measurement} {moment : Moment}
  {r : Http.Request}
  {x : Moment × Http.Request}

/-! ## One request -/

/-- What the authenticator says to a request for a page behind the handshake. -/
def handshake? (path : String) (authenticator : Authenticator) (x : Moment × Http.Request) :
    Option (Except Failure (Option Principal)) :=
  if x.2.target.path ∈ [path, "/protected_negotiate"] then some (authenticator x.2).value
  else none

/-- How issuing goes for a request that the handshake lets in to the token page. -/
def issuance? (path : String) (issuer : Issuer) (authenticator : Authenticator)
    (x : Moment × Http.Request) : Option (Except Failure String) :=
  if x.2.target.path = path then
    (admitHandshake authenticator x.2).value.toOption.map
      fun p => (issuer.issue p x.1.now x.1.micros).value
  else none

/-- What comes of the bearer token of a request for the page behind such tokens, if there is one. -/
def validation? (validator : Validator) (x : Moment × Http.Request) :
    Option (Except Rejection Identity) :=
  if x.2.target.path = "/protected" then
    (bearerToken x.2.headers).value.toOption.map (validator.policy.identify · x.1.now)
  else none

theorem isSome_handshake? :
    (handshake? path authenticator x).isSome
      = decide (x.2.target.path ∈ [path, "/protected_negotiate"]) := by
  rw [handshake?]
  split <;> simp [*]

theorem isSome_issuance? :
    (issuance? path issuer authenticator x).isSome
      = decide (x.2.target.path = path ∧ (admitHandshake authenticator x.2).value.isOk) := by
  rw [issuance?]
  split <;> cases (admitHandshake authenticator x.2).value
    <;> simp [*, Except.isOk, Except.toBool, Except.toOption]

theorem isSome_validation? :
    (validation? validator x).isSome
      = decide (x.2.target.path = "/protected" ∧ (bearerToken x.2.headers).value.isOk) := by
  rw [validation?]
  split <;> cases (bearerToken x.2.headers).value
    <;> simp [*, Except.isOk, Except.toBool, Except.toOption]

/-- What is measured about a request: its handshake, its issuance and its validation, as far as
there are any. -/
def measured (path : String) (issuer : Issuer) (validator : Validator)
    (authenticator : Authenticator) (x : Moment × Http.Request) : List Measurement :=
  ((handshake? path authenticator x).map fun result => .handshake (handshakeStatus result)).toList
    ++ ((issuance? path issuer authenticator x).map
      fun result => .issuance (Issuer.status result) x.1.micros).toList
    ++ ((validation? validator x).map Validator.measurement).toList

theorem measurements_whenRead (hread : reads r = true) (answer : Traced Http.Response) :
    (whenRead r answer).measurements = answer.measurements := by
  rw [whenRead, if_pos hread]

theorem measurements_issueResponse (routes : Routes) (moment : Moment) (p : Principal) :
    (routes.issueResponse moment p).measurements
      = [.issuance (Issuer.status
          (routes.tokenPage.issuer.issue p moment.now moment.micros).value) moment.micros] := by
  rw [issueResponse, Traced.measurements_bind, Issuer.measurements_issue]
  cases (routes.tokenPage.issuer.issue p moment.now moment.micros).value <;> rfl

/-- **What is measured about one request** that reads a page, whatever was measured before. -/
theorem measurements_respond
    (hbuild : (build path issuer validator authenticator exporter).value = .ok routes)
    (hquiet : ∀ r, (authenticator r).measurements = []) (hread : reads x.2 = true) :
    (routes.respond recorded x.1 x.2).measurements
      = measured path issuer validator authenticator x := by
  have htoken : routes.page? x.2.target.path = some .token ↔ x.2.target.path = path :=
    page?_eq_token_iff hbuild
  have hnegotiated : routes.page? x.2.target.path = some .negotiated
      ↔ x.2.target.path = "/protected_negotiate" := page?_eq_negotiated_iff
  have hprotected : routes.page? x.2.target.path = some .protectedPage
      ↔ x.2.target.path = "/protected" := page?_eq_protectedPage_iff
  obtain ⟨-, -, rfl⟩ := build_eq_ok_iff.1 hbuild
  rw [measured, handshake?, issuance?, validation?]
  simp only [List.mem_pair, ← htoken, ← hnegotiated, ← hprotected]
  cases hpage : page? ⟨⟨path, issuer, authenticator⟩, validator, exporter⟩ x.2.target.path with
  | none =>
    rw [respond_of_no_page hpage]
    simp
  | some page =>
    rw [respond_of_page hpage, Traced.measurements_map]
    cases page with
    | token =>
      rw [pageResponse, Traced.measurements_bind, measurements_admitHandshake, hquiet]
      cases (admitHandshake authenticator x.2).value with
      | error f => simp [Except.toOption]
      | ok p => simp [Except.toOption, measurements_whenRead hread, measurements_issueResponse]
    | negotiated =>
      rw [pageResponse, Traced.measurements_bind, measurements_admitHandshake, hquiet]
      cases (admitHandshake authenticator x.2).value with
      | error f => simp
      | ok p => simp [measurements_whenRead hread]
    | protectedPage =>
      rw [pageResponse, Traced.measurements_bind, measurements_admitBearer]
      cases (admitBearer validator x.1.now x.2).value with
      | error f => simp [Function.comp_def]
      | ok i => simp [Function.comp_def, measurements_whenRead hread]
    | _ => simp [pageResponse, measurements_whenRead hread]

/-! ## Sequences of requests -/

/-- The answers to the first requests are the first answers. -/
theorem take_answers (routes : Routes) (recorded : List Measurement)
    (requests : List (Moment × Http.Request)) (n : Nat) :
    (routes.answers recorded requests).take n = routes.answers recorded (requests.take n) := by
  induction requests generalizing recorded n with
  | nil => rw [answers, List.take_nil, List.take_nil, answers]
  | cons x rest ih =>
    cases n with
    | zero => rfl
    | succ n => rw [answers, List.take_succ_cons, List.take_succ_cons, answers, ih]

/-- **What is measured about a sequence of requests** is what is measured about each. -/
theorem measurements_answers
    (hbuild : (build path issuer validator authenticator exporter).value = .ok routes)
    (hquiet : ∀ r, (authenticator r).measurements = [])
    {requests : List (Moment × Http.Request)} (hreads : ∀ x ∈ requests, reads x.2 = true) :
    (routes.answers recorded requests).flatMap Traced.measurements
      = requests.flatMap (measured path issuer validator authenticator) := by
  induction requests generalizing recorded with
  | nil => rfl
  | cons x rest ih =>
    obtain ⟨hread, hrest⟩ := List.forall_mem_cons.1 hreads
    rw [answers, List.flatMap_cons, List.flatMap_cons, measurements_respond hbuild hquiet hread,
      ih hrest]

/-! ## Series -/

/-- The series of a name whose only label is a status. -/
def statusSeries (name status : String) : Series :=
  ⟨name, [("status", status)]⟩

@[simp] theorem name_statusSeries (name status : String) : (statusSeries name status).name = name :=
  rfl

@[simp] theorem statusSeries_beq (name status other : String) :
    (statusSeries name status == statusSeries name other) = (status == other) := by
  simp [statusSeries, Bool.beq_eq_decide_eq]

/-- The series of handshakes that ended in some way. -/
abbrev handshakeSeries : String → Series := statusSeries "bridge_handshake_total"

/-- The series of issuances that ended in some way. -/
abbrev issuanceSeries : String → Series := statusSeries "bridge_token_issuance_total"

/-- The series of how many durations are known of such issuances. -/
abbrev durationSeries : String → Series :=
  statusSeries "bridge_token_issuance_duration_seconds_count"

/-- The series of validations with a status and a category. -/
def categorySeries (status category : String) : Series :=
  ⟨"bridge_token_validations_total", [("status", status), ("error_category", category)]⟩

@[simp] theorem name_categorySeries (status category : String) :
    (categorySeries status category).name = "bridge_token_validations_total" :=
  rfl

/-- The series of validations that accepted a token. -/
abbrev acceptedSeries : Series := categorySeries "success" "none"

/-- The series of validations that rejected a token for some reason. -/
abbrev rejectedSeries (why : Rejection) : Series := categorySeries "error" why.label

/-- The series of validations with some outcome. -/
def validationSeries : Except Rejection Identity → Series
  | .ok _ => acceptedSeries
  | .error why => rejectedSeries why

@[simp] theorem name_validationSeries (result : Except Rejection Identity) :
    (validationSeries result).name = "bridge_token_validations_total" := by
  cases result <;> rfl

/-- Whether a token is rejected for a reason. -/
def isRejectedFor (why : Rejection) : Except Rejection Identity → Bool
  | .ok _ => false
  | .error other => other = why

/-- The series of an outcome tells whether it is acceptance, and otherwise the reason. -/
@[simp] theorem validationSeries_beq_accepted (result : Except Rejection Identity) :
    (validationSeries result == acceptedSeries) = result.isOk := by
  cases result <;> simp [validationSeries, categorySeries, Except.isOk, Except.toBool,
    Bool.beq_eq_decide_eq]

@[simp] theorem validationSeries_beq_rejected (result : Except Rejection Identity)
    (why : Rejection) :
    (validationSeries result == rejectedSeries why) = isRejectedFor why result := by
  cases result <;> simp [validationSeries, categorySeries, isRejectedFor, Bool.beq_eq_decide_eq,
    Rejection.label_inj]

theorem series_measurement (result : Except Rejection Identity) :
    (Validator.measurement result).series = [validationSeries result] := by
  cases result <;> rfl

/-- Whatever raises a series of validations is one. -/
theorem eq_validationSeries_of_mem {m : Measurement} {s : Series}
    (hm : m ∈ measured path issuer validator authenticator x) (hs : s ∈ m.series)
    (hname : s.name = "bridge_token_validations_total") : ∃ result, s = validationSeries result := by
  rw [measured, List.append_assoc, List.mem_append, List.mem_append] at hm
  simp only [Option.mem_toList, Option.map_eq_some_iff] at hm
  rcases hm with ⟨result, -, rfl⟩ | ⟨result, -, rfl⟩ | ⟨result, -, rfl⟩
  · rw [List.mem_singleton.1 hs] at hname
    exact absurd hname (by simp [Measurement.counter])
  · have hnone : (Measurement.issuance (Issuer.status result) x.1.micros).series.countP
        (·.name == "bridge_token_validations_total") = 0 :=
      Measurement.countP_series_issuance (by simp) _ _
    exact absurd hname (by simpa using List.countP_eq_zero.1 hnone s hs)
  · rw [series_measurement, List.mem_singleton] at hs
    exact ⟨result, hs⟩

/-! ## Numbers of requests -/

section Totals

variable {test : Series → Bool}
  (hbuckets : ∀ labels, test ⟨"bridge_token_issuance_duration_seconds_bucket", labels⟩ = false)

include hbuckets

/-- What one request raises among the series that pass a test, buckets aside: something at the
handshake, something at the issuer, and something at the validator. -/
theorem countP_measured (x : Moment × Http.Request) :
    ((measured path issuer validator authenticator x).flatMap Measurement.series).countP test
      = (if (handshake? path authenticator x).any
          fun result => test (handshakeSeries (handshakeStatus result)) then 1 else 0)
        + (if (issuance? path issuer authenticator x).any
          fun result => test (issuanceSeries (Issuer.status result)) then 1 else 0)
        + (if (issuance? path issuer authenticator x).any
          fun result => test (durationSeries (Issuer.status result)) then 1 else 0)
        + if (validation? validator x).any
          fun result => test (validationSeries result) then 1 else 0 := by
  have hhandshake : ∀ status, (Measurement.handshake status).series = [handshakeSeries status] :=
    fun _ => rfl
  have hissuance : ∀ status micros, (Measurement.issuance status micros).series.countP test
      = (if test (issuanceSeries status) then 1 else 0)
        + if test (durationSeries status) then 1 else 0 :=
    Measurement.countP_series_issuance hbuckets
  rw [measured, List.flatMap_append, List.flatMap_append, List.countP_append, List.countP_append]
  cases handshake? path authenticator x <;> cases issuance? path issuer authenticator x
    <;> cases validation? validator x
    <;> simp [hhandshake, hissuance, series_measurement, Nat.add_assoc]

/-- **What the series that pass a test add up to**: the numbers of requests that raise one of them
at the handshake, at the issuer and at the validator. -/
theorem sumOf_measured (requests : List (Moment × Http.Request)) :
    sumOf test (growth (requests.flatMap (measured path issuer validator authenticator)))
      = (requests.countP fun x => (handshake? path authenticator x).any
          fun result => test (handshakeSeries (handshakeStatus result)))
        + (requests.countP fun x => (issuance? path issuer authenticator x).any
          fun result => test (issuanceSeries (Issuer.status result)))
        + (requests.countP fun x => (issuance? path issuer authenticator x).any
          fun result => test (durationSeries (Issuer.status result)))
        + requests.countP fun x => (validation? validator x).any
          fun result => test (validationSeries result) := by
  rw [sumOf_growth]
  induction requests with
  | nil => rfl
  | cons x rest ih =>
    rw [List.flatMap_cons, List.flatMap_append, List.countP_append, ih, countP_measured hbuckets]
    simp only [List.countP_cons]
    omega

end Totals

/-- **What the counters add up to** after some requests. -/
structure Conserved (path : String) (validator : Validator) (authenticator : Authenticator)
    (requests : List (Moment × Http.Request)) (ms : List Measurement) : Prop where
  /-- No series is listed twice. -/
  listed : ((growth ms).map (·.1)).Nodup
  /-- Handshakes are requests for a page behind the handshake. -/
  handshakes : sumOf (·.name == "bridge_handshake_total") (growth ms)
    = requests.countP fun x => x.2.target.path ∈ [path, "/protected_negotiate"]
  /-- Issuances are requests that the handshake lets in to the token page. -/
  issuances : sumOf (·.name == "bridge_token_issuance_total") (growth ms)
    = requests.countP fun x =>
      x.2.target.path = path ∧ (admitHandshake authenticator x.2).value.isOk
  /-- As many durations are known of either status as there are issuances. -/
  durations : ∀ status, sumOf (· == durationSeries status) (growth ms)
    = sumOf (· == issuanceSeries status) (growth ms)
  /-- Validations are requests that bring a bearer token to the page behind such tokens. -/
  validations : sumOf (·.name == "bridge_token_validations_total") (growth ms)
    = requests.countP fun x =>
      x.2.target.path = "/protected" ∧ (bearerToken x.2.headers).value.isOk
  /-- The validations that succeeded have no category, all others that of a rejection. -/
  categories : ∀ g ∈ growth ms, g.1.name = "bridge_token_validations_total" →
    g.1.labels = [("status", "success"), ("error_category", "none")]
      ∨ ∃ why : Rejection, why.label ≠ "none"
        ∧ g.1.labels = [("status", "error"), ("error_category", why.label)]
  /-- Those that succeeded are the requests whose token is accepted. -/
  accepted : sumOf (· == acceptedSeries) (growth ms)
    = requests.countP fun x => (validation? validator x).any Except.isOk
  /-- Those of each category are the requests whose token is rejected for that reason. -/
  rejected : ∀ why, sumOf (· == rejectedSeries why) (growth ms)
    = requests.countP fun x => (validation? validator x).any (isRejectedFor why)

/-- **What is measured about requests adds up**, whatever the authenticator. -/
theorem conserved_measured (path : String) (issuer : Issuer) (validator : Validator)
    (authenticator : Authenticator) (requests : List (Moment × Http.Request)) :
    Conserved path validator authenticator requests
      (requests.flatMap (measured path issuer validator authenticator)) where
  listed := nodup_growth _
  handshakes := by
    rw [sumOf_measured (by simp)]
    simp [isSome_handshake?]
  issuances := by
    rw [sumOf_measured (by simp)]
    simp [isSome_issuance?]
  durations := by
    intro status
    rw [sumOf_measured (by simp [Series.beq_of_name_ne]),
      sumOf_measured (by simp [Series.beq_of_name_ne])]
    simp [Series.beq_of_name_ne]
  validations := by
    rw [sumOf_measured (by simp)]
    simp [isSome_validation?]
  categories := by
    intro g hg hname
    obtain ⟨m, hm, hseries⟩ := mem_series_of_mem_growth hg
    obtain ⟨x, -, hx⟩ := List.mem_flatMap.1 hm
    obtain ⟨result, hresult⟩ := eq_validationSeries_of_mem hx hseries hname
    rw [hresult]
    cases result with
    | ok i => exact .inl rfl
    | error why => exact .inr ⟨why, why.label_ne_none, rfl⟩
  accepted := by
    rw [sumOf_measured (by simp [Series.beq_of_name_ne])]
    simp [Series.beq_of_name_ne]
  rejected := by
    intro why
    rw [sumOf_measured (by simp [Series.beq_of_name_ne])]
    simp [Series.beq_of_name_ne]

/-- **The counters account for all requests.**  Take a bridge whose token page is at any path that it
may have, with any issuer, any validator, and an authenticator that leaves the counters alone, as a
proxy and the handshake for tests do.  Let it answer any sequence of requests that read pages, the
counters being empty at first.  Then after each request the counters add up to what the requests so
far were. -/
theorem conserved_answers
    (hbuild : (build path issuer validator authenticator exporter).value = .ok routes)
    (hquiet : ∀ r, (authenticator r).measurements = [])
    {requests : List (Moment × Http.Request)} (hreads : ∀ x ∈ requests, reads x.2 = true)
    (n : Nat) :
    Conserved path validator authenticator (requests.take n)
      (((routes.answers [] requests).take n).flatMap Traced.measurements) := by
  have hfirst : ∀ x ∈ requests.take n, reads x.2 = true :=
    fun x hx => hreads x (List.mem_of_mem_take hx)
  rw [take_answers, measurements_answers hbuild hquiet hfirst]
  exact conserved_measured path issuer validator authenticator (requests.take n)

/-- The visit of a user who comes back with something that is no token. -/
def secondVisit : List (Moment × Http.Request) :=
  visit ++ [(⟨1003, 0⟩, { assertion.get "/protected" none with
    headers := [("authorization", Utf8.ofString "Bearer none")] })]

/-- Two handshakes, one token that is issued, and one that is no token. -/
theorem conserved_answers_secondVisit :
    ∃ ms, ((localBridge.answers [] secondVisit).take 4).flatMap Traced.measurements = ms
      ∧ sumOf (·.name == "bridge_handshake_total") (growth ms) = 2
      ∧ sumOf (·.name == "bridge_token_issuance_total") (growth ms) = 1
      ∧ sumOf (·.name == "bridge_token_validations_total") (growth ms) = 1
      ∧ sumOf (· == acceptedSeries) (growth ms) = 0
      ∧ sumOf (· == rejectedSeries .malformed) (growth ms) = 1 := by
  have hreads : ∀ x ∈ secondVisit, reads x.2 = true := by decide
  have h := conserved_answers (build_localBridge localProxy)
    (fun r => (localProxy.onlyLogs_authenticate r).measurements) hreads 4
  exact ⟨_, rfl, h.handshakes.trans (by decide), h.issuances.trans (by decide +kernel),
    h.validations.trans (by decide +kernel), h.accepted.trans (by decide +kernel),
    (h.rejected .malformed).trans (by decide +kernel)⟩

end Routes

end BearerBridge
