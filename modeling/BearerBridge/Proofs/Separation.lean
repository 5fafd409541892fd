/-
# The two schemes apart

Tokens are handed out behind the handshake, and taken behind bearer tokens.  The bridge keeps the
two apart at whatever path its token page has: a token is answered only there, and only to whom the
authenticator verified for the very request; an identity from a token is answered only when the
validator accepted the token of the request; and nobody is asked about a request whose page is
somebody else's.  A token may still stand in an answer of another page, when that page repeats a
text of others.

* `respond_of_issuer` : what an answer takes from the issuer;
* `Separated` : what holds of the answer to a request;
* `Routes.answers` : the answers to a sequence of requests, with the reports made for each;
* `schemes_separated` : the schemes are apart in every sequence of requests.
-/
import BearerBridge.Proofs.Containment

namespace BearerBridge

namespace Routes

variable {path : String} {issuer : Issuer} {validator : Validator} {authenticator : Authenticator}
  {exporter : Exporter} {routes : Routes} {recorded : List Measurement} {moment : Moment}
  {r : Http.Request}

/-! ## What answers take from the issuer -/

/-- **Of the issuer an answer takes what is issued** at the token page, to whom the authenticator
verified for the request, and nothing else. -/
theorem respond_of_issuer {issuer' : Issuer}
    (h : ∀ p, r.target.path = path → (authenticator r).value = .ok (some p) →
      issuer'.issue p moment.now moment.micros = issuer.issue p moment.now moment.micros) :
    respond ⟨⟨path, issuer', authenticator⟩, validator, exporter⟩ recorded moment r
      = respond ⟨⟨path, issuer, authenticator⟩, validator, exporter⟩ recorded moment r := by
  have hsame : page? ⟨⟨path, issuer', authenticator⟩, validator, exporter⟩ r.target.path
      = page? ⟨⟨path, issuer, authenticator⟩, validator, exporter⟩ r.target.path := rfl
  cases hpage : page? ⟨⟨path, issuer, authenticator⟩, validator, exporter⟩ r.target.path with
  | none => rw [respond_of_no_page hpage, respond_of_no_page (hsame.trans hpage)]
  | some page =>
    rw [respond_of_page hpage, respond_of_page (hsame.trans hpage)]
    congr 1
    -- no other page knows the issuer
    cases page with
    | token =>
      rw [pageResponse, pageResponse]
      refine Traced.bind_congr ?_
      dsimp only
      cases hadmit : (admitHandshake authenticator r).value with
      | error f => rfl
      | ok p =>
        dsimp only
        rw [issueResponse, issueResponse,
          h p (eq_path_of_page? hpage) (value_admitHandshake_iff.1 hadmit)]
    | _ => rfl

/-! ## One answer -/

/-- What holds of the answer to a request when the schemes are apart. -/
structure Separated (path : String) (issuer : Issuer) (validator : Validator)
    (authenticator : Authenticator) (exporter : Exporter) (moment : Moment) (r : Http.Request)
    (answer : Traced Http.Response) : Prop where
  /-- What is issued to anybody is answered at the token page only, when it is issued to whom the
  authenticator verified for the request; an exporter that keeps to its format writes no token. -/
  token : exporter.WritesSamples → ∀ q now micros token,
    (issuer.issue q now micros).value = .ok token → answer.value.body = token →
    r.target.path = path ∧ ∃ p, (authenticator r).value = .ok (some p)
      ∧ (issuer.issue p moment.now moment.micros).value = .ok token
  /-- An answer that holds it is that token, issued there, or repeats a text of others. -/
  contained : ∀ q now micros token, (issuer.issue q now micros).value = .ok token →
    token.toList <:+: answer.value.body.toList →
    (answer.value.body = token ∧ r.target.path = path
      ∧ ∃ p, (authenticator r).value = .ok (some p)
        ∧ (issuer.issue p moment.now moment.micros).value = .ok token)
    ∨ ∃ response, Repeats ⟨⟨path, issuer, authenticator⟩, validator, exporter⟩ moment r response
      ∧ answer.value = forMethod r response
  /-- With an issuer that issues the same there, the answer is the same: what is issued goes into no
  other answer, though a summary may repeat a text that a client sends. -/
  issuance : ∃ recorded, ∀ issuer' : Issuer,
    (∀ p, r.target.path = path → (authenticator r).value = .ok (some p) →
      issuer'.issue p moment.now moment.micros = issuer.issue p moment.now moment.micros) →
    respond ⟨⟨path, issuer', authenticator⟩, validator, exporter⟩ recorded moment r = answer
  /-- The page behind bearer tokens tells why not, or the validator accepted the token of the
  request. -/
  identity : r.target.path = "/protected" →
    (∃ f : Failure, answer.value = forMethod r f.response)
    ∨ ∃ token i, (bearerToken r.headers).value = .ok token
      ∧ (validator.validate token moment.now).value = .ok i
      ∧ answer.value = forMethod r (whenRead r (pure (summary r i.client))).value
  /-- Behind the handshake only the authenticator is asked, once. -/
  handshake : r.target.path ∈ [path, "/protected_negotiate"] → ∀ c, answer.consultations c
    = (if .authenticator = c then 1 else 0) + (authenticator r).consultations c
  /-- Behind bearer tokens only the validator is asked, once if there is a token. -/
  bearer : r.target.path = "/protected" → ∀ c, answer.consultations c
    = if (bearerToken r.headers).value.isOk ∧ .validator = c then 1 else 0
  /-- Elsewhere nobody is asked. -/
  elsewhere : r.target.path ∉ [path, "/protected_negotiate", "/protected"] →
    ∀ c, answer.consultations c = 0

/-- The page behind bearer tokens tells why not, or whom the validator accepted. -/
theorem value_respond_protectedPage (hpage : routes.page? r.target.path = some .protectedPage) :
    (∃ f : Failure, (routes.respond recorded moment r).value = forMethod r f.response)
    ∨ ∃ token i, (bearerToken r.headers).value = .ok token
      ∧ (routes.validator.validate token moment.now).value = .ok i
      ∧ (routes.respond recorded moment r).value
        = forMethod r (whenRead r (pure (summary r i.client))).value := by
  rw [respond_of_page hpage, Traced.value_map, pageResponse, Traced.value_bind]
  cases hadmit : (admitBearer routes.validator moment.now r).value with
  | error f => exact .inl ⟨f, rfl⟩
  | ok i =>
    obtain ⟨token, htoken, hvalidate⟩ := value_admitBearer_eq_ok_iff.1 hadmit
    exact .inr ⟨token, i, htoken, hvalidate, rfl⟩

/-- **The schemes are apart in every answer.** -/
theorem separated_respond
    (hbuild : (build path issuer validator authenticator exporter).value = .ok routes)
    (recorded : List Measurement) (moment : Moment) (r : Http.Request) :
    Separated path issuer validator authenticator exporter moment r
      (routes.respond recorded moment r) := by
  have hroutes := (build_eq_ok_iff.1 hbuild).2.2
  have hcontained : ∀ q now micros token, (issuer.issue q now micros).value = .ok token →
      token.toList <:+: (routes.respond recorded moment r).value.body.toList →
      ((routes.respond recorded moment r).value.body = token
        ∧ Issues ⟨⟨path, issuer, authenticator⟩, validator, exporter⟩ moment r token)
        ∨ ∃ response, Repeats ⟨⟨path, issuer, authenticator⟩, validator, exporter⟩ moment r response
          ∧ (routes.respond recorded moment r).value = forMethod r response := by
    intro q now micros token hissue hheld
    rcases respond_of_mark ((Issuer.mark_of_issue hissue).isInfix.trans hheld)
      with hissued | hrepeats
    · rw [hroutes] at hissued hheld ⊢
      obtain ⟨hpath, p, hverified, hbody⟩ := hissued
      have htoken := Issuer.issue_eq_of_infix hissue hbody hheld
      exact .inl ⟨htoken.symm, hpath, p, hverified, hbody.trans (congrArg _ htoken.symm)⟩
    · rw [hroutes] at hrepeats ⊢
      exact .inr hrepeats
  constructor
  · intro hexport q now micros token hissue hbody
    rcases hcontained q now micros token hissue (hbody ▸ List.infix_rfl)
      with ⟨-, hissued⟩ | ⟨response, hrepeats, hanswer⟩
    · exact hissued
    · -- what repeats a text of others begins with something else
      have hmark : tokenMark <+: (forMethod r response).body.toList := by
        rw [← hanswer, hbody]
        exact Issuer.mark_of_issue hissue
      rw [body_forMethod_of_mark hmark.isInfix] at hmark
      obtain ⟨more, hmore⟩ := hmark
      exact absurd (hmore ▸ rfl) (hrepeats.head?_ne hexport)
  · exact hcontained
  · refine ⟨recorded, fun issuer' h => ?_⟩
    rw [hroutes]
    exact respond_of_issuer h
  · intro hpath
    have hvalidator : routes.validator = validator := by rw [hroutes]
    rw [← hvalidator]
    exact value_respond_protectedPage (page?_eq_protectedPage_iff.2 hpath)
  · intro hpath c
    obtain ⟨page, hpage, hneeds⟩ := (needsHandshake_iff hbuild).2 hpath
    rw [consultations_negotiated hpage hneeds, hroutes]
  · intro hpath c
    exact consultations_protectedPage (page?_eq_protectedPage_iff.2 hpath) c
  · intro hpath c
    simp only [List.mem_cons, List.not_mem_nil, or_false, not_or] at hpath
    refine consultations_open (fun page hpage => ⟨?_, ?_⟩) c
    · rw [Bool.eq_false_iff]
      intro hneeds
      have hmem := (needsHandshake_iff hbuild).1 ⟨page, hpage, hneeds⟩
      exact (List.mem_pair.1 hmem).elim hpath.1 hpath.2.1
    · rintro rfl
      exact hpath.2.2 (page?_eq_protectedPage_iff.1 hpage)

/-! ## Sequences of requests -/

/-- The answers to a sequence of requests, each with the reports made for it. -/
def answers (routes : Routes) (recorded : List Measurement) :
    List (Moment × Http.Request) → List (Traced Http.Response)
  | [] => []
  | (moment, r) :: rest =>
    let first := routes.respond recorded moment r
    first :: routes.answers (recorded ++ first.measurements) rest

/-- What is served is what is answered, one after the other. -/
theorem serve_eq_answers (routes : Routes) (recorded : List Measurement)
    (requests : List (Moment × Http.Request)) :
    (routes.serve recorded requests).value = (routes.answers recorded requests).map Traced.value
      ∧ (routes.serve recorded requests).reports
        = (routes.answers recorded requests).flatMap Traced.reports := by
  induction requests generalizing recorded with
  | nil => exact ⟨rfl, rfl⟩
  | cons x rest ih =>
    obtain ⟨hvalue, hreports⟩ :=
      ih (recorded ++ (routes.respond recorded x.1 x.2).measurements)
    rw [serve, answers]
    constructor
    · rw [List.map_cons, ← hvalue]
      rfl
    · simp [hreports]

/-- The schemes are apart in the answers to every sequence of requests. -/
theorem separated_answers
    (hbuild : (build path issuer validator authenticator exporter).value = .ok routes)
    (requests : List (Moment × Http.Request)) :
    List.Forall₂
      (fun x answer => Separated path issuer validator authenticator exporter x.1 x.2 answer)
      requests (routes.answers recorded requests) := by
  induction requests generalizing recorded with
  | nil => exact .nil
  | cons x rest ih => exact .cons (separated_respond hbuild ..) ih

/-- The requests of a sequence for a page behind the handshake. -/
def behindHandshake (path : String) (requests : List (Moment × Http.Request)) :
    List Http.Request :=
  (requests.map (·.2)).filter (·.target.path ∈ [path, "/protected_negotiate"])

theorem behindHandshake_cons (path : String) (x : Moment × Http.Request)
    (rest : List (Moment × Http.Request)) :
    behindHandshake path (x :: rest)
      = if x.2.target.path ∈ [path, "/protected_negotiate"] then x.2 :: behindHandshake path rest
        else behindHandshake path rest := by
  simp only [behindHandshake, List.map_cons, List.filter_cons, decide_eq_true_eq]

/-- How often the authenticator is asked about one request. -/
theorem Separated.consultations_authenticator {answer : Traced Http.Response}
    (h : Separated path issuer validator authenticator exporter moment r answer) :
    answer.consultations .authenticator
      = if r.target.path ∈ [path, "/protected_negotiate"]
        then 1 + (authenticator r).consultations .authenticator else 0 := by
  split
  · next hpath => rw [h.handshake hpath, if_pos rfl]
  · next hpath =>
    by_cases hbearer : r.target.path = "/protected"
    · rw [h.bearer hbearer, if_neg (by simp)]
    · rw [h.elsewhere (by simpa [hbearer] using hpath)]

/-- **How often the authenticator is asked**: once for each request for a page behind the
handshake, and as often as it asks itself. -/
theorem consultations_serve
    (hbuild : (build path issuer validator authenticator exporter).value = .ok routes)
    (requests : List (Moment × Http.Request)) :
    (routes.serve recorded requests).consultations .authenticator
      = (behindHandshake path requests).length
        + ((behindHandshake path requests).flatMap fun r => (authenticator r).reports).countP
          (· = .consultation .authenticator) := by
  induction requests generalizing recorded with
  | nil => rfl
  | cons x rest ih =>
    have hfirst := (separated_respond hbuild recorded x.1 x.2).consultations_authenticator
    have hserve : (routes.serve recorded (x :: rest)).consultations .authenticator
        = (routes.respond recorded x.1 x.2).consultations .authenticator
          + (routes.serve (recorded ++ (routes.respond recorded x.1 x.2).measurements)
            rest).consultations .authenticator := by
      rw [serve]
      simp
    rw [hserve, hfirst, ih, behindHandshake_cons]
    split
    · rw [List.length_cons, List.flatMap_cons, List.countP_append, Traced.consultations]
      omega
    · rw [Nat.zero_add]

/-- **The two schemes are apart.**  Take a bridge with any issuer, validator and authenticator,
whose token page is at any path that it may have, and any sequence of requests.  The schemes are
apart in every answer, and about the requests so far the bridge has asked the authenticator as often
as there were some for the token page or the negotiated summary; an authenticator that asks itself
adds to that. -/
theorem schemes_separated
    (hbuild : (build path issuer validator authenticator exporter).value = .ok routes)
    (recorded : List Measurement) (requests : List (Moment × Http.Request)) :
    ((routes.serve recorded requests).value
        = (routes.answers recorded requests).map Traced.value
      ∧ (routes.serve recorded requests).reports
        = (routes.answers recorded requests).flatMap Traced.reports)
    ∧ List.Forall₂
      (fun x answer => Separated path issuer validator authenticator exporter x.1 x.2 answer)
      requests (routes.answers recorded requests)
    ∧ (routes.serve recorded requests).consultations .authenticator
      = (behindHandshake path requests).length
        + ((behindHandshake path requests).flatMap fun r => (authenticator r).reports).countP
          (· = .consultation .authenticator) :=
  ⟨serve_eq_answers routes recorded requests, separated_answers hbuild requests,
    consultations_serve hbuild requests⟩

/-- A user who gets a token, comes to the page behind bearer tokens without one, and then to the one
behind the handshake. -/
def visit : List (Moment × Http.Request) :=
  [(⟨1000, 0⟩, assertion.get "/token" none), (⟨1001, 0⟩, assertion.get "/protected" none),
    (⟨1002, 0⟩, assertion.get "/protected_negotiate" none)]

/-- The authenticator is asked about two of the three requests, and only the first one may be
answered with a token. -/
theorem schemes_separated_visit :
    List.Forall₂ (fun x answer => Separated "/token" ⟨Policy.usual, []⟩ (.ofPolicy Policy.usual)
        localProxy.authenticate .detached x.1 x.2 answer) visit (localBridge.answers [] visit)
      ∧ (∀ q now micros token, (Issuer.issue ⟨Policy.usual, []⟩ q now micros).value = .ok token →
        ∀ answer ∈ (localBridge.answers [] visit).tail, answer.value.body ≠ token)
      ∧ (localBridge.serve [] visit).consultations .authenticator = 2 := by
  have hbuild : (build "/token" ⟨Policy.usual, []⟩ (.ofPolicy Policy.usual)
      localProxy.authenticate .detached).value = .ok localBridge :=
    build_localBridge localProxy
  obtain ⟨-, hanswers, hasked⟩ := schemes_separated hbuild [] visit
  refine ⟨hanswers, ?_, hasked.trans ?_⟩
  · intro q now micros token hissue answer hmem hbody
    obtain ⟨first, second, third, hthree⟩ :
        ∃ first second third, localBridge.answers [] visit = [first, second, third] :=
      ⟨_, _, _, rfl⟩
    rw [hthree] at hanswers hmem
    obtain ⟨-, hrest⟩ := List.forall₂_cons.1 hanswers
    obtain ⟨hsecond, hrest⟩ := List.forall₂_cons.1 hrest
    obtain ⟨hthird, -⟩ := List.forall₂_cons.1 hrest
    have hexport := Exporter.writesSamples_detached
    rcases List.mem_pair.1 hmem with rfl | rfl
    · exact absurd (hsecond.token hexport q now micros token hissue hbody).1 (by decide)
    · exact absurd (hthird.token hexport q now micros token hissue hbody).1 (by decide)
  · have hnone : ((behindHandshake "/token" visit).flatMap
        fun r => (localProxy.authenticate r).reports).countP
          (· = .consultation .authenticator) = 0 := by
      rw [List.countP_eq_zero]
      intro report hreport
      obtain ⟨r, -, hr⟩ := List.mem_flatMap.1 hreport
      have hquiet := localProxy.consultations_authenticate r .authenticator
      exact List.countP_eq_zero.1 hquiet report hr
    rw [hnone]
    decide

/-- The token that a user got comes in as a group, and goes out in the summary. -/
theorem token_repeated_local :
    (build "/token" ⟨Policy.usual, []⟩ (.ofPolicy Policy.usual) localProxy.authenticate
        .detached).value = .ok localBridge
      ∧ (localBridge.respond [] ⟨1000, 0⟩ (assertion.get "/token" none)).value.body = localToken
      ∧ ((memberOf localToken).get "/protected_negotiate" (some "keep_groups")).target.path
        ≠ "/token"
      ∧ localToken.toList <:+:
        (localBridge.respond [] ⟨1001, 0⟩ ((memberOf localToken).get "/protected_negotiate"
          (some "keep_groups"))).value.body.toList := by
  have hissue : (Issuer.issue ⟨Policy.usual, []⟩
      (localProxy.asserted assertion.headers "CORP\\alice") 1000 0).value = .ok localToken :=
    (Issuer.value_issue_of_no_hooks ..).trans issue_localToken
  refine ⟨build_localBridge localProxy, ?_, ?_, token_repeated hissue⟩
  · rw [respond_localToken]
    rfl
  · show "/protected_negotiate" ≠ "/token"
    decide

end Routes

end BearerBridge
