/-
# Answers that hold tokens

Every token begins with the same letters, which stand in no text of the bridge's own.  So an answer
that holds a token is one that was just issued, or it repeats a text of others: a summary tells what
is known of a client, a refusal the reason of a hook, and the page of metrics what is exported.
Summaries do repeat tokens: one that comes in as a group goes out as one.

* `tokenMark`, `Issuer.mark_of_issue` : how every token begins;
* `Policy.encode_eq_of_infix` : no token holds another one;
* `Exporter.WritesSamples` : the format of what is exported;
* `Routes.Repeats` : the answers with texts of others;
* `respond_of_mark` : what is answered with anything like a token in it;
* `token_repeated` : a summary with a token in it.
-/
import BearerBridge.Proofs.Guards
import BearerBridge.Proofs.Tampering
import BearerBridge.Proofs.Transparency

namespace BearerBridge

/-! ## What tokens look like -/

/-- What a brace and a quotation mark become at the front of a token. -/
def tokenMark : List Char := ['e', 'y', 'J']

/-- Headers begin like that, whatever the algorithm. -/
theorem Policy.mark_header (policy : Policy) (c : TokenClaims) :
    tokenMark <+: (policy.segments c).header.toList := by
  have hsigned : ∀ a : SigningAlgorithm,
      tokenMark <+: (segmentOf (JoseHeader.chars a.name)).toList := by
    intro a
    cases a <;> decide +kernel
  have hunsecured : tokenMark <+: (segmentOf Header.unsecuredChars).toList := by
    decide +kernel
  rw [segments]
  cases policy.signing? with
  | none => exact hunsecured
  | some signing => exact hsigned signing.2

/-- So does what is issued. -/
theorem Issuer.mark_of_issue {issuer : Issuer} {p : Principal} {now : Int64} {micros : Nat}
    {token : String} (h : (issuer.issue p now micros).value = .ok token) :
    tokenMark <+: token.toList := by
  obtain ⟨c, -, -, rfl⟩ := value_issue_eq_ok_iff.1 h
  rw [Policy.encode_eq_text, Segments.toList_text]
  exact (issuer.policy.mark_header c).trans (List.prefix_append _ _)

/-- A character of tokens: it shows, and has no meaning in texts in quotes or in lists. -/
def IsTokenChar (c : Char) : Prop := IsVisible c ∧ c ≠ '"' ∧ c ≠ '\\' ∧ c ≠ ','

instance (c : Char) : Decidable (IsTokenChar c) :=
  inferInstanceAs (Decidable (IsVisible c ∧ c ≠ '"' ∧ c ≠ '\\' ∧ c ≠ ','))

theorem isTokenChar_of_mem_text {bs : List UInt8} {c : Char}
    (h : c ∈ (Base64.text Base64.url bs).toList) : IsTokenChar c := by
  have hsymbols : ∀ n < 64, IsTokenChar (Ascii.char (Base64.url.symbol n)) := by decide
  rw [Base64.text, String.toList_ofList] at h
  obtain ⟨b, hb, rfl⟩ := List.mem_map.1 h
  obtain ⟨n, hn, rfl⟩ := Base64.mem_encode_url hb
  exact hsymbols n hn

/-- The segments of a token consist of such characters. -/
theorem Policy.isTokenChar_of_mem_segments {policy : Policy} {claims : TokenClaims} {c : Char}
    (h : c ∈ (policy.segments claims).header.toList ∨ c ∈ (policy.segments claims).payload.toList
      ∨ c ∈ (policy.segments claims).signature.toList) : IsTokenChar c := by
  rw [segments] at h
  split at h
  · rcases h with h | h | h
    · exact isTokenChar_of_mem_text h
    · exact isTokenChar_of_mem_text h
    · exact isTokenChar_of_mem_text h
  · rcases h with h | h | h
    · exact isTokenChar_of_mem_text h
    · exact isTokenChar_of_mem_text h
    · exact absurd h (by simp [Token.unsecuredSegments])

/-- What is issued consists of such characters. -/
theorem Issuer.isTokenChar_of_issue {issuer : Issuer} {p : Principal} {now : Int64} {micros : Nat}
    {token : String} (h : (issuer.issue p now micros).value = .ok token) :
    ∀ c ∈ token.toList, IsTokenChar c := by
  obtain ⟨claims, -, -, rfl⟩ := value_issue_eq_ok_iff.1 h
  intro c hc
  rw [Policy.encode_eq_text, Segments.toList_text] at hc
  simp only [List.mem_append, List.mem_cons] at hc
  rcases hc with hc | rfl | hc | rfl | hc
  · exact Policy.isTokenChar_of_mem_segments (.inl hc)
  · decide
  · exact Policy.isTokenChar_of_mem_segments (.inr (.inl hc))
  · decide
  · exact Policy.isTokenChar_of_mem_segments (.inr (.inr hc))

/-- The payload decides what else a policy writes. -/
theorem Policy.segments_eq_of_payload {policy : Policy} {c c' : TokenClaims}
    (h : (policy.segments c).payload = (policy.segments c').payload) :
    policy.segments c = policy.segments c' := by
  rw [payload_segments, payload_segments] at h
  unfold segments
  cases policy.signing? with
  | none => simp only [Token.unsecuredSegments, h]
  | some signing => simp only [Token.signedSegments, h]

/-- **No token of a policy holds another one**: the dots of the one would be those of the other. -/
theorem Policy.encode_eq_of_infix {policy : Policy} {c c' : TokenClaims}
    (h : (policy.encode c).toList <:+: (policy.encode c').toList) :
    policy.encode c = policy.encode c' := by
  obtain ⟨before, after, htext⟩ := h
  have hwhole : (⟨String.ofList before ++ (policy.segments c).header, (policy.segments c).payload,
      (policy.segments c).signature ++ String.ofList after⟩ : Segments).text
        = (policy.segments c').text := by
    rw [← String.toList_inj, ← encode_eq_text, ← htext, encode_eq_text, Segments.toList_text,
      Segments.toList_text]
    simp
  have hsegments := Segments.eq_of_text_eq wellFormed_segments hwhole
  have hpayload : (policy.segments c).payload = (policy.segments c').payload := by
    rw [← hsegments]
  rw [encode_eq_text, encode_eq_text, segments_eq_of_payload hpayload]

/-- Nor does what is issued hold anything else that is issued. -/
theorem Issuer.issue_eq_of_infix {issuer : Issuer} {p q : Principal} {now now' : Int64}
    {micros micros' : Nat} {token token' : String}
    (h : (issuer.issue p now micros).value = .ok token)
    (h' : (issuer.issue q now' micros').value = .ok token')
    (hheld : token.toList <:+: token'.toList) : token = token' := by
  obtain ⟨c, -, -, rfl⟩ := value_issue_eq_ok_iff.1 h
  obtain ⟨c', -, -, rfl⟩ := value_issue_eq_ok_iff.1 h'
  exact Policy.encode_eq_of_infix hheld

/-- Nothing is not like that. -/
theorem not_mark_empty : ¬ tokenMark <:+: "".toList := by
  decide

/-! ## What other answers look like -/

/-- No refusal holds anything like a token, unless it gives a reason. -/
theorem Failure.eq_forbidden_of_mark {f : Failure} (h : tokenMark <:+: f.response.body.toList) :
    ∃ reason, f = .forbidden reason := by
  rw [body_response, String.toList_ofList, told] at h
  cases f with
  | forbidden reason => exact ⟨reason, rfl⟩
  | _ =>
    simp only [code, clientMessage] at h
    exact absurd h (by decide +kernel)

/-- The summary of nobody has no text of the client in it. -/
theorem not_mark_unprotected {r : Http.Request} (hpath : r.target.path = "/unprotected") :
    ¬ tokenMark <:+: (Http.Response.json 200 (summaryMembers r none false)).body.toList := by
  have hmembers : summaryMembers r none false
      = [("protocol", .text r.version.name), ("path", .text "/unprotected"),
        ("is_authenticated", .boolean false), ("claims", .array []),
        ("group_count", .number (.integer 0))] := by
    rw [summaryMembers, hpath]
    rfl
  rw [hmembers, Http.Response.json, Http.Response.ofBody, String.toList_ofList]
  cases r.version <;> decide +kernel

/-- The names of the metrics. -/
def metricNames : List String :=
  ["bridge_handshake_total", "bridge_token_issuance_total", "bridge_token_validations_total",
    "bridge_token_issuance_duration_seconds"]

/-- The format of what an exporter writes: each line is empty, a comment, or a sample that begins
with the name of its metric. -/
def Exporter.WritesSamples (exporter : Exporter) : Prop :=
  ∀ ms, ∀ line ∈ splitAll '\n' (exporter ms).toList,
    line = [] ∨ line.head? = some '#' ∨ ∃ name ∈ metricNames, name.toList <+: line

theorem Exporter.WritesSamples.head?_ne {exporter : Exporter} (h : exporter.WritesSamples)
    (ms : List Measurement) : (exporter ms).toList.head? ≠ some 'e' := by
  intro he
  obtain ⟨rest, hrest⟩ := List.head?_eq_some_iff.1 he
  obtain ⟨line, hmem, hline⟩ := exists_mem_splitAll rest (by decide : 'e' ≠ '\n')
  rcases h ms line (hrest ▸ hmem) with rfl | hcomment | ⟨name, hname, more, rfl⟩
  · exact absurd hline (by simp)
  · exact absurd (hline.symm.trans hcomment) (by decide)
  · have hfirst : ∀ name ∈ metricNames, name.toList.head? = some 'b' := by decide
    rw [List.head?_append, hfirst name hname, Option.some_or] at hline
    exact absurd hline (by decide)

/-- Who collects nothing keeps to the format. -/
theorem Exporter.writesSamples_detached : detached.WritesSamples := by
  intro ms line hline
  exact .inl (List.mem_singleton.1 hline)

namespace Routes

variable {path : String} {issuer : Issuer} {validator : Validator} {authenticator : Authenticator}
  {exporter : Exporter} {routes : Routes} {recorded : List Measurement} {moment : Moment}
  {r : Http.Request}

/-- The answers that hold texts of others: what is exported, a summary of whom a guard lets in, and
a refusal with its reason. -/
inductive Repeats (routes : Routes) (moment : Moment) (r : Http.Request) : Http.Response → Prop
  | exported (recorded : List Measurement) : r.target.path = "/metrics" →
    Repeats routes moment r (.plain 200 (routes.exporter recorded))
  | bearer {i : Identity} : r.target.path = "/protected" →
    (admitBearer routes.validator moment.now r).value = .ok i →
    Repeats routes moment r (summary r i.client)
  | bearerRefused {reason : String} : r.target.path = "/protected" →
    (admitBearer routes.validator moment.now r).value = .error (.forbidden reason) →
    Repeats routes moment r (Failure.forbidden reason).response
  | principal {p : Principal} : r.target.path = "/protected_negotiate" →
    (admitHandshake routes.tokenPage.authenticator r).value = .ok p →
    Repeats routes moment r (summary r p.client)
  | handshakeRefused {reason : String} :
    r.target.path ∈ [routes.tokenPage.path, "/protected_negotiate"] →
    (admitHandshake routes.tokenPage.authenticator r).value = .error (.forbidden reason) →
    Repeats routes moment r (Failure.forbidden reason).response
  | issuanceRefused {p : Principal} {reason : String} : r.target.path = routes.tokenPage.path →
    (admitHandshake routes.tokenPage.authenticator r).value = .ok p →
    (routes.tokenPage.issuer.issue p moment.now moment.micros).value
      = .error (.forbidden reason) →
    Repeats routes moment r (Failure.forbidden reason).response

/-- None of them begins like a token. -/
theorem Repeats.head?_ne {response : Http.Response} (h : Repeats routes moment r response)
    (hexport : routes.exporter.WritesSamples) : response.body.toList.head? ≠ some 'e' := by
  have hsummary : ∀ client : Client, (summary r client).body.toList.head? ≠ some 'e' := by
    intro client
    rw [summary]
    split
    · rw [Http.Response.json, Http.Response.ofBody, String.toList_ofList, Json.objectChars]
      exact (by decide : some '\x7b' ≠ some 'e')
    · exact (by decide : some 'F' ≠ some 'e')
  have hrefusal : ∀ f : Failure, f.response.body.toList.head? ≠ some 'e' := by
    intro f
    rw [f.body_response, String.toList_ofList, Json.objectChars]
    exact (by decide : some '\x7b' ≠ some 'e')
  cases h with
  | exported recorded => exact hexport.head?_ne recorded
  | bearer | principal => exact hsummary _
  | bearerRefused | handshakeRefused | issuanceRefused => exact hrefusal _

/-- What is answered with a body is answered as the page has it. -/
theorem eq_of_mark_whenRead {answer : Traced Http.Response}
    (h : tokenMark <:+: (whenRead r answer).value.body.toList) : whenRead r answer = answer := by
  by_cases hreads : reads r = true
  · rw [whenRead, if_pos hreads]
  · rw [whenRead, if_neg hreads] at h
    exact absurd h not_mark_empty

/-- What a method gets with a body, it gets with the whole body. -/
theorem body_forMethod_of_mark {response : Http.Response}
    (h : tokenMark <:+: (forMethod r response).body.toList) :
    (forMethod r response).body = response.body := by
  by_cases hhead : r.method = "HEAD"
  · rw [forMethod, if_pos hhead] at h
    exact absurd h not_mark_empty
  · rw [forMethod, if_neg hhead]
    split <;> rfl

/-- Whether an answer is a token just issued to whom the authenticator verified. -/
def Issues (routes : Routes) (moment : Moment) (r : Http.Request) (body : String) : Prop :=
  r.target.path = routes.tokenPage.path
    ∧ ∃ p, (routes.tokenPage.authenticator r).value = .ok (some p)
      ∧ (routes.tokenPage.issuer.issue p moment.now moment.micros).value = .ok body

/-- Behind bearer tokens whatever is like a token is in a summary, or in a reason. -/
theorem repeats_protectedPage (hpath : r.target.path = "/protected")
    (h : tokenMark <:+:
      (routes.pageResponse recorded moment r .protectedPage).value.body.toList) :
    Repeats routes moment r (routes.pageResponse recorded moment r .protectedPage).value := by
  rw [pageResponse, Traced.value_bind] at h ⊢
  cases hguard : (admitBearer routes.validator moment.now r).value with
  | error f =>
    rw [hguard] at h
    obtain ⟨reason, rfl⟩ := Failure.eq_forbidden_of_mark h
    exact .bearerRefused hpath hguard
  | ok i =>
    rw [hguard] at h
    dsimp only at h ⊢
    rw [eq_of_mark_whenRead h]
    exact .bearer hpath hguard

/-- So it is at the negotiated summary. -/
theorem repeats_negotiated (hpath : r.target.path = "/protected_negotiate")
    (h : tokenMark <:+: (routes.pageResponse recorded moment r .negotiated).value.body.toList) :
    Repeats routes moment r (routes.pageResponse recorded moment r .negotiated).value := by
  rw [pageResponse, Traced.value_bind] at h ⊢
  cases hguard : (admitHandshake routes.tokenPage.authenticator r).value with
  | error f =>
    rw [hguard] at h
    obtain ⟨reason, rfl⟩ := Failure.eq_forbidden_of_mark h
    exact .handshakeRefused (by simp [hpath]) hguard
  | ok p =>
    rw [hguard] at h
    dsimp only at h ⊢
    rw [eq_of_mark_whenRead h]
    exact .principal hpath hguard

/-- At the token page it is a token just issued, or in a reason. -/
theorem issues_or_repeats (hpath : r.target.path = routes.tokenPage.path)
    (h : tokenMark <:+: (routes.pageResponse recorded moment r .token).value.body.toList) :
    routes.Issues moment r (routes.pageResponse recorded moment r .token).value.body
      ∨ Repeats routes moment r (routes.pageResponse recorded moment r .token).value := by
  rw [pageResponse, Traced.value_bind] at h ⊢
  cases hguard : (admitHandshake routes.tokenPage.authenticator r).value with
  | error f =>
    rw [hguard] at h
    obtain ⟨reason, rfl⟩ := Failure.eq_forbidden_of_mark h
    exact .inr (.handshakeRefused (by simp [hpath]) hguard)
  | ok p =>
    rw [hguard] at h
    dsimp only at h ⊢
    have hread := eq_of_mark_whenRead h
    rw [hread, issueResponse, Traced.value_bind] at h ⊢
    cases hissue : (routes.tokenPage.issuer.issue p moment.now moment.micros).value with
    | error f =>
      rw [hissue] at h
      obtain ⟨reason, rfl⟩ := Failure.eq_forbidden_of_mark h
      exact .inr (.issuanceRefused hpath hguard hissue)
    | ok token => exact .inl ⟨hpath, p, value_admitHandshake_iff.1 hguard, hissue⟩

/-- **What a page answers with anything like a token in it** is a token just issued, or repeats a
text of others. -/
theorem pageResponse_of_mark {page : Page} (hpage : routes.page? r.target.path = some page)
    (h : tokenMark <:+: (routes.pageResponse recorded moment r page).value.body.toList) :
    routes.Issues moment r (routes.pageResponse recorded moment r page).value.body
      ∨ Repeats routes moment r (routes.pageResponse recorded moment r page).value := by
  have hfixed : page ≠ .token → (r.target.path, page) ∈ fixedPages :=
    fun hother => (page?_eq_some_iff hother).1 hpage
  cases page with
  | greeting =>
    rw [pageResponse] at h
    rw [eq_of_mark_whenRead h] at h
    exact absurd h (by decide +kernel)
  | unprotected =>
    rw [pageResponse] at h
    rw [eq_of_mark_whenRead h] at h
    exact absurd h (not_mark_unprotected (by simpa [fixedPages] using hfixed))
  | health =>
    rw [pageResponse] at h
    rw [eq_of_mark_whenRead h] at h
    exact absurd h (by decide +kernel)
  | metrics =>
    rw [pageResponse] at h ⊢
    rw [eq_of_mark_whenRead h]
    exact .inr (.exported recorded (by simpa [fixedPages] using hfixed))
  | protectedPage => exact .inr (repeats_protectedPage (page?_eq_protectedPage_iff.1 hpage) h)
  | negotiated => exact .inr (repeats_negotiated (page?_eq_negotiated_iff.1 hpage) h)
  | token => exact issues_or_repeats (eq_path_of_page? hpage) h

/-- **What is answered with anything like a token in it** is a token just issued, or repeats a text
of others. -/
theorem respond_of_mark
    (h : tokenMark <:+: (routes.respond recorded moment r).value.body.toList) :
    routes.Issues moment r (routes.respond recorded moment r).value.body
      ∨ ∃ response, Repeats routes moment r response
        ∧ (routes.respond recorded moment r).value = forMethod r response := by
  cases hpage : routes.page? r.target.path with
  | none =>
    rw [respond_of_no_page hpage] at h
    exact absurd h not_mark_empty
  | some page =>
    rw [respond_of_page hpage, Traced.value_map] at h ⊢
    have hbody := body_forMethod_of_mark h
    rw [hbody] at h ⊢
    exact (pageResponse_of_mark hpage h).imp_right fun hrepeats => ⟨_, hrepeats, rfl⟩

/-! ## What summaries repeat -/

/-- A summary behind the handshake holds the values of the claims that it shows. -/
theorem infix_respond_negotiated {p : Principal} {query : Option String} {keep : Bool} {c : Claim}
    (hverified : (routes.tokenPage.authenticator (r.get "/protected_negotiate" query)).value
      = .ok (some p))
    (hkeep : keepGroups? query = some keep) (hshown : c ∈ p.claims.shown keep)
    (hplain : ∀ x ∈ c.value.toList, Json.IsUnescaped x) :
    c.value.toList <:+: (routes.respond recorded moment
      (r.get "/protected_negotiate" query)).value.body.toList := by
  rw [respond_negotiated hverified hkeep, Http.Response.json, Http.Response.ofBody,
    String.toList_ofList]
  exact infix_summaryMembers _ hshown hplain

/-- A user of whom the proxy says that a text is the only group. -/
def memberOf (group : String) : Http.Request :=
  { assertion with
    headers := [("x-remote-user", Utf8.ofString "CORP\\alice"),
      ("x-remote-groups", Utf8.ofString group)] }

/-- The user is verified with that group. -/
theorem authenticate_memberOf {group : String} (h : ∀ c ∈ group.toList, IsTokenChar c)
    (hne : group ≠ "") :
    (localProxy.authenticate (memberOf group)).value = .ok (some ⟨"CORP\\alice", "Negotiate",
      [⟨Kind.name, "CORP\\alice"⟩, ⟨Kind.group, group⟩]⟩) := by
  have hvisible : IsVisibleText group := fun c hc => (h c hc).1
  have hcomma : ',' ∉ group.toList := fun hc => (h _ hc).2.2.2 rfl
  have huser : Proxy.header? (memberOf group).headers "x-remote-user" = some "CORP\\alice" := by
    show (Http.valueText? (Utf8.ofString "CORP\\alice")).bind nonBlank? = some "CORP\\alice"
    decide +kernel
  have hgroups : Proxy.header? (memberOf group).headers "x-remote-groups" = some group := by
    have hfirst : (memberOf group).headers.get? "x-remote-groups" = some (Utf8.ofString group) :=
      rfl
    have hprintable : ∀ c ∈ group.toList, 0x20 ≤ c.toNat ∧ c.toNat ≤ 0x7E :=
      fun c hc => ⟨Nat.le_of_lt (hvisible c hc).1, (hvisible c hc).2⟩
    rw [Proxy.header?, Http.Headers.text?, hfirst, Option.bind_some,
      Http.valueText?_ofString hprintable, Option.bind_some, nonBlank?_eq, trim_of_visible hvisible,
      if_neg hne]
  have hlist : commaList group = [group] := by
    rw [commaList, splitAll_of_not_mem hcomma, List.filterMap_cons, String.ofList_toList,
      nonBlank?_eq, trim_of_visible hvisible, if_neg hne]
    rfl
  have htype : Proxy.header? (memberOf group).headers "x-remote-auth-type" = none := rfl
  have hasserted : localProxy.asserted (memberOf group).headers "CORP\\alice"
      = ⟨"CORP\\alice", "Negotiate", [⟨Kind.name, "CORP\\alice"⟩, ⟨Kind.group, group⟩]⟩ := by
    rw [Proxy.asserted, show localProxy.headers.groups = "x-remote-groups" from rfl, hgroups,
      show localProxy.headers.authenticationType = "x-remote-auth-type" from rfl, htype]
    simp [hlist, Proxy.defaultAuthenticationType]
  have htrusted : (memberOf group).peer.any localProxy.trusts = true := by
    show (some (.v4 0x7F00 1) : Option Address).any localProxy.trusts = true
    decide
  rw [Proxy.authenticate, show localProxy.headers.user = "x-remote-user" from rfl, huser]
  dsimp only
  rw [if_pos htrusted, hasserted]
  rfl

/-- **A summary repeats any token that comes in as a group**, far from the token page. -/
theorem token_repeated {issuer : Issuer} {p : Principal} {now : Int64} {micros : Nat}
    {token : String} (hissue : (issuer.issue p now micros).value = .ok token) :
    token.toList <:+: (localBridge.respond recorded moment
      ((memberOf token).get "/protected_negotiate" (some "keep_groups"))).value.body.toList := by
  have hchars := Issuer.isTokenChar_of_issue hissue
  have hne : token ≠ "" := by
    rintro rfl
    exact absurd (Issuer.mark_of_issue hissue).isInfix not_mark_empty
  have hunescaped : ∀ c ∈ token.toList, Json.IsUnescaped c := fun c hc =>
    ⟨(hchars c hc).2.1, (hchars c hc).2.2.1, Nat.le_of_lt (hchars c hc).1.1⟩
  exact infix_respond_negotiated (c := ⟨Kind.group, token⟩) (authenticate_memberOf hchars hne)
    (by decide +kernel : keepGroups? (some "keep_groups") = some true)
    (ClaimSet.mem_shown_iff.2 ⟨by simp, .inl rfl⟩) hunescaped

end Routes

end BearerBridge
