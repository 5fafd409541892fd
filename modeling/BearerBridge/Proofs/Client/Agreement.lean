/-
# What a client and the bridge make of one token

A client keeps a token for as long as the bridge accepts it.  It verifies nothing and reads one
member of the payload only, but on every token that the bridge accepts it reads the same expiry,
and the header that it makes brings the token back to the bridge unchanged.  So a client that goes
by its cache sends no token that the bridge refuses, and fetches none while it has one that the
bridge would take.

* `Authenticates.ofToken` : what a client makes of an authentic token;
* `ofToken_of_identify` : what a client makes of a token that the bridge accepts;
* `ofToken_issued` : what a client makes of a token that is issued to a principal;
* `in_step_with_client` : the bridge lets in the client of an issued token until the client would
  fetch another one.
-/
import BearerBridge.Proofs.Bearer
import BearerBridge.Proofs.Client.SingleFlight
import BearerBridge.Proofs.RoundTrip
import BearerBridge.Proofs.Token.Expiry
import BearerBridge.Proofs.TokenSize

namespace BearerBridge

/-! ## The header of a credential -/

namespace Credential

/-- A header that nothing stood for yet is there after it is added. -/
theorem get?_attach {c : Credential} {hs : Http.Headers} (h : hs.get? "authorization" = none) :
    (c.attach hs).get? "authorization" = some (Utf8.ofString c.header) := by
  rw [attach, h]
  rw [Http.Headers.get?, Option.map_eq_none_iff] at h
  simp [Http.Headers.get?, List.find?_append, h]

end Credential

/-! ## Calls and their credentials -/

namespace CredentialCache

variable {timeout : Option Nat} {ms : List Move} {s : CredentialCache} {i : Nat} {call : Call}
  {c : Credential}

/-- A call ends with a credential that is good at its instant. -/
theorem isExpired_of_finished (hrun : (empty timeout).run? ms = some s)
    (hcall : s.calls[i]? = some call) (hstage : call.stage = .finished (.ok c)) :
    c.isExpired call.now = false := by
  have hserved := (sound_of_run hrun).served i call hcall c
  rw [hstage] at hserved
  exact (hserved rfl).1

/-- A call fetches when the current credential is not good at its instant. -/
theorem isExpired_of_fetching (hrun : (empty timeout).run? ms = some s)
    (hcall : s.calls[i]? = some call) (hstage : call.stage = .fetching)
    (hcurrent : s.current = some c) : c.isExpired call.now = true := by
  have hneedy := (sound_of_run hrun).needy i call hcall hstage
  exact decide_eq_true (le_of_valid?_eq_none hneedy hcurrent)

end CredentialCache

namespace Policy

variable {policy : Policy} {token : String} {s : Segments} {c : TokenClaims}

/-! ## Tokens that the bridge accepts -/

/-- **What a client makes of an authentic token**: a credential that expires when the claims of
the token say. -/
theorem Authenticates.ofToken (h : policy.Authenticates token s c) :
    Credential.ofToken token = .ok ⟨⟨token⟩, c.expiry⟩ := by
  -- the client has fewer demands on the payload, and the header takes any visible text
  obtain ⟨bytes, hbytes, hread⟩ := Option.bind_eq_some_iff.1 h.payload
  have hexpiry : Token.expiry token = .ok c.expiry := by
    rw [Token.expiry_of_split h.split, hbytes, Option.bind_some,
      TokenClaims.readExpiry?_of_read? hread]
  have hvalue : (Utf8.ofString (Credential.headerOf token)).all Http.isValueByte = true :=
    Http.all_isValueByte (Credential.printable_headerOf h.isVisibleText)
  rw [Credential.ofToken, hexpiry]
  exact if_pos hvalue

/-- **What a client makes of a token that the bridge accepts**, whoever made the token: a
credential with the expiry of the identity, good at that instant, and with a header from which the
bridge takes that very token. -/
theorem ofToken_of_identify {now : Int64} {i : Identity}
    (h : policy.identify token now = .ok i) :
    ∃ c, Credential.ofToken token = .ok c ∧ c.expiresAt = i.expiresAt
      ∧ c.isExpired now = false ∧ c.header = "Bearer " ++ token
      ∧ ∀ hs : Http.Headers, hs.get? "authorization" = some (Utf8.ofString c.header) →
        (bearerToken hs).value = .ok token := by
  obtain ⟨s, claims, hauth, haccept⟩ := exists_authenticates_of_identify h
  obtain ⟨-, -, hbefore⟩ := exists_accept_iff.1 ⟨i, haccept⟩
  obtain ⟨type, -, rfl⟩ := Identity.eq_of_ofTokenClaims (ofTokenClaims_of_accept haccept)
  refine ⟨_, hauth.ofToken, rfl, ?_, rfl, fun hs hheader => hauth.value_bearerToken hheader⟩
  rw [Credential.isExpired, decide_eq_false_iff_not]
  exact Int64.not_le.2 hbefore

/-- A policy that takes unsigned tokens, whoever issues them. -/
def lenient : Policy :=
  { Policy.usual with
    issuer := none
    authenticationTypeClaim := "t" }

/-- A header that the bridge does not write, for a token without a signature. -/
def foreignHeader : List Char :=
  "\x7b\"x\":[null],\"alg\":\"NoNe\"\x7d".toList

/-- A payload that the bridge does not write: there is an expiry in a member that nobody reads, the
name of the expiry that counts is escaped, and there is more than one authentication type. -/
def foreignPayload : List Char :=
  "\x7b\"x\":[1e3,\x7b\"exp\":1\x7d],\"sub\":\"m\",\"nbf\":-5,\"iat\":0,".toList
    ++ "\"\\u0065xp\":9,\"t\":[\"X\",\"Y\"]\x7d".toList

/-- The token made of them. -/
def foreignSegments : Segments :=
  ⟨segmentOf foreignHeader, segmentOf foreignPayload, ""⟩

/-- What the payload states. -/
def foreignClaims : TokenClaims where
  issuer := none
  audience := none
  subject := "m"
  notBefore := -5
  issuedAt := 0
  expiry := 9
  claims := [⟨"x", "1000.0"⟩, ⟨"x", "\x7b\"exp\":1\x7d"⟩, ⟨"t", "X"⟩, ⟨"t", "Y"⟩]

theorem authenticates_foreign :
    lenient.Authenticates foreignSegments.text foreignSegments foreignClaims where
  text := rfl
  size := by
    have hheader : (Utf8.ofString foreignSegments.header).length
        = (4 * (Utf8.encode foreignHeader).length + 2) / 3 := Base64.length_ofString_text _
    have hpayload : (Utf8.ofString foreignSegments.payload).length
        = (4 * (Utf8.encode foreignPayload).length + 2) / 3 := Base64.length_ofString_text _
    rw [Segments.length_text, hheader, hpayload]
    decide +kernel
  wellFormed :=
    ⟨Base64.dot_notMem_text _, Base64.dot_notMem_text _, by decide,
      Base64.text_ne_nil (by decide +kernel), Base64.text_ne_nil (by decide +kernel)⟩
  trusted := by
    refine ⟨⟨⟨"NoNe", none⟩, ?_, by decide⟩, rfl⟩
    rw [foreignSegments, segmentOf, segmentBytes?_text, Option.bind_some]
    decide +kernel
  payload := by
    rw [foreignSegments, segmentOf, segmentOf, segmentBytes?_text, Option.bind_some]
    decide +kernel

/-- A token from elsewhere, just before it expires. -/
theorem ofToken_of_identify_foreign :
    ∃ i c, lenient.identify foreignSegments.text 8 = .ok i
      ∧ Credential.ofToken foreignSegments.text = .ok c
      ∧ c.expiresAt = 9 ∧ i.expiresAt = 9 ∧ c.isExpired 8 = false
      ∧ c.header = "Bearer " ++ foreignSegments.text
      ∧ (bearerToken [("authorization", Utf8.ofString c.header)]).value
        = .ok foreignSegments.text := by
  have haccept : (lenient.accept foreignClaims 8).toOption.map Identity.expiresAt = some 9 := by
    decide
  obtain ⟨i, hi, hexpiry⟩ := Option.map_eq_some_iff.1 haccept
  have hok : lenient.identify foreignSegments.text 8 = .ok i := by
    rw [authenticates_foreign.identify]
    exact toOption_eq_some_iff.1 hi
  obtain ⟨c, hc, hsame, hgood, hheader, htaken⟩ := ofToken_of_identify hok
  exact ⟨i, c, hok, hc, hsame.trans hexpiry, hexpiry, hgood, hheader, htaken _ rfl⟩

/-! ## Tokens that the bridge issues -/

variable {p : Principal} {t₀ : Int64} {credential : Credential}

/-- **What a client makes of an issued token**, if anything: the token is not too large then, and
the credential expires with it. -/
theorem ofToken_issued (h : policy.issue p t₀ = .ok token)
    (hc : Credential.ofToken token = .ok credential) :
    (Utf8.ofString token).length ≤ maxTokenBytes
      ∧ credential = ⟨⟨token⟩, Instant.after t₀ policy.lifetime⟩ := by
  cases hs : Segments.split token with
  | error why =>
    -- a token that is too large would not have made a credential
    rw [Credential.ofToken_of_not_split hs] at hc
    exact absurd hc (by simp)
  | ok s =>
    obtain ⟨-, -, hsize⟩ := Segments.split_eq_ok_iff.1 hs
    exact ⟨hsize, Except.ok.inj (hc.symm.trans (authenticates_issue h hsize).ofToken)⟩

/-- The bridge takes a token from a request and lets its bearer in as a principal. -/
structure LetsIn (policy : Policy) (p : Principal) (token : String) (t : Int64)
    (r : Http.Request) : Prop where
  taken : (bearerToken r.headers).value = .ok token
  identity : ∃ i, policy.identify token t = .ok i
    ∧ (admitBearer (.ofPolicy policy) t r).value = .ok i
    ∧ i.authenticationType = p.authenticationType
    ∧ i.canonicalName = BearerBridge.canonicalName p.name

/-- The bridge lets the client of an issued token in from the instant of issue until the credential
of the client expires. -/
theorem letsIn_of_not_expired (h : policy.issue p t₀ = .ok token)
    (hc : Credential.ofToken token = .ok credential) {t : Int64} (hfrom : t₀ ≤ t)
    (hgood : credential.isExpired t = false) {hs : Http.Headers}
    (hbare : hs.get? "authorization" = none) {r : Http.Request}
    (hr : r.headers = Credential.headersAfter (.ok credential) hs) :
    policy.LetsIn p token t r := by
  obtain ⟨hsize, rfl⟩ := ofToken_issued h hc
  rw [Credential.isExpired, decide_eq_false_iff_not] at hgood
  have hidentify : policy.identify token t
      = .ok (policy.identityFor p t₀ (Instant.after t₀ policy.lifetime)) := by
    rw [identify_issued h hsize, if_neg hgood, if_neg (Int64.not_lt.2 hfrom)]
  have hheader :
      r.headers.get? "authorization" = some (Utf8.ofString (Credential.headerOf token)) := by
    rw [hr]
    exact Credential.get?_attach hbare
  exact ⟨(authenticates_issue h hsize).value_bearerToken hheader, _, hidentify,
    value_admitBearer_issued h hsize hfrom (Int64.not_le.1 hgood) hheader, rfl, rfl⟩

/-- Once the credential of its client has expired, an issued token has expired for the bridge. -/
theorem identify_of_expired (h : policy.issue p t₀ = .ok token)
    (hc : Credential.ofToken token = .ok credential) {t : Int64}
    (hexpired : credential.isExpired t = true) : policy.identify token t = .error .expired := by
  obtain ⟨hsize, rfl⟩ := ofToken_issued h hc
  rw [Credential.isExpired, decide_eq_true_eq] at hexpired
  rw [identify_issued h hsize, if_pos hexpired]

/-- So the guard turns away whoever carries it then. -/
theorem value_admitBearer_of_expired (h : policy.issue p t₀ = .ok token)
    (hc : Credential.ofToken token = .ok credential) {t : Int64}
    (hexpired : credential.isExpired t = true) {r : Http.Request}
    (hheader : r.headers.get? "authorization" = some (Utf8.ofString credential.header)) :
    (admitBearer (.ofPolicy policy) t r).value = .error (.invalidToken .expired) := by
  have hidentify := identify_of_expired h hc hexpired
  obtain ⟨hsize, rfl⟩ := ofToken_issued h hc
  have htoken := (authenticates_issue h hsize).value_bearerToken hheader
  rw [value_admitBearer_ofPolicy htoken, hidentify]
  rfl

/-- **A client that goes by its cache is in step with the bridge.**  Take the credential that a
client makes of an issued token.  From the instant of issue until the credential expires, the
bridge lets in whoever adds it to a request; from then on the token has expired for the bridge
too.  So in every run of a cache, a call that ends with the credential gets its request let in, and
a call that fetches although the cache has the credential does so because the bridge would not
accept it any more. -/
theorem in_step_with_client (h : policy.issue p t₀ = .ok token)
    (hc : Credential.ofToken token = .ok credential) :
    (∀ t hs (r : Http.Request), t₀ ≤ t → credential.isExpired t = false →
        hs.get? "authorization" = none →
        r.headers = Credential.headersAfter (.ok credential) hs → policy.LetsIn p token t r)
      ∧ (∀ t, credential.isExpired t = true →
        policy.identify token t = .error .expired
        ∧ ∀ r : Http.Request,
          r.headers.get? "authorization" = some (Utf8.ofString credential.header) →
          (admitBearer (.ofPolicy policy) t r).value = .error (.invalidToken .expired))
      ∧ ∀ timeout ms s, (CredentialCache.empty timeout).run? ms = some s →
        ∀ (i : Nat) call, s.calls[i]? = some call →
          (call.stage = .finished (.ok credential) → t₀ ≤ call.now →
            ∀ hs (r : Http.Request), hs.get? "authorization" = none →
              r.headers = Credential.headersAfter (.ok credential) hs →
              policy.LetsIn p token call.now r)
          ∧ (call.stage = .fetching → s.current = some credential →
            policy.identify token call.now = .error .expired) := by
  refine ⟨?_, ?_, ?_⟩
  · intro t hs r hfrom hgood hbare hr
    exact letsIn_of_not_expired h hc hfrom hgood hbare hr
  · intro t hexpired
    exact ⟨identify_of_expired h hc hexpired,
      fun r hheader => value_admitBearer_of_expired h hc hexpired hheader⟩
  · intro timeout ms s hrun i call hcall
    constructor
    · intro hstage hfrom hs r hbare hr
      have hgood := CredentialCache.isExpired_of_finished hrun hcall hstage
      exact letsIn_of_not_expired h hc hfrom hgood hbare hr
    · intro hstage hcurrent
      have hpast := CredentialCache.isExpired_of_fetching hrun hcall hstage hcurrent
      exact identify_of_expired h hc hpast

/-- One call fetches a token at instant 1000, and another call fetches at instant 1900. -/
def twoFetches (token : String) : List Move :=
  [.arrive CredentialCache.sharedTarget 1000 true, .look 0, .queue 0, .enter 0, .lookAgain 0,
    .answer 0 (.ok token), .leave 0, .arrive CredentialCache.sharedTarget 1900 true, .look 1,
    .queue 1, .enter 1, .lookAgain 1]

/-- The second call fetches when the first one's credential has expired meanwhile. -/
theorem run?_twoFetches (hc : Credential.ofToken token = .ok credential)
    (hgood : credential.isExpired 1000 = false) (hexpired : credential.isExpired 1900 = true) :
    ∃ s, (CredentialCache.empty none).run? (twoFetches token) = some s
      ∧ s.calls = [⟨CredentialCache.sharedTarget, 1000, .finished (.ok credential)⟩,
        ⟨CredentialCache.sharedTarget, 1900, .fetching⟩]
      ∧ s.current = some credential := by
  have haccept : CredentialCache.accept 1000 (.ok token) = .ok credential :=
    CredentialCache.accept_eq_ok_iff.2 ⟨token, rfl, hc, hgood⟩
  refine ⟨⟨none, some credential, [1],
    [⟨CredentialCache.sharedTarget, 1000, .finished (.ok credential)⟩,
      ⟨CredentialCache.sharedTarget, 1900, .fetching⟩],
    [.fetchStarted 0, .published credential, .fetchStarted 1]⟩, ?_, rfl, rfl⟩
  simp [twoFetches, CredentialCache.run?, CredentialCache.step, CredentialCache.empty,
    CredentialCache.advance, CredentialCache.note, CredentialCache.stage?, CredentialCache.valid?,
    CredentialCache.settle, haccept, Option.filter_some, hexpired]

/-- A token of fifteen minutes: it is good for the first of two calls up to its last second, and
the second call fetches no earlier than it has to. -/
theorem in_step_with_client_alice :
    ∃ token credential s,
      Fixture.policy.issue (Fixture.principal "BRIDGE\\alice") 1000 = .ok token
      ∧ Credential.ofToken token = .ok credential
      ∧ (CredentialCache.empty none).run? (twoFetches token) = some s
      ∧ s.outcome? 0 = some (.ok credential) ∧ s.isFetching 1 = true
      ∧ (∀ r : Http.Request, r.headers = Credential.headersAfter (.ok credential) [] →
        Fixture.policy.LetsIn (Fixture.principal "BRIDGE\\alice") token 1000 r
        ∧ Fixture.policy.LetsIn (Fixture.principal "BRIDGE\\alice") token 1899 r)
      ∧ Fixture.policy.identify token 1900 = .error .expired := by
  have hissue : Fixture.policy.issue (Fixture.principal "BRIDGE\\alice") 1000
      = .ok (Fixture.policy.encode
        (Fixture.policy.statedClaims (Fixture.principal "BRIDGE\\alice") 1000)) :=
    issue_eq_ok_iff.2 ⟨by decide +kernel, by decide +kernel, rfl⟩
  have hsize : (Utf8.ofString (Fixture.policy.encode
      (Fixture.policy.statedClaims (Fixture.principal "BRIDGE\\alice") 1000))).length
        ≤ maxTokenBytes :=
    length_encode_le_max (by decide +kernel)
  have hc := (authenticates_issue hissue hsize).ofToken
  obtain ⟨hserves, -, hruns⟩ := in_step_with_client hissue hc
  obtain ⟨s, hrun, hcalls, hcurrent⟩ := run?_twoFetches hc (by decide +kernel) (by decide +kernel)
  have hfirst := hruns none _ s hrun 0 _ (by rw [hcalls]; rfl)
  have hsecond := hruns none _ s hrun 1 _ (by rw [hcalls]; rfl)
  refine ⟨_, _, s, hissue, hc, hrun, ?_, ?_, fun r hr => ⟨?_, ?_⟩, hsecond.2 rfl hcurrent⟩
  · rw [CredentialCache.outcome?, CredentialCache.stage?, hcalls]
    rfl
  · rw [CredentialCache.isFetching, CredentialCache.stage?, hcalls]
    rfl
  · exact hfirst.1 rfl (by decide) [] r rfl hr
  · exact hserves 1899 [] r (by decide) (by decide +kernel) rfl hr

end Policy

end BearerBridge
