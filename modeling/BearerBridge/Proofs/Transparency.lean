/-
# The bridge behind the pages

A page behind a bearer token tells a client the same about itself as a page behind the handshake.
What a proxy asserts comes through the bridge claim by claim: all of it travels, and as it names
the user once and the groups together, writing and reading does not change the order.

* `regroup_outgoing_asserted` : what a proxy asserts comes through as it is;
* `sameButName_summaryMembers` : what a summary tells does not depend on the page;
* `transparent` : the summary with a token beside the summary with the handshake.
-/
import BearerBridge.Proofs.Pages
import BearerBridge.Proofs.RoundTrip
import BearerBridge.Proofs.Summaries

namespace BearerBridge

/-! ## Asserted claims -/

/-- **What a proxy asserts comes through as it is**: no claim is held back, and none changes its
place. -/
theorem Proxy.regroup_outgoing_asserted (proxy : Proxy) (hs : Http.Headers) (user : String) :
    (proxy.asserted hs user).outgoing.regroup = (proxy.asserted hs user).claims := by
  have hgroups : ∀ groups : List String, ∀ x ∈ groups.map (Claim.mk Kind.group),
      x.kind = Kind.group := by
    intro groups x hx
    obtain ⟨group, -, rfl⟩ := List.mem_map.1 hx
    rfl
  -- names and groups are the kinds that pass
  have hall : (proxy.asserted hs user).outgoing = (proxy.asserted hs user).claims := by
    rw [Principal.outgoing, ClaimSet.keepKinds, List.filter_eq_self]
    intro x hx
    rcases List.mem_cons.1 hx with rfl | hx
    · rfl
    · rw [hgroups _ x hx]
      rfl
  rw [hall, asserted]
  dsimp only
  rw [ClaimSet.regroup_cons, ClaimSet.regroup_of_single (hgroups _)]
  intro x hx
  rw [hgroups _ x hx]
  show Kind.group ≠ Kind.name
  decide

/-- The claims of whom a proxy asserts come through. -/
theorem Proxy.regroup_outgoing_of_authenticate {proxy : Proxy} {r : Http.Request} {p : Principal}
    (h : (proxy.authenticate r).value = .ok (some p)) : p.outgoing.regroup = p.claims := by
  rw [authenticate] at h
  split at h
  · exact absurd h (by simp)
  · next user _ =>
    split at h
    · obtain rfl : proxy.asserted r.headers user = p := Option.some.inj (Except.ok.inj h)
      exact regroup_outgoing_asserted ..
    · exact absurd h (by simp)

/-! ## Summaries -/

/-- Two summaries tell the same about a client, the one with the canonical form of its name and the
other one with the name itself.  Both list the claims of the client in their order, the groups when
they are asked for. -/
structure SameButName (client : Client) (keepGroups : Bool)
    (ms ms' : List (String × Json.Value)) : Prop where
  same : ∀ member ∈ ["is_authenticated", "authentication_type", "claims", "group_count"],
    ∃ v, ms.lookup member = some v ∧ ms'.lookup member = some v
  canonical : ms.lookup "name" = some (.text (canonicalName client.name))
  plain : ms'.lookup "name" = some (.text client.name)
  claims : ms'.lookup "claims" = some (.array ((client.claims.filter fun c =>
    keepGroups || c.kind != Kind.group).map fun c => .text c.line))

/-- What a summary tells about a client does not depend on the page. -/
theorem sameButName_summaryMembers (r r' : Http.Request) (client : Client) (keep : Bool) :
    SameButName client keep
      (summaryMembers r (some { client with name := canonicalName client.name }) keep)
      (summaryMembers r' (some client) keep) where
  same := by simp [summaryMembers, List.lookup_cons]
  canonical := by simp [summaryMembers, List.lookup_cons]
  plain := by simp [summaryMembers, List.lookup_cons]
  claims := by simp [summaryMembers, List.lookup_cons, ClaimSet.shown_eq_filter]

/-! ## Token and handshake -/

namespace Routes

variable {path : String} {policy : Policy} {proxy : Proxy} {exporter : Exporter} {routes : Routes}
  {r : Http.Request} {p : Principal}

/-- Whom the proxy asserts for a request gets past the handshake at every page. -/
theorem verified_of_build
    (hbuild : (build path ⟨policy, []⟩ (.ofPolicy policy) proxy.authenticate exporter).value
      = .ok routes)
    (haccept : (proxy.authenticate r).value = .ok (some p)) (page : String)
    (query : Option String) :
    (routes.tokenPage.authenticator (r.get page query)).value = .ok (some p) := by
  obtain ⟨-, -, rfl⟩ := build_eq_ok_iff.1 hbuild
  dsimp only
  rw [Proxy.authenticate_get, haccept]

/-- The token page issues what the policy does. -/
theorem value_issue_of_build
    (hbuild : (build path ⟨policy, []⟩ (.ofPolicy policy) proxy.authenticate exporter).value
      = .ok routes)
    (now : Int64) (micros : Nat) :
    (routes.tokenPage.issuer.issue p now micros).value = policy.issue p now := by
  obtain ⟨-, -, rfl⟩ := build_eq_ok_iff.1 hbuild
  exact Issuer.value_issue_of_no_hooks ..

/-- The client that an issued token is for is the asserted one, under its canonical name. -/
theorem client_identityFor (haccept : (proxy.authenticate r).value = .ok (some p))
    (issuedAt expiresAt : Int64) :
    (policy.identityFor p issuedAt expiresAt).client
      = { p.client with name := canonicalName p.client.name } := by
  rw [Identity.client, Principal.client, Policy.identityFor,
    Proxy.regroup_outgoing_of_authenticate haccept]

/-- **The bridge is transparent to the pages.**  Take a bridge with one policy and a proxy, and a
request for whose user the token page answers with a token that is not too large.  At every
instant in the window of the token, the page behind the bearer token answers whoever carries it,
and the page behind the handshake answers the request itself, and both summaries tell the same, with
groups and without, but for the form of the name. -/
theorem transparent {recorded : List Measurement} {moment : Moment} {query : Option String}
    {token : Http.Response}
    (hbuild : (build path ⟨policy, []⟩ (.ofPolicy policy) proxy.authenticate exporter).value
      = .ok routes)
    (haccept : (proxy.authenticate r).value = .ok (some p))
    (htoken : (routes.respond recorded moment (r.get path query)).value = token)
    (hstatus : token.status = 200)
    (hsize : (Utf8.ofString token.body).length ≤ maxTokenBytes) :
    ∃ c, Token.claims token.body = .ok c
      ∧ ∀ (moment₁ moment₂ : Moment) recorded₁ recorded₂ (query₁ query₂ : Option String) keep
        (bearer : Http.Request),
        c.notBefore ≤ moment₁.now → moment₁.now < c.expiry →
        bearer.headers.get? "authorization"
          = some (Utf8.ofString (Credential.headerOf token.body)) →
        keepGroups? query₁ = some keep → keepGroups? query₂ = some keep →
        ∃ ms ms', SameButName p.client keep ms ms'
          ∧ (routes.respond recorded₁ moment₁ (bearer.get "/protected" query₁)).value
            = .json 200 ms
          ∧ (routes.respond recorded₂ moment₂ (r.get "/protected_negotiate" query₂)).value
            = .json 200 ms' := by
  -- the token page has issued to the asserted principal, so its token brings that principal back
  have hissue := issue_of_respond_token (page?_of_build hbuild)
    (verified_of_build hbuild haccept path query) htoken hstatus
  rw [value_issue_of_build hbuild] at hissue
  refine ⟨_, (Policy.authenticates_issue hissue hsize).claims, ?_⟩
  intro moment₁ moment₂ recorded₁ recorded₂ query₁ query₂ keep bearer hfrom huntil hheader
    hkeep₁ hkeep₂
  have hadmit := value_admitBearer_issued hissue hsize hfrom huntil hheader
  have hvalidator : routes.validator = .ofPolicy policy := by
    obtain ⟨-, -, rfl⟩ := build_eq_ok_iff.1 hbuild
    rfl
  rw [← hvalidator] at hadmit
  have hverified := verified_of_build hbuild haccept "/protected_negotiate" query₂
  refine ⟨_, _, sameButName_summaryMembers (bearer.get "/protected" query₁)
    (r.get "/protected_negotiate" query₂) p.client keep, ?_, respond_negotiated hverified hkeep₂⟩
  rw [respond_protectedPage hadmit hkeep₁, client_identityFor haccept]

/-- A proxy on the same machine. -/
def localProxy : Proxy :=
  ⟨[.v4 0x7F00 1], .usual⟩

/-- What the proxy adds to the request of a user who is in a group twice. -/
def assertion : Http.Request where
  method := "GET"
  target := ⟨"/", none⟩
  version := .v11
  headers := [("x-remote-user", Utf8.ofString " CORP\\alice"),
    ("x-remote-groups", Utf8.ofString "g1,,g2, g1")]
  peer := some (.v4 0x7F00 1)

/-- A bridge behind that proxy whose numbers nobody collects. -/
def localBridge : Routes :=
  ⟨⟨"/token", ⟨Policy.usual, []⟩, localProxy.authenticate⟩, .ofPolicy Policy.usual, .detached⟩

/-- The token page of a bridge like that is there, whatever the proxy. -/
theorem build_localBridge (proxy : Proxy) :
    (build "/token" ⟨Policy.usual, []⟩ (.ofPolicy Policy.usual) proxy.authenticate .detached).value
      = .ok ⟨⟨"/token", ⟨Policy.usual, []⟩, proxy.authenticate⟩, .ofPolicy Policy.usual,
        .detached⟩ :=
  build_eq_ok_iff.2 ⟨by decide, by decide, rfl⟩

/-- The token that the bridge gives to the user. -/
def localToken : String :=
  Policy.usual.encode
    (Policy.usual.statedClaims (localProxy.asserted assertion.headers "CORP\\alice") 1000)

/-- The proxy asserts the user. -/
theorem authenticate_assertion :
    (localProxy.authenticate assertion).value
      = .ok (some (localProxy.asserted assertion.headers "CORP\\alice")) := by
  have hread : (localProxy.authenticate assertion).value.toOption
      = some (some (localProxy.asserted assertion.headers "CORP\\alice")) := by
    decide +kernel
  exact toOption_eq_some_iff.1 hread

theorem issue_localToken :
    Policy.usual.issue (localProxy.asserted assertion.headers "CORP\\alice") 1000
      = .ok localToken :=
  Policy.issue_eq_ok_iff.2 ⟨by decide +kernel, by decide, rfl⟩

/-- The token page answers the user with the token. -/
theorem respond_localToken :
    (localBridge.respond [] ⟨1000, 0⟩ (assertion.get "/token" none)).value
      = (Http.Response.plain 200 localToken).withHeader "cache-control" "no-store" := by
  have hbuild : (build "/token" ⟨Policy.usual, []⟩ (.ofPolicy Policy.usual)
      localProxy.authenticate .detached).value = .ok localBridge :=
    build_localBridge localProxy
  rw [respond_token (page?_of_build hbuild) (verified_of_build hbuild authenticate_assertion _ _),
    value_issue_of_build hbuild, issue_localToken]

/-- The two summaries just before the token expires, with groups. -/
theorem transparent_assertion :
    ∃ ms ms', SameButName ⟨"CORP\\alice", "Negotiate", [⟨Kind.name, "CORP\\alice"⟩,
        ⟨Kind.group, "g1"⟩, ⟨Kind.group, "g2"⟩, ⟨Kind.group, "g1"⟩]⟩ true ms ms'
      ∧ (localBridge.respond [] ⟨1899, 0⟩ (Http.Request.get { assertion with
          headers := [("authorization", Utf8.ofString (Credential.headerOf localToken))] }
          "/protected" (some "keep_groups"))).value = .json 200 ms
      ∧ (localBridge.respond [] ⟨1899, 0⟩
          (assertion.get "/protected_negotiate" (some "keep_groups"))).value = .json 200 ms' := by
  have hbuild : (build "/token" ⟨Policy.usual, []⟩ (.ofPolicy Policy.usual)
      localProxy.authenticate .detached).value = .ok localBridge :=
    build_localBridge localProxy
  have hclient : (localProxy.asserted assertion.headers "CORP\\alice").client
      = ⟨"CORP\\alice", "Negotiate", [⟨Kind.name, "CORP\\alice"⟩, ⟨Kind.group, "g1"⟩,
        ⟨Kind.group, "g2"⟩, ⟨Kind.group, "g1"⟩]⟩ := by
    decide +kernel
  have hsize : (Utf8.ofString localToken).length ≤ maxTokenBytes :=
    Policy.length_encode_le_max (by decide +kernel)
  obtain ⟨c, hc, hsummaries⟩ := transparent hbuild authenticate_assertion
    respond_localToken rfl hsize
  obtain rfl := Except.ok.inj
    ((Policy.authenticates_issue issue_localToken hsize).claims.symm.trans hc)
  have huntil : (1899 : Int64) < Instant.after 1000 Policy.usual.lifetime := by decide +kernel
  have hkeep : keepGroups? (some "keep_groups") = some true := by decide +kernel
  have hheader : ∀ v : List UInt8,
      Http.Headers.get? [("authorization", v)] "authorization" = some v := fun v => rfl
  rw [← hclient]
  exact hsummaries ⟨1899, 0⟩ ⟨1899, 0⟩ [] [] _ _ true { assertion with
    headers := [("authorization", Utf8.ofString (Credential.headerOf localToken))] }
    (by decide) huntil (hheader _) hkeep hkeep

end Routes

end BearerBridge
