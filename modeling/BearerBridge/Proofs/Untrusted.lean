/-
# Requests of strangers

What the headers of a request assert counts when the request comes from the proxy, and from nowhere
else.  A stranger may send whatever headers it likes: the handshake verifies nobody, and each page
behind it answers with one and the same challenge.  Who is a stranger does not depend on how
addresses are spelled, in version 4 or as one of version 6; the spelling shows up in the log and
nowhere else.

* `Address.Same` : one address in both of its spellings;
* `Proxy.IsStranger` : who is not trusted;
* `Traced.Agree` : computations that differ in the spelling of addresses in the log;
* `authenticate_agree`, `respond_agree`, `serve_agree` : nothing else depends on spellings;
* `strangers_ignored` : strangers, whatever their headers, and spellings have no influence.
-/
import BearerBridge.Proofs.Guards
import BearerBridge.Proofs.Transparency

namespace BearerBridge

/-! ## Spellings of an address -/

namespace Address

variable {a b : Address}

/-- The same address, perhaps the one in version 4 and the other one in version 6. -/
def Same (a b : Address) : Prop := a = b ∨ a = b.mapped ∨ b = a.mapped

/-- The spellings of an address are those with its canonical form. -/
theorem same_iff : a.Same b ↔ a.canonical = b.canonical := by
  constructor
  · rintro (rfl | rfl | rfl)
    · rfl
    · exact canonical_mapped b
    · exact (canonical_mapped a).symm
  · -- an address is its canonical form, or that form among those of version 6
    have hform : ∀ a : Address, a = a.canonical ∨ a = a.canonical.mapped := by
      intro a
      fun_cases canonical a with
      | case1 high low => exact .inr rfl
      | case2 => exact .inl rfl
    -- what is in version 6 and canonical has no other spelling
    have hmapped : ∀ a : Address, a = a.canonical → a = b.canonical.mapped →
        a = b.canonical := by
      intro a hcanonical ha
      rw [ha, canonical_mapped, canonical_canonical] at hcanonical
      rw [ha, hcanonical]
    intro h
    rcases hform a with ha | ha <;> rcases hform b with hb | hb
    · exact .inl (ha.trans (h.trans hb.symm))
    · exact .inr (.inr (by rw [hb, ← h, ← ha]))
    · exact .inr (.inl (by rw [ha, h, ← hb]))
    · exact .inl (by rw [ha, h, ← hb])

end Address

/-! ## Strangers -/

namespace Proxy

variable {proxy proxy' : Proxy} {r r' : Http.Request}

/-- Who is not trusted: whoever does not come from a known address that is one of the proxy's in
canonical form. -/
def IsStranger (proxy : Proxy) (peer : Option Address) : Prop :=
  ∀ a, peer = some a → ∀ t ∈ proxy.trusted, t.canonical ≠ a.canonical

theorem isStranger_iff {peer : Option Address} :
    proxy.IsStranger peer ↔ peer.any proxy.trusts = false := by
  cases peer with
  | none => simp [IsStranger]
  | some a => simp [IsStranger, trusts]

/-- **A stranger is verified as nobody**, whatever its headers assert. -/
theorem authenticate_of_isStranger (h : proxy.IsStranger r.peer) :
    (proxy.authenticate r).value = .ok none := by
  rw [authenticate]
  split
  · rfl
  · rw [if_neg (by simp [isStranger_iff.1 h])]
    rfl

end Proxy

/-- The challenge to pass the handshake. -/
def challenge : Http.Response :=
  (Http.Response.json 401
    [("error", .object [("code", .text "HANDSHAKE_REQUIRED"),
      ("message", .text "Negotiate authentication is required")])]).withHeader
    "www-authenticate" "Negotiate"

/-! ## Computations and spellings -/

/-- A report with the address in it in canonical form. -/
def Report.canonical : Report → Report
  | .event (.untrustedPeer peer) => .event (.untrustedPeer (peer.map Address.canonical))
  | report => report

namespace Traced

variable {α β : Type} {t t' : Traced α}

/-- Computations that differ at most in how addresses are spelled in what they report. -/
structure Agree (t t' : Traced α) : Prop where
  value : t.value = t'.value
  reports : t.reports.map Report.canonical = t'.reports.map Report.canonical

theorem Agree.refl (t : Traced α) : t.Agree t := ⟨rfl, rfl⟩

/-- Steps that agree, one after the other. -/
theorem Agree.bind {f f' : α → Traced β} (h : t.Agree t') (hf : ∀ a, (f a).Agree (f' a)) :
    (t >>= f).Agree (t' >>= f') where
  value := by
    rw [value_bind, value_bind, h.value]
    exact (hf _).value
  reports := by
    rw [reports_bind, reports_bind, List.map_append, List.map_append, h.reports, h.value,
      (hf _).reports]

theorem Agree.map (f : α → β) (h : t.Agree t') : (f <$> t).Agree (f <$> t') where
  value := by rw [value_map, value_map, h.value]
  reports := by rw [reports_map, reports_map, h.reports]

/-- What is told apart without looking at addresses does not depend on spellings. -/
theorem Agree.filterMap (h : t.Agree t') {f : Report → Option β}
    (hf : ∀ report : Report, f report.canonical = f report) :
    t.reports.filterMap f = t'.reports.filterMap f := by
  have hcanonical : ∀ reports : List Report,
      reports.filterMap f = (reports.map Report.canonical).filterMap f := by
    intro reports
    rw [List.filterMap_map]
    congr 1
    funext report
    exact (hf report).symm
  rw [hcanonical, h.reports, ← hcanonical]

/-- What is measured does not depend on spellings. -/
theorem Agree.measurements (h : t.Agree t') : t.measurements = t'.measurements := by
  refine h.filterMap fun report => ?_
  rcases report with e | m | c
  · cases e <;> rfl
  · rfl
  · rfl

end Traced

/-! ## Proxies and requests in other spellings -/

/-- The same proxy, its addresses perhaps spelled otherwise. -/
structure Proxy.Alike (proxy proxy' : Proxy) : Prop where
  headers : proxy.headers = proxy'.headers
  trusted : List.Forall₂ Address.Same proxy.trusted proxy'.trusted

/-- The same request, the address that it comes from perhaps spelled otherwise. -/
inductive Http.Request.Alike : Request → Request → Prop where
  | respelled (r : Request) {peer : Option Address} (h : Option.Rel Address.Same r.peer peer) :
      Alike r { r with peer }

namespace Proxy

variable {proxy proxy' : Proxy} {peer peer' : Option Address} {r r' : Http.Request}

theorem canonical_of_rel (h : Option.Rel Address.Same peer peer') :
    peer.map Address.canonical = peer'.map Address.canonical := by
  cases h with
  | none => rfl
  | some ha => exact congrArg some (Address.same_iff.1 ha)

/-- Trust does not depend on spellings. -/
theorem Alike.any_trusts (h : proxy.Alike proxy') (hpeer : Option.Rel Address.Same peer peer') :
    peer.any proxy.trusts = peer'.any proxy'.trusts := by
  have htrusted : ∀ {ts ts' : List Address}, List.Forall₂ Address.Same ts ts' →
      ts.map Address.canonical = ts'.map Address.canonical := by
    intro ts ts' hts
    induction hts with
    | nil => rfl
    | cons ht _ ih => rw [List.map_cons, List.map_cons, Address.same_iff.1 ht, ih]
  -- whom a proxy trusts is a matter of canonical forms
  have hany : ∀ (proxy : Proxy) (peer : Option Address), peer.any proxy.trusts
      = (peer.map Address.canonical).any
        fun a => (proxy.trusted.map Address.canonical).any (· == a) := by
    intro proxy peer
    cases peer with
    | none => rfl
    | some a => simp [Proxy.trusts, Function.comp_def]
  rw [hany, hany, canonical_of_rel hpeer, htrusted h.trusted]

/-- **Whom the handshake verifies does not depend on spellings.** -/
theorem authenticate_agree (h : proxy.Alike proxy') (hr : r.Alike r') :
    (proxy.authenticate r).Agree (proxy'.authenticate r') := by
  obtain ⟨hpeer⟩ := hr
  have hasserted : proxy'.asserted = proxy.asserted := by
    funext hs user
    rw [asserted, asserted, h.headers]
  rw [authenticate, authenticate, ← h.headers, hasserted]
  dsimp only
  rw [h.any_trusts hpeer]
  cases header? r.headers proxy.headers.user with
  | none => exact .refl _
  | some user =>
    dsimp only
    split
    · exact .refl _
    · have hreport := congrArg (fun peer => [Report.event (.untrustedPeer peer)])
        (canonical_of_rel hpeer)
      exact ⟨rfl, hreport⟩

end Proxy

/-- The guard of the handshake does not depend on spellings. -/
theorem admitHandshake_agree {authenticator authenticator' : Authenticator}
    {r r' : Http.Request} (h : (authenticator r).Agree (authenticator' r')) :
    (admitHandshake authenticator r).Agree (admitHandshake authenticator' r') := by
  rw [admitHandshake, admitHandshake]
  exact .bind (.refl _) fun _ => .bind h fun _ => .refl _

namespace Routes

variable {path : String} {issuer : Issuer} {validator : Validator} {proxy proxy' : Proxy}
  {exporter : Exporter} {routes routes' : Routes} {recorded : List Measurement} {moment : Moment}
  {r r' : Http.Request}

/-- **What is answered does not depend on spellings.** -/
theorem respond_agree (h : proxy.Alike proxy') (hr : r.Alike r')
    (hbuild : (build path issuer validator proxy.authenticate exporter).value = .ok routes)
    (hbuild' : (build path issuer validator proxy'.authenticate exporter).value = .ok routes')
    (recorded : List Measurement) (moment : Moment) :
    (routes.respond recorded moment r).Agree (routes'.respond recorded moment r') := by
  have hadmit := admitHandshake_agree (Proxy.authenticate_agree h hr)
  obtain ⟨-, -, rfl⟩ := build_eq_ok_iff.1 hbuild
  obtain ⟨-, -, hroutes'⟩ := build_eq_ok_iff.1 hbuild'
  have hsame : routes'.page? r'.target.path
      = page? ⟨⟨path, issuer, proxy.authenticate⟩, validator, exporter⟩ r.target.path := by
    obtain ⟨-⟩ := hr
    rw [hroutes']
    rfl
  cases hpage : page? ⟨⟨path, issuer, proxy.authenticate⟩, validator, exporter⟩ r.target.path with
  | none =>
    rw [respond_of_no_page hpage, respond_of_no_page (hsame.trans hpage)]
    exact .refl _
  | some page =>
    rw [respond_of_page hpage, respond_of_page (hsame.trans hpage), hroutes']
    obtain ⟨hpeer⟩ := hr
    refine .map (forMethod r) ?_
    -- only the guard of the handshake looks where a request comes from
    cases page with
    | negotiated => exact hadmit.bind fun _ => .refl _
    | token => exact hadmit.bind fun _ => .refl _
    | _ => exact .refl _

/-- **Nor does what is answered to a sequence of requests.** -/
theorem serve_agree (h : proxy.Alike proxy')
    (hbuild : (build path issuer validator proxy.authenticate exporter).value = .ok routes)
    (hbuild' : (build path issuer validator proxy'.authenticate exporter).value = .ok routes')
    {requests requests' : List (Moment × Http.Request)}
    (hrequests : List.Forall₂ (fun x x' => x.1 = x'.1 ∧ x.2.Alike x'.2) requests requests') :
    (routes.serve recorded requests).Agree (routes'.serve recorded requests') := by
  induction hrequests generalizing recorded with
  | nil => exact .refl _
  | @cons x x' rest rest' hx _ ih =>
    obtain ⟨moment, r⟩ := x
    obtain ⟨moment', r'⟩ := x'
    obtain ⟨rfl, hr⟩ := hx
    have hfirst := respond_agree h hr hbuild hbuild' recorded moment
    rw [serve, serve, ← hfirst.measurements]
    exact hfirst.bind fun _ => ih.bind fun _ => .refl _

/-- A stranger is challenged at each page behind the handshake. -/
theorem respond_of_isStranger (h : proxy.IsStranger r.peer) (hget : r.method = "GET")
    (hbuild : (build path issuer validator proxy.authenticate exporter).value = .ok routes)
    (hpath : r.target.path ∈ [path, "/protected_negotiate"]) :
    (routes.respond recorded moment r).value = challenge := by
  obtain ⟨page, hpage, hneeds⟩ := (needsHandshake_iff hbuild).2 hpath
  obtain ⟨-, -, rfl⟩ := build_eq_ok_iff.1 hbuild
  have hrefused : (admitHandshake proxy.authenticate r).value = .error .handshakeRequired := by
    rw [value_admitHandshake, Proxy.authenticate_of_isStranger h]
  have hread : forMethod r challenge = challenge := by
    rw [forMethod, reads, hget]
    rfl
  exact (respond_of_refused hpage hneeds hrefused).trans hread

/-- **Strangers and spellings have no influence.**  Take a bridge behind any proxy.  Whoever does
not come from an address that the proxy trusts is verified as nobody, and gets the same challenge
for each GET of a page behind the handshake, whatever its headers are.  And when addresses that the
proxy trusts or that requests come from are spelled otherwise, the same is verified, answered and
reported, but for the spelling of the addresses in the log. -/
theorem strangers_ignored
    (hbuild : (build path issuer validator proxy.authenticate exporter).value = .ok routes) :
    (∀ r : Http.Request, proxy.IsStranger r.peer →
      (proxy.authenticate r).value = .ok none
      ∧ (r.method = "GET" → r.target.path ∈ [path, "/protected_negotiate"] →
        ∀ recorded moment, (routes.respond recorded moment r).value = challenge))
    ∧ ∀ proxy' routes', proxy.Alike proxy' →
      (build path issuer validator proxy'.authenticate exporter).value = .ok routes' →
      (∀ r r' : Http.Request, r.Alike r' →
        (proxy.authenticate r).Agree (proxy'.authenticate r'))
      ∧ ∀ recorded requests requests',
        List.Forall₂ (fun x x' => x.1 = x'.1 ∧ x.2.Alike x'.2) requests requests' →
        (routes.serve recorded requests).Agree (routes'.serve recorded requests') := by
  constructor
  · intro r hr
    exact ⟨Proxy.authenticate_of_isStranger hr,
      fun hget hpath _ _ => respond_of_isStranger hr hget hbuild hpath⟩
  · intro proxy' routes' h hbuild'
    exact ⟨fun _ _ hr => Proxy.authenticate_agree h hr,
      fun _ _ _ hrequests => serve_agree h hbuild hbuild' hrequests⟩

/-- A request that asserts a user from an address that is not the proxy's. -/
def forgery : Http.Request :=
  { assertion.get "/token" none with peer := some (.v4 0x0A01 0x0203) }

/-- The proxy on the same machine, its address spelled in version 6. -/
def respelledProxy : Proxy :=
  ⟨[.v6 0 0 0 0 0 0xFFFF 0x7F00 1], .usual⟩

/-- The forgery is challenged; a proxy in the other spelling serves the same. -/
theorem strangers_ignored_forgery :
    (localProxy.authenticate forgery).value = .ok none
      ∧ (localBridge.respond [] ⟨1000, 0⟩ forgery).value = challenge
      ∧ (localBridge.serve [] [(⟨1000, 0⟩, assertion), (⟨1000, 0⟩, forgery)]).Agree
        (serve ⟨⟨"/token", ⟨Policy.usual, []⟩, respelledProxy.authenticate⟩,
          .ofPolicy Policy.usual, .detached⟩ []
          [(⟨1000, 0⟩, { assertion with peer := some (.v6 0 0 0 0 0 0xFFFF 0x7F00 1) }),
            (⟨1000, 0⟩, forgery)]) := by
  obtain ⟨hstrangers, hspellings⟩ := strangers_ignored (build_localBridge localProxy)
  have hstranger : localProxy.IsStranger forgery.peer :=
    Proxy.isStranger_iff.2 (by decide)
  have halike : localProxy.Alike respelledProxy := ⟨rfl, .cons (.inr (.inr rfl)) .nil⟩
  have hserve := (hspellings respelledProxy _ halike (build_localBridge _)).2 []
    [(⟨1000, 0⟩, assertion), (⟨1000, 0⟩, forgery)]
  refine ⟨(hstrangers forgery hstranger).1,
    (hstrangers forgery hstranger).2 rfl (by decide) _ _, hserve _ ?_⟩
  exact .cons ⟨rfl, .respelled assertion (.some (.inr (.inr rfl)))⟩
    (.cons ⟨rfl, .respelled forgery (.some (.inl rfl))⟩ .nil)

end Routes

end BearerBridge
