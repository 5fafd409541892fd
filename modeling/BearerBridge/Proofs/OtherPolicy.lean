/-
# Tokens under another policy

One policy issues a token, another one validates it.  If it is accepted, both policies sign alike
and the other one asks for no more than the first one states.  The authentication type is that of
the principal if both policies reserve the same claim, and otherwise it is the default of the
other policy; what else the principal claims has no part in it.

* `signsAlike_of_trusts` : policies that trust the same token sign alike;
* `first?_statedClaims` : what the claims of an issued token say to whoever reserves some kind;
* `issued_elsewhere` : which tokens of one policy another policy accepts, and as whose.
-/
import BearerBridge.Proofs.Outcome
import BearerBridge.Proofs.RoundTrip
import BearerBridge.Proofs.Tampering

namespace BearerBridge

/-! ## Signing alike -/

theorem SigningAlgorithm.eq_of_name_eq {a b : SigningAlgorithm} (h : a.name = b.name) : a = b := by
  have hfound := ofName?_name a
  rw [h, ofName?_name] at hfound
  exact (Option.some.inj hfound).symm

/-- A header segment names one algorithm. -/
theorem SigningAlgorithm.NamedBy.unique {a b : SigningAlgorithm} {segment : String}
    (ha : a.NamedBy segment) (hb : b.NamedBy segment) : a = b :=
  eq_of_name_eq (Option.some.inj (ha.strict_eq.symm.trans hb.strict_eq))

/-- A header segment that names an algorithm does not say that the token has no signature. -/
theorem SigningAlgorithm.NamedBy.not_unsecured {a : SigningAlgorithm} {segment : String}
    (ha : a.NamedBy segment) : ¬ Header.UnsecuredBy segment := by
  rintro ⟨header, hread, hunsecured⟩
  obtain ⟨header', hread', hname⟩ := ha.loose
  obtain rfl := Option.some.inj (hread.symm.trans hread')
  rw [Header.isUnsecured, hname, a.sameWord_unsecured] at hunsecured
  exact absurd hunsecured (by simp)

namespace Policy

variable {A B : Policy} {p : Principal} {token : String} {s : Segments} {c : TokenClaims}
  {t₀ t₁ : Int64}

/-- Two policies sign alike: neither signs, or both use the same algorithm, with keys under which
the text has the same signature. -/
def SignsAlike (A B : Policy) (signed : String) : Prop :=
  (A.signing? = none ∧ B.signing? = none)
    ∨ ∃ a key key', A.signing? = some (key, a) ∧ B.signing? = some (key', a)
      ∧ Token.signature a key signed = Token.signature a key' signed

/-- **Policies that trust the same token sign alike.** -/
theorem signsAlike_of_trusts (hA : A.Trusts s) (hB : B.Trusts s) :
    A.SignsAlike B s.signedText := by
  unfold Trusts at hA hB
  split at hA
  · next key a hkey =>
    split at hB
    · next key' b hkey' =>
      obtain rfl := hA.1.unique hB.1
      exact Or.inr ⟨a, key, key', hkey, hkey', hA.2.symm.trans hB.2⟩
    · -- the header cannot name an algorithm and say that there is none
      exact absurd hB.1 hA.1.not_unsecured
  · next hkey =>
    split at hB
    · exact absurd hA.1 hB.1.not_unsecured
    · next hkey' => exact Or.inl ⟨hkey, hkey'⟩

/-! ## What the other policy reads -/

/-- An issued token has the segments that its policy wrote, and its claims are the stated ones,
whoever finds it authentic. -/
theorem Authenticates.of_issue (h : B.Authenticates token s c)
    (hissue : A.issue p t₀ = .ok token) :
    s = A.segments (A.statedClaims p t₀) ∧ c = (A.statedClaims p t₀).regroup := by
  obtain ⟨-, hreserved, htoken⟩ := issue_eq_ok_iff.1 hissue
  -- both policies see the same text, and a text is segments in one way only
  rw [encode_eq_text, h.text] at htoken
  have hs := (Segments.eq_of_text_eq h.wellFormed htoken.symm).symm
  have hread : TokenClaims.read? (Utf8.encode (A.statedClaims p t₀).chars)
      = some (A.statedClaims p t₀).regroup :=
    TokenClaims.read?_chars_regroup_iff.2 fun x hx => kind_of_mem_statedClaims hreserved hx
  have hc := h.payload
  rw [hs, read?_payload_segments, hread] at hc
  exact ⟨hs, (Option.some.inj hc).symm⟩

/-- **What the claims of an issued token say to whoever reserves some kind** that claims of
principals may not have: the authentication type if the issuer reserves the same kind, and
otherwise nothing. -/
theorem first?_statedClaims {reserved : String} (h : reservedClaimFault? reserved = none) :
    (A.statedClaims p t₀).regroup.claims.first? reserved
      = if reserved = A.authenticationTypeClaim then some p.authenticationType else none := by
  have hregroup : (A.statedClaims p t₀).regroup.claims.first? reserved
      = (p.outgoing ++ [⟨A.authenticationTypeClaim, p.authenticationType⟩] : ClaimSet).first?
        reserved := by
    rw [ClaimSet.first?_eq_head?_values, TokenClaims.regroup, ClaimSet.values_regroup,
      ← ClaimSet.first?_eq_head?_values, statedClaims]
  have hother : ∀ x ∈ p.outgoing, x.kind ≠ reserved := fun x hx => kind_ne_of_mem_outgoing h hx
  rw [hregroup]
  -- the claims that travel are of other kinds, so only the issuer's reserved claim can be found
  split
  · next hsame =>
    subst hsame
    exact ClaimSet.first?_concat hother
  · next hdiff =>
    rw [ClaimSet.first?, Option.map_eq_none_iff, List.find?_eq_none]
    intro x hx he
    rcases List.mem_append.1 hx with hx | hx
    · exact hother x hx (eq_of_beq he)
    · obtain rfl := List.mem_singleton.1 hx
      exact hdiff (eq_of_beq he).symm

/-- The authentication type that the other policy finds. -/
theorem authenticationType?_statedClaims {type : String}
    (h : reservedClaimFault? B.authenticationTypeClaim = none)
    (htype : Identity.authenticationType? (A.statedClaims p t₀).regroup.claims
      B.authenticationTypeClaim B.defaultAuthenticationType = some type) :
    if B.authenticationTypeClaim = A.authenticationTypeClaim then type = p.authenticationType
    else B.defaultAuthenticationType = some type := by
  rw [Identity.authenticationType?, first?_statedClaims h, Option.filter_eq_some_iff] at htype
  obtain ⟨hfound, -⟩ := htype
  split
  · next hsame =>
    rw [if_pos hsame, Option.some_or] at hfound
    exact (Option.some.inj hfound).symm
  · next hdiff =>
    rw [if_neg hdiff, Option.none_or] at hfound
    exact hfound

/-- What it takes for another policy to accept an issued token. -/
theorem read_elsewhere {i : Identity} (hissue : A.issue p t₀ = .ok token)
    (hok : B.identify token t₁ = .ok i) :
    Segments.split token = .ok (A.segments (A.statedClaims p t₀))
      ∧ B.Trusts (A.segments (A.statedClaims p t₀))
      ∧ B.accept (A.statedClaims p t₀).regroup t₁ = .ok i := by
  obtain ⟨s, c, hauth, haccept⟩ := exists_authenticates_of_identify hok
  obtain ⟨rfl, rfl⟩ := hauth.of_issue hissue
  exact ⟨hauth.split, hauth.trusted, haccept⟩

/-! ## Issued here, accepted there -/

/-- **The authentication type that the other policy finds**: that of the principal, if both
policies reserve the same claim, and otherwise the default of the other policy. -/
theorem type_elsewhere {i : Identity} (hissue : A.issue p t₀ = .ok token)
    (hok : B.identify token t₁ = .ok i)
    (hreserved : reservedClaimFault? B.authenticationTypeClaim = none) :
    if B.authenticationTypeClaim = A.authenticationTypeClaim then
      i.authenticationType = p.authenticationType
    else B.defaultAuthenticationType = some i.authenticationType := by
  obtain ⟨-, -, haccept⟩ := read_elsewhere hissue hok
  obtain ⟨type, htype, rfl⟩ := Identity.eq_of_ofTokenClaims (ofTokenClaims_of_accept haccept)
  exact authenticationType?_statedClaims hreserved htype

/-- **Which tokens of one policy another policy accepts, and as whose.**  The policies sign the
token alike, the other one expects no issuer and no audience but those that the first one states,
and the instant is in the window that the first one gives.  The name is that of the principal.  If
the other policy reserves a kind that it may reserve, the authentication type is that of the
principal or the default of the other policy, depending on whether both reserve the same kind; so
it is the same for all principals of that type, whatever their names and claims. -/
theorem issued_elsewhere {i : Identity} (hissue : A.issue p t₀ = .ok token)
    (hok : B.identify token t₁ = .ok i) :
    (∃ s, Segments.split token = .ok s ∧ A.SignsAlike B s.signedText)
      ∧ (B.issuer = none ∨ B.issuer = A.issuer)
      ∧ (B.audience = none ∨ B.audience = A.audience)
      ∧ t₀ ≤ t₁ ∧ t₁ < i.expiresAt ∧ i.expiresAt = Instant.after t₀ A.lifetime
      ∧ i.canonicalName = BearerBridge.canonicalName p.name
      ∧ (reservedClaimFault? B.authenticationTypeClaim = none →
        (if B.authenticationTypeClaim = A.authenticationTypeClaim then
          i.authenticationType = p.authenticationType
        else B.defaultAuthenticationType = some i.authenticationType)
        ∧ ∀ (p' : Principal) t t' token' j, p'.authenticationType = p.authenticationType →
          A.issue p' t = .ok token' → B.identify token' t' = .ok j →
          j.authenticationType = i.authenticationType) := by
  obtain ⟨hsplit, htrusts, haccept⟩ := read_elsewhere hissue hok
  obtain ⟨hadmits, hfrom, huntil⟩ := exists_accept_iff.1 ⟨i, haccept⟩
  -- whatever the other policy expects, the claims state
  have hexpected : ∀ {expected stated : Option String},
      (∀ name, expected = some name → stated = some name) →
      expected = none ∨ expected = stated := by
    intro expected stated h
    cases expected with
    | none => exact Or.inl rfl
    | some name => exact Or.inr (h name rfl).symm
  have hidentity : i.canonicalName = BearerBridge.canonicalName p.name
      ∧ i.expiresAt = Instant.after t₀ A.lifetime := by
    obtain ⟨type, -, rfl⟩ := Identity.eq_of_ofTokenClaims (ofTokenClaims_of_accept haccept)
    exact ⟨rfl, rfl⟩
  refine ⟨⟨_, hsplit, signsAlike_of_trusts trusts_segments htrusts⟩,
    hexpected hadmits.issuer, hexpected hadmits.audience, hfrom, ?_, hidentity.2, hidentity.1,
    fun hreserved => ?_⟩
  · rw [hidentity.2]
    exact huntil
  · have htype := type_elsewhere hissue hok hreserved
    refine ⟨htype, fun p' t t' token' j hsame hissue' hok' => ?_⟩
    have htype' := type_elsewhere hissue' hok' hreserved
    split at htype
    · next hreserve =>
      rw [if_pos hreserve] at htype'
      rw [htype, htype', hsame]
    · next hreserve =>
      rw [if_neg hreserve, htype] at htype'
      exact (Option.some.inj htype').symm

/-- A policy that states its issuer. -/
def home : Policy :=
  { brief with issuer := some "home" }

/-- A policy that expects no issuer, reserves another claim and knows a default.  Its key is another
one, but the zero at its end makes no difference to a signature. -/
def abroad : Policy :=
  { brief with
    signingKey := some [1, 0]
    authenticationTypeClaim := "role"
    defaultAuthenticationType := some "Kerberos" }

/-- A principal who claims a role. -/
def traveller : Principal :=
  ⟨"HOME\\alice", "Negotiate", [⟨"role", "Admin"⟩, ⟨Kind.name, "alice"⟩, ⟨Kind.group, "Admin"⟩]⟩

theorem encode_abroad (c : TokenClaims) : abroad.encode c = home.encode c := by
  have hkey : Hmac.blockKey .sha256 [1, 0] = Hmac.blockKey .sha256 [1] := by decide
  have hsignature : Token.signature .hs256 [1, 0] = Token.signature .hs256 [1] := by
    funext signed
    simp only [Token.signature, SigningAlgorithm.hash, Hmac.code, hkey]
  show (Token.signedSegments c [1, 0] .hs256).text = (Token.signedSegments c [1] .hs256).text
  rw [Token.signedSegments, hsignature, Token.signedSegments]

/-- A role that is claimed at home is nothing abroad. -/
theorem issued_elsewhere_traveller :
    ∃ token i, home.issue traveller 0 = .ok token ∧ abroad.identify token 5 = .ok i
      ∧ home.signingKey ≠ abroad.signingKey
      ∧ (∃ s, Segments.split token = .ok s ∧ home.SignsAlike abroad s.signedText)
      ∧ i.expiresAt = 9 ∧ i.canonicalName = "alice@HOME"
      ∧ i.authenticationType = "Kerberos" := by
  have hissue : home.issue traveller 0 = .ok (home.encode (home.statedClaims traveller 0)) :=
    issue_eq_ok_iff.2 ⟨by decide, by decide, rfl⟩
  have hsize : (Utf8.ofString (abroad.encode (home.statedClaims traveller 0))).length
      ≤ maxTokenBytes :=
    length_encode_le_max (by decide)
  have hauth : abroad.Authenticates (abroad.encode (home.statedClaims traveller 0))
      (abroad.segments (home.statedClaims traveller 0))
      (home.statedClaims traveller 0).regroup :=
    authenticates_encode (by decide) hsize
  have haccepts : (abroad.accept (home.statedClaims traveller 0).regroup 5).toOption.isSome := by
    decide
  obtain ⟨i, hi⟩ := Option.isSome_iff_exists.1 haccepts
  have hok : abroad.identify (home.encode (home.statedClaims traveller 0)) 5 = .ok i := by
    rw [← encode_abroad, hauth.identify]
    exact toOption_eq_some_iff.1 hi
  obtain ⟨hsigns, -, -, -, -, hexpiry, hname, htype⟩ := issued_elsewhere hissue hok
  have hdefault := (htype (by decide)).1
  rw [if_neg (by decide)] at hdefault
  refine ⟨_, i, hissue, hok, by decide, hsigns, ?_, ?_, (Option.some.inj hdefault).symm⟩
  · rw [hexpiry]
    decide
  · rw [hname]
    decide

end Policy

end BearerBridge
