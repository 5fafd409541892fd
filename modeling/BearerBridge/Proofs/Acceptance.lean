/-
# Which tokens are accepted, and when

Everything about a token but its window is decided apart from the instant: whether it is
authentic, and whether its claims are what the policy asks for.  So the instants at which a token
is accepted are an interval, and a token that has expired stays so.

* `identify_cases` : the instant counts only for the claims of an authentic token;
* `accept_of_expects` : of claims that name the right issuer and audience the window decides first;
* `identify_ne_issuerMismatch` : without an issuer no token is refused for its issuer;
* `accepted_iff` : which tokens are accepted at which instants.
-/
import BearerBridge.Proofs.Token.Genuine
import BearerBridge.Testing.Fixture

namespace BearerBridge

/-! ## Authentic tokens -/

namespace Policy

/-- A text is a token that a policy trusts, and its payload states some claims. -/
structure Authenticates (policy : Policy) (token : String) (s : Segments) (c : TokenClaims) :
    Prop where
  text : token = s.text
  size : (Utf8.ofString token).length ≤ maxTokenBytes
  wellFormed : s.WellFormed
  trusted : policy.Trusts s
  payload : (segmentBytes? s.payload).bind TokenClaims.read? = some c

variable {policy : Policy} {token : String} {s : Segments} {c : TokenClaims}

theorem Authenticates.split (h : policy.Authenticates token s c) :
    Segments.split token = .ok s :=
  Segments.split_eq_ok_iff.2 ⟨h.wellFormed, h.text, h.size⟩

theorem Authenticates.claims (h : policy.Authenticates token s c) :
    Token.claims token = .ok c := by
  rw [Token.claims_of_split h.split, h.payload]

theorem Authenticates.unique {s' : Segments} {c' : TokenClaims}
    (h : policy.Authenticates token s c) (h' : policy.Authenticates token s' c') : c = c' :=
  Except.ok.inj (h.claims.symm.trans h'.claims)

/-- The claims of an authentic token decide what becomes of it. -/
theorem Authenticates.identify (h : policy.Authenticates token s c) (now : Int64) :
    policy.identify token now = policy.accept c now := by
  rw [identify_of_trusts h.split h.trusted, Segments.claims, h.payload]
  rfl

/-- **The instant counts only for the claims of an authentic token**: any other text is refused,
and always for the same reason. -/
theorem identify_cases (policy : Policy) (token : String) :
    (∃ s c, policy.Authenticates token s c)
      ∨ (∀ s c, ¬ policy.Authenticates token s c)
        ∧ ∃ why : Rejection, why.IsPlain ∧ ∀ now, policy.identify token now = .error why := by
  cases hs : Segments.split token with
  | error why =>
    refine Or.inr ⟨?_, _, Or.inl rfl, identify_of_not_split hs⟩
    intro s c h
    exact absurd (hs.symm.trans h.split) (by simp)
  | ok s =>
    by_cases htrust : policy.Trusts s
    · cases hc : (segmentBytes? s.payload).bind TokenClaims.read? with
      | some c =>
        obtain ⟨hwf, htext, hsize⟩ := Segments.split_eq_ok_iff.1 hs
        exact Or.inl ⟨s, c, htext, hsize, hwf, htrust, hc⟩
      | none =>
        refine Or.inr ⟨?_, .malformed, Or.inl rfl, fun now => ?_⟩
        · intro s' c h
          obtain rfl := Except.ok.inj (hs.symm.trans h.split)
          exact absurd (hc.symm.trans h.payload) (by simp)
        · rw [identify_of_trusts hs htrust, Segments.claims, hc]
          rfl
    · refine Or.inr ⟨?_, identify_of_not_trusts hs htrust⟩
      intro s' c h
      obtain rfl := Except.ok.inj (hs.symm.trans h.split)
      exact htrust h.trusted

/-- A token that is accepted is authentic, and its claims are accepted. -/
theorem exists_authenticates_of_identify {now : Int64} {i : Identity}
    (h : policy.identify token now = .ok i) :
    ∃ s c, policy.Authenticates token s c ∧ policy.accept c now = .ok i := by
  rcases identify_cases policy token with ⟨s, c, hauth⟩ | ⟨-, why, -, herror⟩
  · exact ⟨s, c, hauth, (hauth.identify now).symm.trans h⟩
  · exact absurd (h.symm.trans (herror now)) (by simp)

/-! ## What a policy asks of claims -/

/-- Claims name the issuer and the audience that a policy expects. -/
structure Expects (policy : Policy) (c : TokenClaims) : Prop where
  issuer : ∀ name, policy.issuer = some name → c.issuer = some name
  audience : ∀ name, policy.audience = some name → c.audience = some name

/-- Claims are what a policy asks for, their window aside. -/
structure Admits (policy : Policy) (c : TokenClaims) : Prop extends policy.Expects c where
  subject : isBlank c.subject = false
  authenticationType : ∃ type, (c.claims.first? policy.authenticationTypeClaim).or
    policy.defaultAuthenticationType = some type ∧ type ≠ ""

/-- A text is an authentic token, and its claims are what the policy asks for. -/
structure Honours (policy : Policy) (token : String) (s : Segments) (c : TokenClaims) : Prop
    extends policy.Authenticates token s c, policy.Admits c

/-- Whether a name is not the one expected, when one is expected. -/
theorem mismatch_eq_false_iff {expected actual : Option String} :
    (expected.isSome && actual != expected) = false
      ↔ ∀ name, expected = some name → actual = some name := by
  cases expected with
  | none => simp
  | some name => simp

/-- Of claims that name the right issuer and audience the window decides first. -/
theorem accept_of_expects (h : policy.Expects c) (now : Int64) :
    policy.accept c now
      = if c.expiry ≤ now then .error .expired
        else if now < c.notBefore then .error .notYetValid
        else Identity.ofTokenClaims c policy.authenticationTypeClaim
          policy.defaultAuthenticationType := by
  rw [accept, mismatch_eq_false_iff.2 h.issuer, mismatch_eq_false_iff.2 h.audience,
    if_neg Bool.false_ne_true, if_neg Bool.false_ne_true]

/-- Claims that name another issuer or audience are refused at any instant. -/
theorem accept_of_not_expects (h : ¬ policy.Expects c) :
    ∃ why : Rejection, (why = .issuerMismatch ∨ why = .audienceMismatch)
      ∧ ∀ now, policy.accept c now = .error why := by
  by_cases hissuer : (policy.issuer.isSome && c.issuer != policy.issuer) = true
  · exact ⟨_, Or.inl rfl, fun now => by rw [accept, if_pos hissuer]⟩
  · by_cases haudience : (policy.audience.isSome && c.audience != policy.audience) = true
    · exact ⟨_, Or.inr rfl, fun now => by rw [accept, if_neg hissuer, if_pos haudience]⟩
    · rw [Bool.not_eq_true, mismatch_eq_false_iff] at hissuer haudience
      exact absurd ⟨hissuer, haudience⟩ h

end Policy

theorem Identity.ofTokenClaims_eq_ok {c : TokenClaims} {reserved type : String}
    {default : Option String} (hsubject : isBlank c.subject = false)
    (htype : authenticationType? c.claims reserved default = some type) :
    ofTokenClaims c reserved default
      = .ok ⟨c.subject, type, c.claims.withoutKind reserved, c.allClaims, c.expiry⟩ := by
  rw [ofTokenClaims, if_neg (ne_true_of_eq_false hsubject), htype]

/-- What an identity takes from the claims of a token. -/
theorem Identity.eq_of_ofTokenClaims {c : TokenClaims} {reserved : String}
    {default : Option String} {i : Identity} (h : ofTokenClaims c reserved default = .ok i) :
    ∃ type, authenticationType? c.claims reserved default = some type
      ∧ i = ⟨c.subject, type, c.claims.withoutKind reserved, c.allClaims, c.expiry⟩ := by
  rw [ofTokenClaims] at h
  split at h
  · exact absurd h (by simp)
  · split at h
    · exact absurd h (by simp)
    · next type htype => exact ⟨type, htype, (Except.ok.inj h).symm⟩

/-- An identity needs a subject and an authentication type. -/
theorem Identity.exists_ofTokenClaims_iff {c : TokenClaims} {reserved : String}
    {default : Option String} :
    (∃ i, ofTokenClaims c reserved default = .ok i)
      ↔ isBlank c.subject = false
        ∧ ∃ type, (c.claims.first? reserved).or default = some type ∧ type ≠ "" := by
  rw [ofTokenClaims]
  cases hblank : isBlank c.subject with
  | true => simp
  | false =>
    cases htype : authenticationType? c.claims reserved default with
    | none =>
      rw [authenticationType?, Option.filter_eq_none_iff] at htype
      simpa using htype
    | some type =>
      rw [authenticationType?, Option.filter_eq_some_iff, bne_iff_ne] at htype
      exact ⟨fun _ => ⟨rfl, type, htype⟩, fun _ => ⟨_, rfl⟩⟩

/-- Claims that state no identity are malformed. -/
theorem Identity.eq_malformed_of_ofTokenClaims {c : TokenClaims} {reserved : String}
    {default : Option String} {why : Rejection} (h : ofTokenClaims c reserved default = .error why) :
    why = .malformed := by
  rw [ofTokenClaims] at h
  split at h
  · exact (Except.error.inj h).symm
  · split at h
    · exact (Except.error.inj h).symm
    · exact absurd h (by simp)

namespace Policy

variable {policy : Policy} {token : String} {s : Segments} {c : TokenClaims}

/-- Accepted claims state the identity. -/
theorem ofTokenClaims_of_accept {now : Int64} {i : Identity} (h : policy.accept c now = .ok i) :
    Identity.ofTokenClaims c policy.authenticationTypeClaim policy.defaultAuthenticationType
      = .ok i := by
  by_cases hexpects : policy.Expects c
  · rw [accept_of_expects hexpects] at h
    split at h
    · exact absurd h (by simp)
    · split at h
      · exact absurd h (by simp)
      · exact h
  · obtain ⟨why, -, herror⟩ := accept_of_not_expects hexpects
    exact absurd ((herror now).symm.trans h) (by simp)

/-- Claims are accepted when they are what the policy asks for and the instant is in their
window. -/
theorem exists_accept_iff {now : Int64} :
    (∃ i, policy.accept c now = .ok i)
      ↔ policy.Admits c ∧ c.notBefore ≤ now ∧ now < c.expiry := by
  by_cases hexpects : policy.Expects c
  · rw [accept_of_expects hexpects]
    by_cases hexpired : c.expiry ≤ now
    · simp [hexpired, Int64.not_lt.2 hexpired]
    · rw [if_neg hexpired]
      by_cases hearly : now < c.notBefore
      · simp [hearly, Int64.not_le.2 hearly]
      · rw [if_neg hearly, Identity.exists_ofTokenClaims_iff]
        have hwindow : c.notBefore ≤ now ∧ now < c.expiry :=
          ⟨Int64.not_lt.1 hearly, Int64.not_le.1 hexpired⟩
        constructor
        · rintro ⟨hsubject, htype⟩
          exact ⟨⟨hexpects, hsubject, htype⟩, hwindow⟩
        · rintro ⟨hadmits, -⟩
          exact ⟨hadmits.subject, hadmits.authenticationType⟩
  · obtain ⟨why, -, herror⟩ := accept_of_not_expects hexpects
    constructor
    · rintro ⟨i, hi⟩
      exact absurd (hi.symm.trans (herror now)) (by simp)
    · rintro ⟨hadmits, -⟩
      exact absurd hadmits.toExpects hexpects

/-- Claims that have expired stay expired. -/
theorem accept_expired_mono {t t' : Int64} (h : policy.accept c t = .error .expired)
    (hle : t ≤ t') : policy.accept c t' = .error .expired := by
  by_cases hexpects : policy.Expects c
  · rw [accept_of_expects hexpects] at h ⊢
    by_cases hexpired : c.expiry ≤ t
    · rw [if_pos (Int64.le_trans hexpired hle)]
    · rw [if_neg hexpired] at h
      split at h
      · exact absurd h (by simp)
      · exact absurd (Identity.eq_malformed_of_ofTokenClaims h) (by decide)
  · obtain ⟨why, hwhy, herror⟩ := accept_of_not_expects hexpects
    rw [herror t] at h
    rcases hwhy with rfl | rfl <;> exact absurd h (by simp)

/-- **A policy without an issuer refuses no token for its issuer.** -/
theorem identify_ne_issuerMismatch (hissuer : policy.issuer = none) (token : String) (now : Int64) :
    policy.identify token now ≠ .error .issuerMismatch := by
  intro h
  rcases identify_cases policy token with ⟨s, c, hauth⟩ | ⟨-, why, hplain, herror⟩
  · rw [hauth.identify, accept, hissuer, if_neg (by simp)] at h
    split at h
    · exact absurd h (by simp)
    split at h
    · exact absurd h (by simp)
    split at h
    · exact absurd h (by simp)
    · exact absurd (Identity.eq_malformed_of_ofTokenClaims h) (by decide)
  · obtain rfl : why = .issuerMismatch := Except.error.inj ((herror now).symm.trans h)
    rcases hplain with hmalformed | hsignature
    · exact absurd hmalformed (by decide)
    · exact absurd hsignature (by decide)

/-! ## Acceptance -/

/-- **Which tokens are accepted, and when.**  At any instant just the honoured tokens are accepted
in whose window the instant lies; so a token is accepted at no instant, or just in the window
that it states; and what has expired stays expired. -/
theorem accepted_iff (policy : Policy) (token : String) :
    (∀ now, (∃ i, policy.identify token now = .ok i)
        ↔ ∃ s c, policy.Honours token s c ∧ c.notBefore ≤ now ∧ now < c.expiry)
      ∧ ((∀ now, ¬ ∃ i, policy.identify token now = .ok i)
        ∨ ∃ c, Token.claims token = .ok c
          ∧ ∀ now, (∃ i, policy.identify token now = .ok i) ↔ c.notBefore ≤ now ∧ now < c.expiry)
      ∧ ∀ t t', policy.identify token t = .error .expired → t ≤ t' →
        policy.identify token t' = .error .expired := by
  rcases identify_cases policy token with ⟨s, c, hauth⟩ | ⟨hnone, why, hplain, herror⟩
  · have haccept : ∀ now, (∃ i, policy.identify token now = .ok i)
        ↔ policy.Admits c ∧ c.notBefore ≤ now ∧ now < c.expiry := by
      intro now
      rw [hauth.identify, exists_accept_iff]
    refine ⟨fun now => ?_, ?_, fun t t' h hle => ?_⟩
    · rw [haccept]
      constructor
      · rintro ⟨hadmits, hwindow⟩
        exact ⟨s, c, ⟨hauth, hadmits⟩, hwindow⟩
      · rintro ⟨s', c', hhonours, hwindow⟩
        obtain rfl := hauth.unique hhonours.toAuthenticates
        exact ⟨hhonours.toAdmits, hwindow⟩
    · by_cases hadmits : policy.Admits c
      · refine Or.inr ⟨c, hauth.claims, fun now => ?_⟩
        rw [haccept, and_iff_right hadmits]
      · exact Or.inl fun now hok => hadmits ((haccept now).1 hok).1
    · rw [hauth.identify] at h ⊢
      exact accept_expired_mono h hle
  · -- neither of the two reasons is that the token has expired
    have hnever : ∀ now, ¬ ∃ i, policy.identify token now = .ok i := by
      rintro now ⟨i, hi⟩
      exact absurd (hi.symm.trans (herror now)) (by simp)
    refine ⟨fun now => ?_, Or.inl hnever, fun t t' h hle => ?_⟩
    · refine iff_of_false (hnever now) ?_
      rintro ⟨s, c, hhonours, -⟩
      exact hnone s c hhonours.toAuthenticates
    · rw [herror t] at h
      rcases hplain with rfl | rfl <;> exact absurd h (by simp)

/-! ## A signed token -/

/-- Claims of which nothing but the window and the subject is stated. -/
def bareClaims : TokenClaims := ⟨none, none, "alice", 0, 0, 10, []⟩

/-- The segments of a token with such claims under any header, rightly signed. -/
def rightlySigned (header : List Char) : Segments :=
  let payload := segmentOf bareClaims.chars
  ⟨segmentOf header, payload,
    Token.signature .hs256 (Fixture.key 1) (segmentOf header ++ "." ++ payload)⟩

theorem split_rightlySigned {header : List Char} (hpos : 0 < (Utf8.encode header).length)
    (hshort : (Utf8.encode header).length ≤ 100) :
    Segments.split (rightlySigned header).text = .ok (rightlySigned header) := by
  have hform : (rightlySigned header).WellFormed := {
    header_no_dot := Base64.dot_notMem_text _
    payload_no_dot := Base64.dot_notMem_text _
    signature_no_dot := Base64.dot_notMem_text _
    header_ne_nil := Base64.text_ne_nil (List.length_pos_iff.1 hpos)
    payload_ne_nil := Base64.text_ne_nil (encode_objectChars_ne_nil _) }
  have hheader : (Utf8.ofString (rightlySigned header).header).length
      = (4 * (Utf8.encode header).length + 2) / 3 :=
    Base64.length_ofString_text _
  have hpayload : (Utf8.ofString (rightlySigned header).payload).length
      = (4 * (Utf8.encode bareClaims.chars).length + 2) / 3 :=
    Base64.length_ofString_text _
  have hclaims : (Utf8.encode bareClaims.chars).length = 40 := by decide +kernel
  have hsignature : (Utf8.ofString (rightlySigned header).signature).length = 43 :=
    Token.length_signature ..
  refine Segments.split_text hform ?_
  rw [Segments.length_text, hheader, hpayload, hclaims, hsignature, maxTokenBytes]
  omega

theorem read?_payload_rightlySigned (header : List Char) :
    (segmentBytes? (rightlySigned header).payload).bind TokenClaims.read? = some bareClaims := by
  have hread : TokenClaims.read? (Utf8.encode bareClaims.chars) = some bareClaims := by
    decide +kernel
  have hpayload : segmentBytes? (rightlySigned header).payload
      = some (Utf8.encode bareClaims.chars) :=
    segmentBytes?_text _
  rw [hpayload, Option.bind_some, hread]

/-- A policy that signs, asks for no issuer and no audience, and knows an authentication type for
claims without any. -/
def anyParty : Policy :=
  { Fixture.policy with
    issuer := none
    audience := none
    defaultAuthenticationType := some "Negotiate" }

/-- A token with a signature is accepted before it expires, and not at that instant. -/
theorem accepted_iff_signed :
    anyParty.signingKey = some (Fixture.key 1) ∧ anyParty.signingAlgorithm = some .hs256
      ∧ (∃ i, anyParty.identify (rightlySigned (JoseHeader.chars "HS256")).text 9 = .ok i)
      ∧ ¬ ∃ i, anyParty.identify (rightlySigned (JoseHeader.chars "HS256")).text 10 = .ok i := by
  have hsplit : Segments.split (rightlySigned (JoseHeader.chars "HS256")).text
      = .ok (rightlySigned (JoseHeader.chars "HS256")) :=
    split_rightlySigned (by decide +kernel) (by decide +kernel)
  obtain ⟨hform, htext, hsize⟩ := Segments.split_eq_ok_iff.1 hsplit
  have htrusted : anyParty.Trusts (rightlySigned (JoseHeader.chars "HS256")) :=
    trusts_iff.2 (.inl ⟨_, _, rfl, rfl, SigningAlgorithm.namedBy_written .hs256, rfl⟩)
  have hauth : anyParty.Authenticates (rightlySigned (JoseHeader.chars "HS256")).text
      (rightlySigned (JoseHeader.chars "HS256")) bareClaims :=
    ⟨htext, hsize, hform, htrusted, read?_payload_rightlySigned _⟩
  have hissuer : anyParty.issuer = none := rfl
  have haudience : anyParty.audience = none := rfl
  have hadmits : anyParty.Admits bareClaims := {
    issuer := by simp [hissuer]
    audience := by simp [haudience]
    subject := by decide
    authenticationType := ⟨_, rfl, by decide⟩ }
  obtain ⟨haccepted, -⟩ := accepted_iff anyParty (rightlySigned (JoseHeader.chars "HS256")).text
  refine ⟨rfl, rfl, (haccepted 9).2 ⟨_, _, ⟨hauth, hadmits⟩, by decide, by decide⟩, ?_⟩
  rw [haccepted]
  rintro ⟨s, c, hhonours, -, huntil⟩
  obtain rfl := hauth.unique hhonours.toAuthenticates
  exact absurd huntil (by decide)

end Policy

end BearerBridge
