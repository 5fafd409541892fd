/-
# From a principal to its identity

What the bridge issues to a principal it accepts, from the instant of issue up to the expiry, as
an identity that states the principal: its canonical name, its authentication type and the claims
that travel.  Before and after that window it says which side of the window the instant is on.

* `identityFor` : the identity that the bridge makes of a principal;
* `ofTokenClaims_statedClaims` : the claims of an issued token state that identity;
* `round_trip` : what becomes of an issued token, at every instant.
-/
import BearerBridge.Proofs.Issuance
import BearerBridge.Testing.Fixture

namespace BearerBridge.Policy

/-! ## The identity of a principal -/

/-- The identity that the bridge makes of a principal, from a token of the given window. -/
def identityFor (policy : Policy) (p : Principal) (issuedAt expiresAt : Int64) : Identity where
  canonicalName := BearerBridge.canonicalName p.name
  authenticationType := p.authenticationType
  claims := p.outgoing.regroup
  tokenClaims :=
    (policy.issuer.map (Claim.mk "iss")).toList ++ (policy.audience.map (Claim.mk "aud")).toList
      ++ [⟨"sub", BearerBridge.canonicalName p.name⟩, ⟨"nbf", toString issuedAt.toInt⟩,
        ⟨"iat", toString issuedAt.toInt⟩, ⟨"exp", toString expiresAt.toInt⟩]
      ++ p.outgoing.regroup
      ++ [⟨policy.authenticationTypeClaim, p.authenticationType⟩]
  expiresAt

variable {policy : Policy} {p : Principal} {now : Int64}

theorem expects_statedClaims : policy.Expects (policy.statedClaims p now).regroup where
  issuer _ h := h
  audience _ h := h

/-- **The claims of an issued token state the identity of the principal.** -/
theorem ofTokenClaims_statedClaims (hnamed : p.isNameless = false)
    (hreserved : reservedClaimFault? policy.authenticationTypeClaim = none) :
    Identity.ofTokenClaims (policy.statedClaims p now).regroup policy.authenticationTypeClaim
        policy.defaultAuthenticationType
      = .ok (policy.identityFor p now (Instant.after now policy.lifetime)) := by
  rw [Principal.isNameless, Bool.or_eq_false_iff, beq_eq_false_iff_ne] at hnamed
  obtain ⟨hname, htype⟩ := hnamed
  have hclaims : (policy.statedClaims p now).regroup.claims
      = p.outgoing.regroup ++ [⟨policy.authenticationTypeClaim, p.authenticationType⟩] :=
    regroup_statedClaims hreserved
  -- no claim that travels has the reserved kind
  have hother : ∀ x ∈ p.outgoing.regroup, x.kind ≠ policy.authenticationTypeClaim :=
    fun x hx => kind_ne_of_mem_outgoing hreserved (ClaimSet.mem_regroup.1 hx)
  have hsubject : isBlank (policy.statedClaims p now).regroup.subject = false :=
    isBlank_canonicalName hname
  have hstated : Identity.authenticationType? (policy.statedClaims p now).regroup.claims
      policy.authenticationTypeClaim policy.defaultAuthenticationType
        = some p.authenticationType := by
    have hfirst : ClaimSet.first?
        (p.outgoing.regroup ++ [⟨policy.authenticationTypeClaim, p.authenticationType⟩])
        policy.authenticationTypeClaim = some p.authenticationType :=
      ClaimSet.first?_concat hother
    rw [Identity.authenticationType?, hclaims, hfirst, Option.some_or, Option.filter_some,
      if_pos (bne_iff_ne.2 htype)]
  have hwithout : (policy.statedClaims p now).regroup.claims.withoutKind
      policy.authenticationTypeClaim = p.outgoing.regroup := by
    rw [hclaims]
    exact ClaimSet.withoutKind_concat hother
  have hall : (policy.statedClaims p now).regroup.allClaims
      = (policy.identityFor p now (Instant.after now policy.lifetime)).tokenClaims := by
    rw [TokenClaims.allClaims, hclaims, ← List.append_assoc]
    rfl
  rw [Identity.ofTokenClaims_eq_ok hsubject hstated, hwithout, hall]
  rfl

/-! ## The whole timeline -/

/-- The window of a token is never inside out: it does not expire before it is issued. -/
theorem le_after_lifetime (policy : Policy) (t₀ : Int64) :
    t₀ ≤ Instant.after t₀ policy.lifetime := by
  have hlast := t₀.toInt_le
  have hpositive : 0 ≤ Int64.maxValue.toInt := by decide
  rw [Int64.le_iff_toInt_le, policy.toInt_after_lifetime]
  omega

/-- A policy that gives no life to tokens lets them expire when they are issued. -/
theorem after_lifetime_of_no_life (h : policy.maxAge = 0) (t₀ : Int64) :
    Instant.after t₀ policy.lifetime = t₀ := by
  have hlast := t₀.toInt_le
  have hpositive : 0 ≤ Int64.maxValue.toInt := by decide
  rw [← Int64.toInt_inj, policy.toInt_after_lifetime, h, UInt64.toNat_zero]
  omega

/-- What becomes of an issued token that is not too large. -/
theorem identify_issued {t₀ : Int64} {token : String} (h : policy.issue p t₀ = .ok token)
    (hsize : (Utf8.ofString token).length ≤ maxTokenBytes) (t : Int64) :
    policy.identify token t
      = if Instant.after t₀ policy.lifetime ≤ t then .error .expired
        else if t < t₀ then .error .notYetValid
        else .ok (policy.identityFor p t₀ (Instant.after t₀ policy.lifetime)) := by
  obtain ⟨hnamed, hreserved, -⟩ := issue_eq_ok_iff.1 h
  rw [(authenticates_issue h hsize).identify, accept_of_expects expects_statedClaims,
    ofTokenClaims_statedClaims hnamed hreserved]
  rfl

/-- **What becomes of an issued token, at every instant.**  A token that is too large is
malformed; any other is not yet valid before the instant of issue, expired from its expiry on,
and in between the identity of the principal.  Under a policy that gives no life to tokens no
instant accepts one. -/
theorem round_trip {t₀ : Int64} {token : String} (h : policy.issue p t₀ = .ok token) :
    ∃ exp : Int64,
      exp.toInt = min Int64.maxValue.toInt
        (t₀.toInt + min (policy.maxAge.toNat : Int) Int64.maxValue.toInt)
      ∧ ∀ t, (maxTokenBytes < (Utf8.ofString token).length →
          policy.identify token t = .error .malformed)
        ∧ ((Utf8.ofString token).length ≤ maxTokenBytes →
          (t < t₀ → policy.identify token t = .error .notYetValid)
          ∧ (exp ≤ t → policy.identify token t = .error .expired)
          ∧ (t₀ ≤ t → t < exp → policy.identify token t = .ok (policy.identityFor p t₀ exp)))
        ∧ (policy.maxAge = 0 → ∀ i, policy.identify token t ≠ .ok i) := by
  refine ⟨_, policy.toInt_after_lifetime t₀, fun t => ⟨?_, fun hsize => ⟨?_, ?_, ?_⟩, ?_⟩⟩
  · exact fun hsize => identify_of_not_split (Segments.split_of_large hsize) t
  · intro hearly
    have hbefore := Int64.lt_of_lt_of_le hearly (policy.le_after_lifetime t₀)
    rw [identify_issued h hsize, if_neg (Int64.not_le.2 hbefore), if_pos hearly]
  · intro hlate
    rw [identify_issued h hsize, if_pos hlate]
  · intro hfrom huntil
    rw [identify_issued h hsize, if_neg (Int64.not_le.2 huntil), if_neg (Int64.not_lt.2 hfrom)]
  · intro hage i hok
    rcases Nat.lt_or_ge maxTokenBytes (Utf8.ofString token).length with hsize | hsize
    · rw [identify_of_not_split (Segments.split_of_large hsize)] at hok
      exact absurd hok (by simp)
    · -- an instant that is not past the expiry lies before the instant of issue
      rw [identify_issued h hsize, after_lifetime_of_no_life hage] at hok
      split at hok
      · exact absurd hok (by simp)
      · next hbefore =>
        rw [if_pos (Int64.not_le.1 hbefore)] at hok
        exact absurd hok (by simp)

/-- A token that the signing policy of the fixtures issues for fifteen minutes. -/
theorem round_trip_alice :
    ∃ token, Fixture.policy.issue (Fixture.principal "BRIDGE\\alice") 1000 = .ok token
      ∧ Fixture.policy.identify token 999 = .error .notYetValid
      ∧ Fixture.policy.identify token 1000
        = .ok (Fixture.policy.identityFor (Fixture.principal "BRIDGE\\alice") 1000 1900)
      ∧ Fixture.policy.identify token 1900 = .error .expired := by
  have hissue : Fixture.policy.issue (Fixture.principal "BRIDGE\\alice") 1000
      = .ok (Fixture.policy.encode
        (Fixture.policy.statedClaims (Fixture.principal "BRIDGE\\alice") 1000)) :=
    issue_eq_ok_iff.2 ⟨by decide +kernel, by decide +kernel, rfl⟩
  have hpayload : (Utf8.encode (Fixture.policy.statedClaims
      (Fixture.principal "BRIDGE\\alice") 1000).chars).length ≤ 1000 := by
    decide +kernel
  have hsize : (Utf8.ofString (Fixture.policy.encode
      (Fixture.policy.statedClaims (Fixture.principal "BRIDGE\\alice") 1000))).length
        ≤ maxTokenBytes := by
    refine Nat.le_trans (length_encode_le ..) ?_
    rw [maxTokenBytes]
    omega
  obtain ⟨exp, hexp, htimeline⟩ := round_trip hissue
  obtain rfl : exp = 1900 := by
    rw [← Int64.toInt_inj, hexp]
    decide +kernel
  obtain ⟨hearly, -, -⟩ := (htimeline 999).2.1 hsize
  obtain ⟨-, -, hwithin⟩ := (htimeline 1000).2.1 hsize
  obtain ⟨-, hlate, -⟩ := (htimeline 1900).2.1 hsize
  exact ⟨_, hissue, hearly (by decide), hwithin (by decide) (by decide), hlate (by decide)⟩

end BearerBridge.Policy
