/-
# What the log tells about an issued token

With every token that is issued one event goes to the log.  It tells the authentication type of
the principal, when the token expires and whether the token is signed.  Whatever the hooks do, the
type and the signature are those that the token carries.  The expiry is the one that the policy
sets, while the token carries the one that left the last hook, so the log is right about it as long
as no hook sets another.

* `Token.Carries` : the header and the members of the payload of a token;
* `Policy.carries_encode` : what a token carries that a policy writes;
* `Issuer.told_of_issue` : what the log tells of a token, beside what the token carries.
-/
import BearerBridge.Proofs.Reports

namespace BearerBridge

/-! ## What a token carries -/

/-- A token is made of segments that spell a header and a payload with the given members. -/
structure Token.Carries (token : String) (s : Segments) (h : Header)
    (ms : List (String × Json.Value)) : Prop where
  text : token = s.text
  wellFormed : s.WellFormed
  header : (segmentBytes? s.header).bind Header.read? = some h
  payload : (segmentBytes? s.payload).bind Json.members? = some ms

namespace TokenClaims

/-- The expiry stands before any claim that has its name. -/
theorem lookup_written_expiry (c : TokenClaims) :
    (c.ownMembers ++ c.claims.members).lookup "exp" = some (instant c.expiry) := by
  obtain ⟨issuer, audience, subject, notBefore, issuedAt, expiry, claims⟩ := c
  cases issuer <;> cases audience <;> rfl

/-- Who reads claims off the written members finds the expiry. -/
theorem expiry_of_written {c c' : TokenClaims}
    (h : ofMembers? (c.ownMembers ++ c.claims.members) = some c') : c'.expiry = c.expiry := by
  rw [← read?_chars_eq] at h
  obtain ⟨-, rfl⟩ := read?_chars_iff.1 h
  rfl

/-- A claim that is alone in its kind is the only member of that name. -/
theorem unique?_written_claim {c : TokenClaims} {kind value : String} (hown : kind ∉ ownNames)
    (hvalues : c.claims.values kind = [value]) :
    Json.unique? kind (c.ownMembers ++ c.claims.members) = some (some (.text value)) := by
  have hnone : c.ownMembers.filter (·.1 == kind) = [] := by
    rw [List.filter_eq_nil_iff]
    intro m hm he
    exact hown (eq_of_beq he ▸ mem_ownNames_of_mem_ownMembers hm)
  have hcount : c.claims.count kind ≠ 0 := by
    rw [ClaimSet.count_eq_length_values, hvalues]
    exact Nat.one_ne_zero
  rw [Json.unique?, List.filter_append, hnone, ClaimSet.filter_members, if_neg hcount, hvalues]
  rfl

end TokenClaims

namespace Policy

/-- The header that a policy writes names no algorithm just when the policy does not sign. -/
theorem exists_header_segments (policy : Policy) (c : TokenClaims) :
    ∃ h, (segmentBytes? (policy.segments c).header).bind Header.read? = some h
      ∧ (policy.isSigned = true ↔ h.algorithm ≠ Header.unsecured) := by
  unfold isSigned segments
  cases policy.signing? with
  | none => exact ⟨_, Header.read?_unsecuredChars, by simp⟩
  | some signing =>
    obtain ⟨h, hread, hname⟩ := signing.2.namedBy_written.loose
    have hsecured : h.algorithm ≠ Header.unsecured := by
      rw [hname]
      cases signing.2 <;> decide
    exact ⟨h, hread, by simp [hsecured]⟩

/-- **What a token carries that a policy writes**: the members of its claims, under a header that
tells whether the policy signs. -/
theorem carries_encode (policy : Policy) (c : TokenClaims) :
    ∃ h, Token.Carries (policy.encode c) (policy.segments c) h (c.ownMembers ++ c.claims.members)
      ∧ (policy.isSigned = true ↔ h.algorithm ≠ Header.unsecured) := by
  obtain ⟨h, hread, hsigned⟩ := policy.exists_header_segments c
  have hpayload : (segmentBytes? (policy.segments c).payload).bind Json.members?
      = some (c.ownMembers ++ c.claims.members) := by
    rw [payload_segments, segmentOf, segmentBytes?_text, Option.bind_some,
      TokenClaims.members?_chars]
  exact ⟨h, ⟨encode_eq_text, wellFormed_segments, hread, hpayload⟩, hsigned⟩

end Policy

namespace Issuer

variable {issuer : Issuer} {p : Principal} {now : Int64} {micros : Nat} {token : String}
  {c : TokenClaims}

/-! ## The expiry -/

/-- A hook that leaves the expiry alone. -/
def Hook.KeepsExpiry (hook : Hook) : Prop :=
  ∀ p c c', hook p c = .ok c' → c'.expiry = c.expiry

/-- Hooks that leave the expiry alone leave the one that the policy sets. -/
theorem expiry_of_keepsExpiry (hkeep : ∀ hook ∈ issuer.hooks, hook.KeepsExpiry)
    (hshaped : issuer.shapedClaims p now = .ok c) :
    c.expiry = Instant.after now issuer.policy.lifetime := by
  obtain ⟨-, -, hshape⟩ := shapedClaims_eq_ok_iff.1 hshaped
  refine shape_induction (P := fun c => c.expiry = Instant.after now issuer.policy.lifetime)
    (fun hook hmem c c' hc hhook => ?_) rfl hshape
  rw [hkeep hook hmem p c c' hhook, hc]

/-! ## The event beside the token -/

/-- **What the log tells of a token, beside what the token carries.**  One event is reported about
a token that is issued.  Its authentication type is the only value of the reserved claim in the
payload, and it says that the token is signed just when the header names an algorithm.  The payload
carries the expiry that left the last hook, and whoever reads it finds that one; the event tells the
expiry that the policy sets, which is the same when the hooks leave it alone. -/
theorem told_of_issue (hissue : (issuer.issue p now micros).value = .ok token) :
    ∃ s h ms c digest type expiresAt signed,
      (issuer.issue p now micros).events = [.tokenIssued digest type expiresAt signed]
      ∧ Token.Carries token s h ms
      ∧ Json.unique? issuer.policy.authenticationTypeClaim ms = some (some (.text type))
      ∧ (signed = true ↔ h.algorithm ≠ Header.unsecured)
      ∧ issuer.shapedClaims p now = .ok c
      ∧ ms.lookup "exp" = some (TokenClaims.instant c.expiry)
      ∧ (∀ c', TokenClaims.ofMembers? ms = some c' → c'.expiry = c.expiry)
      ∧ expiresAt = (issuer.policy.statedClaims p now).expiry
      ∧ ((∀ hook ∈ issuer.hooks, hook.KeepsExpiry) → expiresAt = c.expiry) := by
  have hevents := events_issue_of_value hissue
  obtain ⟨c, hshaped, hvalues, rfl⟩ := value_issue_eq_ok_iff.1 hissue
  obtain ⟨-, hfault, -⟩ := shapedClaims_eq_ok_iff.1 hshaped
  obtain ⟨h, hcarries, hsigned⟩ := issuer.policy.carries_encode c
  have hown := notMem_ownNames_of_reserved hfault
  exact ⟨_, h, _, c, _, _, _, _, hevents, hcarries,
    TokenClaims.unique?_written_claim hown hvalues, hsigned, hshaped, c.lookup_written_expiry,
    fun c' => TokenClaims.expiry_of_written, rfl,
    fun hkeep => (expiry_of_keepsExpiry hkeep hshaped).symm⟩

/-- Hooks that turn all claims around but leave the expiry alone. -/
theorem told_of_issue_usurper :
    ∃ token s h ms,
      (usurper.issue (Fixture.principal "BRIDGE\\alice") 1000 0).value = .ok token
      ∧ (usurper.issue (Fixture.principal "BRIDGE\\alice") 1000 0).events
        = [.tokenIssued (correlation "BRIDGE\\alice") "Negotiate" 1900 true]
      ∧ Token.Carries token s h ms
      ∧ Json.unique? Kind.authenticationType ms = some (some (.text "Negotiate"))
      ∧ h.algorithm ≠ Header.unsecured
      ∧ ms.lookup "exp" = some (TokenClaims.instant 1900) := by
  have hkeep : ∀ hook ∈ usurper.hooks, hook.KeepsExpiry := by
    intro hook hmem p c c' hhook
    simp only [usurper, List.mem_cons, List.not_mem_nil, or_false] at hmem
    rcases hmem with rfl | rfl
    · exact (congrArg TokenClaims.expiry (Except.ok.inj hhook)).symm
    · exact (congrArg TokenClaims.expiry (Except.ok.inj hhook)).symm
  have hreport : (usurper.issue (Fixture.principal "BRIDGE\\alice") 1000 0).events
      = [.tokenIssued (correlation "BRIDGE\\alice") "Negotiate" 1900 true] :=
    events_issue_of_value issue_usurper
  obtain ⟨s, h, ms, c, digest, type, expiresAt, signed, hevents, hcarries, htype, hsigned, -,
    hexpiry, -, -, hkept⟩ := told_of_issue issue_usurper
  obtain ⟨rfl, rfl, rfl, rfl⟩ :=
    Event.tokenIssued.inj (List.singleton_inj.1 (hreport.symm.trans hevents))
  refine ⟨_, s, h, ms, issue_usurper, hreport, hcarries, htype, hsigned.1 rfl, ?_⟩
  rw [hexpiry, ← hkept hkeep]

/-- A hook that sets another expiry. -/
def postpone (t : Int64) : Hook :=
  fun _ c => .ok { c with expiry := t }

/-- An issuer whose hook lets tokens live longer than its policy says. -/
def postponer : Issuer where
  policy := Policy.usual
  hooks := [postpone 5000]

/-- What the hook of the postponer makes of the claims of a principal. -/
def postponed : TokenClaims where
  issuer := some "AD AUTHORITY"
  audience := none
  subject := "alice@BRIDGE"
  notBefore := 1000
  issuedAt := 1000
  expiry := 5000
  claims := [⟨Kind.name, "alice"⟩, ⟨Kind.authenticationType, "Negotiate"⟩]

/-- The log tells the expiry that the policy sets, of a token that carries another. -/
theorem untold_expiry :
    ∃ token s h ms,
      (postponer.issue (Fixture.principal "BRIDGE\\alice") 1000 0).value = .ok token
      ∧ (postponer.issue (Fixture.principal "BRIDGE\\alice") 1000 0).events
        = [.tokenIssued (correlation "BRIDGE\\alice") "Negotiate" 1900 false]
      ∧ Token.Carries token s h ms
      ∧ ms.lookup "exp" = some (TokenClaims.instant 5000)
      ∧ TokenClaims.ofMembers? ms = some postponed := by
  have hissue : (postponer.issue (Fixture.principal "BRIDGE\\alice") 1000 0).value
      = .ok (postponer.policy.encode postponed) :=
    value_issue_eq_ok_iff.2 ⟨postponed, shapedClaims_eq_ok_iff.2
      ⟨by decide, by decide, by decide⟩, by decide, rfl⟩
  obtain ⟨h, hcarries, -⟩ := postponer.policy.carries_encode postponed
  have hread : TokenClaims.ofMembers? (postponed.ownMembers ++ postponed.claims.members)
      = some postponed := by
    decide
  exact ⟨_, _, h, _, hissue, events_issue_of_value hissue, hcarries,
    postponed.lookup_written_expiry, hread⟩

end Issuer

end BearerBridge
