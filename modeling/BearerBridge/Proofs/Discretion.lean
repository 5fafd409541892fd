/-
# What the log and descriptions withhold

The log tells of a principal the digest of its name and its authentication type, and of a token the
algorithm that it names; descriptions tell that there is a key.  So two runs that differ in what is
secret look the same from outside: keys, names behind one digest, groups and other claims, and
whatever else a token states.  The key itself goes into the last segment of a token and nowhere
else.

* `Policy.withKey`, `Settings.withKey` : the same terms under another key;
* `events_issue_of_alike` : what is reported about issuing to principals that look alike;
* `sameToLastDot_issue` : how far a token is the same under another key;
* `events_validate_of_alike` : what is reported about tokens that look alike;
* `secrets_withheld` : all of it, and the descriptions.
-/
import BearerBridge.Proofs.Bearer
import BearerBridge.Proofs.Reports
import BearerBridge.Settings

namespace BearerBridge

/-! ## Another key -/

namespace Policy

variable (policy : Policy) (key : List UInt8)

/-- The same policy with other bytes for its key, if it has one. -/
def withKey : Policy :=
  { policy with signingKey := policy.signingKey.map fun _ => key }

theorem signing?_withKey :
    (policy.withKey key).signing? = policy.signing?.map fun signing => (key, signing.2) := by
  rw [signing?, signing?, withKey]
  dsimp only
  cases policy.signingKey <;> cases policy.signingAlgorithm <;> rfl

@[simp] theorem isSigned_withKey : (policy.withKey key).isSigned = policy.isSigned := by
  rw [isSigned, signing?_withKey, Option.isSome_map, isSigned]

@[simp] theorem lifetime_withKey : (policy.withKey key).lifetime = policy.lifetime := rfl

theorem claimsFor_withKey (p : Principal) (now : Int64) :
    (policy.withKey key).claimsFor p now = policy.claimsFor p now := rfl

/-- A description tells of a key that it is there. -/
@[simp] theorem describe_withKey : (policy.withKey key).describe = policy.describe := by
  have hkey : described describeKey (policy.withKey key).signingKey
      = described describeKey policy.signingKey := by
    rw [withKey]
    cases policy.signingKey <;> rfl
  rw [describe, hkey]
  rfl

/-- The key leaves all of a token but its signature alone. -/
theorem signedText_withKey (c : TokenClaims) :
    ((policy.withKey key).segments c).signedText = (policy.segments c).signedText := by
  rw [segments, segments, signing?_withKey]
  cases policy.signing? <;> rfl

end Policy

/-- The same settings with other bytes for the key, if there is one. -/
def Settings.withKey (s : Settings) (key : List UInt8) : Settings :=
  { s with signingKey := s.signingKey.map fun _ => key }

/-- The settings describe their key as little as their policy does. -/
theorem Settings.describe_withKey (s : Settings) (key : List UInt8) :
    (s.withKey key).describe = s.describe := by
  have hkey : described (fun _ => quoted "[REDACTED]") (s.withKey key).signingKey
      = described (fun _ => quoted "[REDACTED]") s.signingKey := by
    rw [withKey]
    cases s.signingKey <;> rfl
  rw [describe, hkey]
  rfl

/-! ## Principals that look alike -/

/-- Two principals that the log does not tell apart: the digests of their names and their
authentication types are the same, and both have a name or neither has. -/
structure Principal.Alike (p p' : Principal) : Prop where
  authenticationType : p.authenticationType = p'.authenticationType
  correlation : correlation p.name = BearerBridge.correlation p'.name
  isBlank : isBlank p.name = BearerBridge.isBlank p'.name

theorem Principal.Alike.isNameless {p p' : Principal} (h : p.Alike p') :
    p.isNameless = p'.isNameless := by
  rw [Principal.isNameless, Principal.isNameless, h.isBlank, h.authenticationType]

namespace Issuer

variable {policy : Policy} {key : List UInt8} {p p' : Principal} {now : Int64} {micros : Nat}

/-- How an issuance went is told by what the log knows about the principal. -/
theorem account_issue :
    account policy p now (policy.issue p now)
      = if p.isNameless then .issuanceFailed (correlation p.name) .internal
        else match reservedClaimFault? policy.authenticationTypeClaim with
          | some reason => .issuanceFailed (correlation p.name)
              (.configuration ("authentication type claim " ++ reason))
          | none => .tokenIssued (correlation p.name) p.authenticationType
              (Instant.after now policy.lifetime) policy.isSigned := by
  rw [Policy.issue, Policy.claimsFor]
  cases p.isNameless with
  | true => rfl
  | false =>
    cases reservedClaimFault? policy.authenticationTypeClaim <;> rfl

/-- **Principals that look alike are reported about alike**, under whatever key. -/
theorem events_issue_of_alike (h : p.Alike p') (micros' : Nat) :
    ((Issuer.mk policy []).issue p now micros).events
      = ((Issuer.mk (policy.withKey key) []).issue p' now micros').events := by
  rw [events_issue_of_no_hooks, events_issue_of_no_hooks, account_issue, account_issue,
    h.isNameless, h.correlation, h.authenticationType, Policy.isSigned_withKey,
    Policy.lifetime_withKey]
  rfl

end Issuer

/-! ## Tokens under another key -/

/-- Two texts are the same up to their last dots. -/
def SameToLastDot (s s' : String) : Prop :=
  ∃ front tail tail', atLast? '.' s.toList = some (front, tail)
    ∧ atLast? '.' s'.toList = some (front, tail')

/-- Two issuances fail alike, or give tokens that are the same up to their last dots. -/
def SameIssuance : Except Failure String → Except Failure String → Prop
  | .ok token, .ok token' => SameToLastDot token token'
  | .error why, .error why' => why = why'
  | _, _ => False

/-- The last dot of a token stands before its signature. -/
theorem Segments.atLast?_text {s : Segments} (h : s.WellFormed) :
    atLast? '.' s.text.toList = some (s.signedText.toList, s.signature.toList) := by
  rw [toList_text_of_signedText, atLast?_append _ h.signature_no_dot]

/-- **The key goes into the signature only.** -/
theorem Policy.sameToLastDot_encode (policy : Policy) (key : List UInt8) (c : TokenClaims) :
    SameToLastDot (policy.encode c) ((policy.withKey key).encode c) := by
  have hencode : ∀ policy : Policy, atLast? '.' (policy.encode c).toList
      = some ((policy.segments c).signedText.toList, (policy.segments c).signature.toList) := by
    intro policy
    rw [encode_eq_text, Segments.atLast?_text wellFormed_segments]
  have hother := hencode (policy.withKey key)
  rw [signedText_withKey] at hother
  exact ⟨_, _, _, hencode policy, hother⟩

/-- **Under another key the same is issued up to the last dot**, whatever the hooks. -/
theorem Issuer.sameIssuance_withKey (policy : Policy) (key : List UInt8) (hooks : List Hook)
    (p : Principal) (now : Int64) (micros micros' : Nat) :
    SameIssuance ((Issuer.mk policy hooks).issue p now micros).value
      ((Issuer.mk (policy.withKey key) hooks).issue p now micros').value := by
  -- hooks see the claims, and no claim tells the key
  have hshaped : (Issuer.mk (policy.withKey key) hooks).shapedClaims p now
      = (Issuer.mk policy hooks).shapedClaims p now := by
    rw [shapedClaims, shapedClaims, Policy.claimsFor_withKey]
  rw [value_issue, value_issue, encode, encode, Traced.value_bind, Traced.value_bind, hshaped]
  cases (Issuer.mk policy hooks).shapedClaims p now with
  | error why => rfl
  | ok c =>
    have hreserved : (policy.withKey key).authenticationTypeClaim
        = policy.authenticationTypeClaim := rfl
    dsimp only
    rw [hreserved]
    split
    · exact policy.sameToLastDot_encode key c
    · rfl

/-! ## Tokens that look alike -/

/-- Two tokens that the log does not tell apart at an instant: both are rejected for the same
reason and name the same algorithm, or both are accepted and state subjects with the same digest and
the same authentication type. -/
inductive Validator.Alike (v : Validator) (now : Int64) (token token' : String) : Prop where
  | rejected (f : Failure) (h : (v.validate token now).value = .error f)
    (h' : (v.validate token' now).value = .error f)
    (named : Token.named? token = Token.named? token')
  | accepted (i i' : Identity) (h : (v.validate token now).value = .ok i)
    (h' : (v.validate token' now).value = .ok i')
    (subject : correlation i.canonicalName = correlation i'.canonicalName)
    (authenticationType : i.authenticationType = i'.authenticationType)

namespace Validator

variable {policy : Policy} {token token' : String} {now : Int64}

/-- **Tokens that look alike are reported about alike.** -/
theorem events_validate_of_alike (h : (ofPolicy policy).Alike now token token') :
    ((ofPolicy policy).validate token now).events
      = ((ofPolicy policy).validate token' now).events := by
  rw [events_validate, events_validate]
  show (policy.check token now).events ++ [account (policy.identify token now)]
    = (policy.check token' now).events ++ [account (policy.identify token' now)]
  cases h with
  | rejected f h h' named =>
    obtain ⟨why, hwhy, rfl⟩ := value_validate_eq_error_iff.1 h
    obtain ⟨why', hwhy', hsame⟩ := value_validate_eq_error_iff.1 h'
    obtain rfl := Failure.invalidToken.inj hsame
    rw [Policy.events_check, Policy.events_check, named, hwhy, hwhy']
  | accepted i i' h h' subject authenticationType =>
    rw [value_validate_eq_ok_iff] at h h'
    rw [Policy.events_check_of_ne (by simp [h]), Policy.events_check_of_ne (by simp [h']), h, h',
      account, account, subject, authenticationType]

end Validator

/-! ## All together -/

/-- **Secrets are withheld.**  Take a policy, and the same with another key.  Principals that look
alike are reported about alike when they are issued tokens under the one or the other; what is
issued to one principal is the same up to the last dot; and nothing describes the key.  Tokens that
look alike to a validator are reported about alike. -/
theorem secrets_withheld (policy : Policy) (key : List UInt8) :
    (∀ p p' : Principal, p.Alike p' → ∀ now micros micros',
      ((Issuer.mk policy []).issue p now micros).events
        = ((Issuer.mk (policy.withKey key) []).issue p' now micros').events)
    ∧ (∀ hooks p now micros micros',
      SameIssuance ((Issuer.mk policy hooks).issue p now micros).value
        ((Issuer.mk (policy.withKey key) hooks).issue p now micros').value)
    ∧ (∀ now token token', (Validator.ofPolicy policy).Alike now token token' →
      ((Validator.ofPolicy policy).validate token now).events
        = ((Validator.ofPolicy policy).validate token' now).events)
    ∧ (policy.withKey key).describe = policy.describe
    ∧ (∀ hooks, (Issuer.mk (policy.withKey key) hooks).describe
      = (Issuer.mk policy hooks).describe)
    ∧ (∀ hooks, (Validator.mk (policy.withKey key) hooks).describe
      = (Validator.mk policy hooks).describe)
    ∧ ∀ s : Settings, (s.withKey key).describe = s.describe := by
  refine ⟨fun p p' h now micros micros' => Issuer.events_issue_of_alike h micros',
    Issuer.sameIssuance_withKey policy key, fun now token token' h => ?_,
    policy.describe_withKey key, fun hooks => ?_, fun hooks => ?_,
    fun s => s.describe_withKey key⟩
  · exact Validator.events_validate_of_alike h
  · rw [Issuer.describe, Issuer.describe, policy.describe_withKey]
  · rw [Validator.describe, Validator.describe, policy.describe_withKey]

/-- A principal in a group. -/
def member (name group : String) : Principal :=
  ⟨name, "Negotiate", [⟨Kind.name, name⟩, ⟨Kind.group, group⟩]⟩

/-- Two names with one digest, in different groups: neither the issuer nor the validator tells them
apart, and the key of the fixtures may be another one. -/
theorem secrets_withheld_member :
    ∃ token token',
      (Fixture.policy.issue (member "alice6223" "staff") 1000 = .ok token
        ∧ Fixture.policy.issue (member "alice9641" "guests") 1000 = .ok token')
      ∧ ((Issuer.mk Fixture.policy []).issue (member "alice6223" "staff") 1000 0).events
        = ((Issuer.mk (Fixture.policy.withKey (Fixture.key 2)) []).issue
            (member "alice9641" "guests") 1000 7).events
      ∧ SameIssuance
        ((Issuer.mk Fixture.policy []).issue (member "alice6223" "staff") 1000 0).value
        ((Issuer.mk (Fixture.policy.withKey (Fixture.key 2)) []).issue
          (member "alice6223" "staff") 1000 7).value
      ∧ ((Validator.ofPolicy Fixture.policy).validate token 1000).events
        = ((Validator.ofPolicy Fixture.policy).validate token' 1000).events
      ∧ (Fixture.policy.withKey (Fixture.key 2)).describe = Fixture.policy.describe := by
  obtain ⟨hissuer, htoken, hvalidator, hpolicy, -⟩ :=
    secrets_withheld Fixture.policy (Fixture.key 2)
  have hdigest : correlation "alice6223" = correlation "alice9641" := by decide +kernel
  have halike : (member "alice6223" "staff").Alike (member "alice9641" "guests") :=
    ⟨rfl, hdigest, by decide⟩
  have hissue : ∀ {p : Principal}, p.isNameless = false →
      Fixture.policy.issue p 1000
        = .ok (Fixture.policy.encode (Fixture.policy.statedClaims p 1000)) :=
    fun hnamed => Policy.issue_eq_ok_iff.2 ⟨hnamed, by decide, rfl⟩
  have hissued := hissue (p := member "alice6223" "staff") (by decide)
  have hissued' := hissue (p := member "alice9641" "guests") (by decide)
  have huntil : (1000 : Int64) < Instant.after 1000 Fixture.policy.lifetime := by decide +kernel
  have haccepted := Validator.value_validate_issued (t := 1000) hissued
    (Policy.length_encode_le_max (by decide +kernel)) (by decide) huntil
  have haccepted' := Validator.value_validate_issued (t := 1000) hissued'
    (Policy.length_encode_le_max (by decide +kernel)) (by decide) huntil
  have hsubject : correlation (canonicalName "alice6223")
      = correlation (canonicalName "alice9641") := by decide +kernel
  exact ⟨_, _, ⟨hissued, hissued'⟩, hissuer _ _ halike 1000 0 7, htoken [] _ 1000 0 7,
    hvalidator 1000 _ _ (.accepted _ _ haccepted haccepted' hsubject rfl), hpolicy⟩

end BearerBridge
