/-
# What is written reads back

Claims that are written, as a payload or as a whole token, read back with their claim set regrouped
by kind and nothing else changed.  A signed token reads back whatever its size, an unsecured one as
long as it is not too large.  What was read is written like what it was read from, so writing and
reading once more changes nothing.

* `chars_regroup` : regrouped claims are written like the claims themselves;
* `verify_sign`, `readUnsecured_writeUnsecured` : what becomes of a token that is written, whatever
  its claims;
* `reads_back` : what reads back when no claim has the name of one of the token's own members.
-/
import BearerBridge.Proofs.Issuance
import BearerBridge.Testing.Fixture

namespace BearerBridge

/-! ## Writing once more -/

/-- **Regrouped claims are written like the claims themselves.** -/
theorem TokenClaims.chars_regroup (c : TokenClaims) : c.regroup.chars = c.chars := by
  have hown : c.regroup.ownMembers = c.ownMembers := rfl
  have hmembers : c.regroup.claims.members = c.claims.members :=
    ClaimSet.members_regroup c.claims
  rw [chars, hown, hmembers, chars]

namespace Token

variable {c : TokenClaims}

theorem sign_regroup (c : TokenClaims) (key : List UInt8) (a : SigningAlgorithm) :
    sign c.regroup key a = sign c key a := by
  rw [sign, signedSegments, c.chars_regroup, sign, signedSegments]

theorem writeUnsecured_regroup (c : TokenClaims) :
    writeUnsecured c.regroup = writeUnsecured c := by
  rw [writeUnsecured, unsecuredSegments, c.chars_regroup, writeUnsecured, unsecuredSegments]

/-! ## Reading -/

/-- A payload reads back when no claim has the name of one of the token's own members. -/
theorem claims_of_payload {s : Segments} (hpayload : s.payload = segmentOf c.chars)
    (hnames : ∀ x ∈ c.claims, x.kind ∉ TokenClaims.ownNames) : s.claims = .ok c.regroup := by
  rw [Segments.claims, hpayload, segmentOf, segmentBytes?_text, Option.bind_some,
    TokenClaims.read?_chars_regroup_iff.2 hnames]

/-- **Of a signed token the payload decides**, whatever its size. -/
theorem verify_sign (c : TokenClaims) (key : List UInt8) (a : SigningAlgorithm) :
    verify (sign c key a) key a = (signedSegments c key a).claims := by
  have hheader : (segmentBytes? (signedSegments c key a).header).bind JoseHeader.read?
      = some a.name :=
    a.namedBy_written.strict_eq
  have hsignature : (signedSegments c key a).signature
      = signature a key (signedSegments c key a).signedText :=
    rfl
  rw [verify, sign, Segments.splitLast_text (wellFormed_signedSegments c key a)]
  generalize signedSegments c key a = s at hheader hsignature ⊢
  simp only [hheader, hsignature, ne_eq, not_true_eq_false, if_false]
  rfl

/-- **Of an unsecured token the payload decides**, unless it is too large. -/
theorem readUnsecured_writeUnsecured (c : TokenClaims) :
    (readUnsecured (writeUnsecured c)).mapError (fun _ => Rejection.malformed)
      = if (Utf8.ofString (writeUnsecured c)).length ≤ maxTokenBytes then
          (unsecuredSegments c).claims
        else .error .malformed := by
  by_cases hsize : (Utf8.ofString (writeUnsecured c)).length ≤ maxTokenBytes
  · have hsplit : Segments.split (writeUnsecured c) = .ok (unsecuredSegments c) :=
      Segments.split_eq_ok_iff.2 ⟨wellFormed_unsecuredSegments c, rfl, hsize⟩
    obtain ⟨header, hheader, hunsecured⟩ := Header.unsecuredBy_written
    have hsignature : (unsecuredSegments c).signature = "" := rfl
    rw [if_pos hsize, readUnsecured_of_split hsplit hheader hunsecured,
      if_neg (not_not_intro hsignature)]
  · rw [if_neg hsize, readUnsecured, Segments.split_of_large (Nat.lt_of_not_le hsize)]
    rfl

/-! ## Reading back -/

/-- **What is written reads back**, when no claim has the name of one of the token's own members:
the payload and a signed token always, an unsecured token just when it is not too large.  What
comes back are the claims with their claim set regrouped by kind, and writing them once more gives
the same token. -/
theorem reads_back (hnames : ∀ x ∈ c.claims, x.kind ∉ TokenClaims.ownNames) :
    TokenClaims.read? (Utf8.ofString c.text) = some c.regroup
      ∧ (∀ key a, verify (sign c key a) key a = .ok c.regroup)
      ∧ (readUnsecured (writeUnsecured c)).mapError (fun _ => Rejection.malformed)
        = (if (Utf8.ofString (writeUnsecured c)).length ≤ maxTokenBytes then .ok c.regroup
          else .error .malformed)
      ∧ c.regroup.text = c.text
      ∧ (∀ key a, sign c.regroup key a = sign c key a)
      ∧ writeUnsecured c.regroup = writeUnsecured c := by
  refine ⟨?_, fun key a => ?_, ?_, ?_, sign_regroup c, writeUnsecured_regroup c⟩
  · rw [TokenClaims.text, Utf8.ofString, String.toList_ofList,
      TokenClaims.read?_chars_regroup_iff.2 hnames]
  · have hpayload : (signedSegments c key a).payload = segmentOf c.chars := rfl
    rw [verify_sign, claims_of_payload hpayload hnames]
  · have hpayload : (unsecuredSegments c).payload = segmentOf c.chars := rfl
    rw [readUnsecured_writeUnsecured, claims_of_payload hpayload hnames]
  · rw [TokenClaims.text, c.chars_regroup, TokenClaims.text]

/-- Claims that repeat and interleave their kinds, with an identifier of the token among them. -/
def interleaved : TokenClaims where
  issuer := none
  audience := some "a\"b"
  subject := "Ünïcode\n"
  notBefore := -5
  issuedAt := 0
  expiry := 9223372036854775807
  claims := [⟨"group", "g1"⟩, ⟨"jti", "7"⟩, ⟨"group", ""⟩, ⟨"", "x"⟩, ⟨"group", "g1"⟩]

set_option maxRecDepth 10000 in
/-- The groups of the interleaved claims come back together, under a key and without one. -/
theorem reads_back_interleaved :
    (∀ x ∈ interleaved.claims, x.kind ∉ TokenClaims.ownNames)
      ∧ verify (sign interleaved (Fixture.key 1) .hs384) (Fixture.key 1) .hs384
        = .ok { interleaved with claims := [⟨"group", "g1"⟩, ⟨"group", ""⟩, ⟨"group", "g1"⟩,
            ⟨"jti", "7"⟩, ⟨"", "x"⟩] }
      ∧ (readUnsecured (writeUnsecured interleaved)).mapError (fun _ => Rejection.malformed)
        = .ok interleaved.regroup := by
  have hnames : ∀ x ∈ interleaved.claims, x.kind ∉ TokenClaims.ownNames := by decide
  obtain ⟨-, hsigned, hunsecured, -⟩ := reads_back hnames
  have hpayload : (Utf8.encode interleaved.chars).length ≤ 12000 := by decide
  have hsize : (Utf8.ofString (writeUnsecured interleaved)).length ≤ maxTokenBytes :=
    @Policy.length_encode_le_max Fixture.keylessPolicy _ hpayload
  rw [if_pos hsize] at hunsecured
  have hregroup : interleaved.regroup = { interleaved with claims := [⟨"group", "g1"⟩,
      ⟨"group", ""⟩, ⟨"group", "g1"⟩, ⟨"jti", "7"⟩, ⟨"", "x"⟩] } := by
    decide
  exact ⟨hnames, (hsigned _ _).trans (congrArg Except.ok hregroup), hunsecured⟩

end Token

end BearerBridge
