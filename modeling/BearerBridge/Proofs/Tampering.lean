/-
# Tampering with a signed token

Under a key, what nobody authenticated is never looked at.  Once the header of a token is in
order, any other signature and any other payload come to the same end, an invalid signature; what
the other payload says, or whether it says anything, makes no difference.

* `Segments.eq_of_text_eq` : a text has one way to be three segments;
* `trusts_of_identify` : a token that gets past the signature is trusted;
* `identify_tampered` : every tampering with such a token is an invalid signature.
-/
import BearerBridge.Proofs.RoundTrip

namespace BearerBridge

/-! ## One way to be a token -/

/-- **A text has one way to be three segments**, if it has one without dots in them: as there are
but two dots in the text, both are used up between the segments. -/
theorem Segments.eq_of_text_eq {s s' : Segments} (hwf : s'.WellFormed) (h : s.text = s'.text) :
    s = s' := by
  have hlist : s.text.toList = s'.text.toList := congrArg String.toList h
  rw [toList_text, toList_text] at hlist
  have hcount := congrArg (List.count '.') hlist
  simp only [List.count_append, List.count_cons_self, List.count_eq_zero.2 hwf.header_no_dot,
    List.count_eq_zero.2 hwf.payload_no_dot, List.count_eq_zero.2 hwf.signature_no_dot] at hcount
  have hheader : '.' ∉ s.header.toList := List.count_eq_zero.1 (by omega)
  have hpayload : '.' ∉ s.payload.toList := List.count_eq_zero.1 (by omega)
  have hsignature : '.' ∉ s.signature.toList := List.count_eq_zero.1 (by omega)
  have hpieces := congrArg (splitAll '.') hlist
  rw [splitAll_append _ hheader, splitAll_append _ hpayload, splitAll_of_not_mem hsignature,
    splitAll_append _ hwf.header_no_dot, splitAll_append _ hwf.payload_no_dot,
    splitAll_of_not_mem hwf.signature_no_dot] at hpieces
  cases s
  cases s'
  simpa only [List.cons.injEq, String.toList_inj, and_true, mk.injEq] using hpieces

namespace Policy

variable {policy : Policy} {s : Segments}

/-- A token that is at some instant neither malformed nor of an invalid signature is trusted. -/
theorem trusts_of_identify {t : Int64} (hform : policy.identify s.text t ≠ .error .malformed)
    (hsig : policy.identify s.text t ≠ .error .signatureInvalid) :
    s.WellFormed ∧ policy.Trusts s := by
  rcases identify_cases policy s.text with ⟨s', c, hauth⟩ | ⟨-, why, hplain, herror⟩
  · obtain rfl := Segments.eq_of_text_eq hauth.wellFormed hauth.text
    exact ⟨hauth.wellFormed, hauth.trusted⟩
  · rcases hplain with rfl | rfl
    · exact absurd (herror t) hform
    · exact absurd (herror t) hsig

/-! ## Other signatures, other payloads -/

variable {key : List UInt8} {a : SigningAlgorithm}

/-- **Every tampering with a signed token is an invalid signature.**  Take a token that gets past
the signature at some instant.  With any other signature, and with any payload that would be
signed otherwise, it is reported at every instant as a token of an invalid signature. -/
theorem identify_tampered {t : Int64} (hkey : policy.signing? = some (key, a))
    (hform : policy.identify s.text t ≠ .error .malformed)
    (hsig : policy.identify s.text t ≠ .error .signatureInvalid) (now : Int64) :
    (∀ sig : String, '.' ∉ sig.toList → sig ≠ s.signature →
        (Utf8.ofString (Segments.text { s with signature := sig })).length ≤ maxTokenBytes →
        policy.identify (Segments.text { s with signature := sig }) now
          = .error .signatureInvalid)
      ∧ ∀ payload : String, '.' ∉ payload.toList → payload ≠ "" → payload ≠ s.payload →
        (Utf8.ofString (Segments.text { s with payload })).length ≤ maxTokenBytes →
        Token.signature a key (s.header ++ "." ++ payload)
          ≠ Token.signature a key (s.header ++ "." ++ s.payload) →
        policy.identify (Segments.text { s with payload }) now = .error .signatureInvalid := by
  obtain ⟨hwf, htrust⟩ := trusts_of_identify hform hsig
  rw [Trusts, hkey] at htrust
  obtain ⟨hnamed, hright⟩ := htrust
  -- in both cases the header stays, so the signature is what is compared first
  refine ⟨fun sig hdot hne hsize => ?_, fun payload hdot hempty _ hsize hother => ?_⟩
  · have hwf' : Segments.WellFormed { s with signature := sig } :=
      { hwf with signature_no_dot := hdot }
    rw [identify_of_namedBy hkey (Segments.split_text hwf' hsize) hnamed]
    refine if_pos ?_
    exact fun e => hne (e.trans hright.symm)
  · have hwf' : Segments.WellFormed { s with payload } :=
      { hwf with payload_no_dot := hdot, payload_ne_nil := by simpa using hempty }
    rw [identify_of_namedBy hkey (Segments.split_text hwf' hsize) hnamed]
    refine if_pos ?_
    exact fun e => hother (e.symm.trans hright)

/-- A signing policy whose tokens are short. -/
def brief : Policy where
  issuer := none
  audience := none
  signingKey := some [1]
  signingAlgorithm := some .hs256
  maxAge := 9
  authenticationTypeClaim := "t"
  defaultAuthenticationType := none

/-- The segments of a short token, issued to a principal without claims. -/
def briefSegments : Segments :=
  Token.signedSegments (brief.statedClaims ⟨"u", "X", []⟩ 0) [1] .hs256

/-- A short token with its signature stripped, and with a payload that is not even base64. -/
theorem identify_brief_tampered :
    brief.identify (Segments.text { briefSegments with signature := "" }) 0
        = .error .signatureInvalid
      ∧ brief.identify (Segments.text { briefSegments with payload := "!" }) 0
        = .error .signatureInvalid := by
  have htext : brief.encode (brief.statedClaims ⟨"u", "X", []⟩ 0) = briefSegments.text :=
    encode_eq_text
  have hissue : brief.issue ⟨"u", "X", []⟩ 0 = .ok briefSegments.text :=
    issue_eq_ok_iff.2 ⟨by decide, by decide, htext.symm⟩
  have hchars : (Utf8.encode (brief.statedClaims ⟨"u", "X", []⟩ 0).chars).length ≤ 100 := by
    decide +kernel
  have hshort : (Utf8.ofString briefSegments.text).length ≤ 1000 := by
    rw [← htext]
    have hbound := brief.length_encode_le (brief.statedClaims ⟨"u", "X", []⟩ 0)
    omega
  have hsize : (Utf8.ofString briefSegments.text).length ≤ maxTokenBytes := by
    rw [maxTokenBytes]
    omega
  have hne : ∀ why, brief.identify briefSegments.text 0 ≠ .error why := by
    intro why herror
    rw [identify_issued hissue hsize, if_neg (by decide), if_neg (by decide)] at herror
    exact absurd herror (by simp)
  obtain ⟨hsignature, hpayload⟩ :=
    identify_tampered (s := briefSegments) (t := 0) rfl (hne _) (hne _) 0
  have hlength : (Utf8.ofString briefSegments.signature).length = 43 :=
    Token.length_signature ..
  have hempty : (Utf8.ofString "").length = 0 := by decide
  have hmark : (Utf8.ofString "!").length = 1 := by decide
  rw [Segments.length_text] at hshort
  constructor
  · refine hsignature "" (by decide) ?_ ?_
    · intro h
      rw [← h] at hlength
      omega
    · rw [Segments.length_text, maxTokenBytes]
      dsimp only
      omega
  · refine hpayload "!" (by decide) (by decide) (by decide +kernel) ?_ (by decide +kernel)
    rw [Segments.length_text, maxTokenBytes]
    dsimp only
    omega

end Policy

end BearerBridge
