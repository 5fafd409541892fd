/-
# Bearer tokens in requests

A token that the bridge finds authentic consists of visible characters, whoever made it.  So a
header carries it unchanged behind the scheme, and the bridge takes it from there as it was.

* `Authenticates.isVisibleText` : an authentic token is visible;
* `value_bearerToken` : what the bridge takes from a header that carries a visible token;
* `value_admitBearer` : whom the guard of a page lets in with it;
* `value_admitBearer_issued` : whom it lets in with a token that the bridge issued.
-/
import BearerBridge.Client.Credential
import BearerBridge.Guard
import BearerBridge.Proofs.RoundTrip
import BearerBridge.Proofs.Text.Visible

namespace BearerBridge

/-! ## Authentic tokens are visible -/

/-- A text is visible when its three segments are. -/
theorem Segments.isVisibleText {s : Segments} (hheader : IsVisibleText s.header)
    (hpayload : IsVisibleText s.payload) (hsignature : IsVisibleText s.signature) :
    IsVisibleText s.text := by
  have hdot : IsVisibleText "." := by
    intro c hc
    obtain rfl := List.mem_singleton.1 hc
    decide
  exact ((hheader.append hdot).append hpayload).append hdot |>.append hsignature

namespace Policy

variable {policy : Policy} {token : String} {s : Segments} {c : TokenClaims}

/-- Header and signature of a trusted token are visible. -/
theorem Trusts.isVisibleText (h : policy.Trusts s) :
    IsVisibleText s.header ∧ IsVisibleText s.signature := by
  unfold Trusts at h
  split at h
  · obtain ⟨hnamed, hsignature⟩ := h
    obtain ⟨header, hheader, -⟩ := hnamed.loose
    obtain ⟨bytes, hbytes, -⟩ := Option.bind_eq_some_iff.1 hheader
    rw [hsignature]
    exact ⟨isVisibleText_of_segmentBytes? hbytes,
      isVisibleText_of_segmentBytes? (segmentBytes?_text _)⟩
  · obtain ⟨⟨header, hheader, -⟩, hsignature⟩ := h
    obtain ⟨bytes, hbytes, -⟩ := Option.bind_eq_some_iff.1 hheader
    rw [hsignature]
    exact ⟨isVisibleText_of_segmentBytes? hbytes, isVisibleText_empty⟩

/-- **An authentic token is visible**, whoever made it. -/
theorem Authenticates.isVisibleText (h : policy.Authenticates token s c) :
    IsVisibleText token := by
  obtain ⟨bytes, hbytes, -⟩ := Option.bind_eq_some_iff.1 h.payload
  obtain ⟨hheader, hsignature⟩ := h.trusted.isVisibleText
  rw [h.text]
  exact Segments.isVisibleText hheader (isVisibleText_of_segmentBytes? hbytes) hsignature

/-- No authentic token is empty. -/
theorem Authenticates.ne_empty (h : policy.Authenticates token s c) : token ≠ "" := by
  intro hempty
  have hlist := congrArg String.toList (hempty.symm.trans h.text)
  rw [Segments.toList_text] at hlist
  simp at hlist

end Policy

/-! ## From a header to a token -/

/-- A header with a visible token is printable. -/
theorem Credential.printable_headerOf {token : String} (h : IsVisibleText token) :
    ∀ c ∈ (headerOf token).toList, 0x20 ≤ c.toNat ∧ c.toNat ≤ 0x7E := by
  have hscheme : ("Bearer ".toList.all fun c => 0x20 ≤ c.toNat && c.toNat ≤ 0x7E) = true := by
    decide
  intro c hc
  rw [headerOf, String.toList_append] at hc
  rcases List.mem_append.1 hc with hc | hc
  · simpa using List.all_eq_true.1 hscheme c hc
  · have hvisible := h c hc
    exact ⟨Nat.le_of_lt hvisible.1, hvisible.2⟩

/-- **What the bridge takes from a header that carries a visible token**: that token. -/
theorem value_bearerToken {hs : Http.Headers} {token : String} (hvisible : IsVisibleText token)
    (hne : token ≠ "")
    (hheader : hs.get? "authorization" = some (Utf8.ofString (Credential.headerOf token))) :
    (bearerToken hs).value = .ok token := by
  have htext : hs.text? "authorization" = some (Credential.headerOf token) := by
    rw [Http.Headers.text?, hheader, Option.bind_some,
      Http.valueText?_ofString (Credential.printable_headerOf hvisible)]
  have hsplit : splitOnce? ' ' (Credential.headerOf token) = some ("Bearer", token) := by
    have hscheme : ' ' ∉ "Bearer".toList := by decide
    have hlist : (Credential.headerOf token).toList
        = "Bearer".toList ++ ' ' :: token.toList := by
      rw [Credential.headerOf, String.toList_append]
      rfl
    rw [splitOnce?, hlist, atFirst?_append _ hscheme, Option.map_some, String.ofList_toList,
      String.ofList_toList]
  have hword : (Ascii.sameWord "Bearer" "bearer" && token != "") = true := by
    rw [Bool.and_eq_true, bne_iff_ne]
    exact ⟨by decide, hne⟩
  rw [bearerToken, htext]
  dsimp only
  rw [hsplit]
  dsimp only
  rw [trim_of_visible hvisible, if_pos hword]
  rfl

/-- The header of a client brings an authentic token to the bridge as it is. -/
theorem Policy.Authenticates.value_bearerToken {policy : Policy} {token : String} {s : Segments}
    {c : TokenClaims} (h : policy.Authenticates token s c) {hs : Http.Headers}
    (hheader : hs.get? "authorization" = some (Utf8.ofString (Credential.headerOf token))) :
    (bearerToken hs).value = .ok token :=
  BearerBridge.value_bearerToken h.isVisibleText h.ne_empty hheader

/-! ## From a token to an identity -/

namespace Validator

/-- A validator without hooks validates as its policy does. -/
theorem value_validate_ofPolicy (policy : Policy) (token : String) (now : Int64) :
    ((ofPolicy policy).validate token now).value
      = (policy.identify token now).mapError .invalidToken := by
  have hcheck : ((ofPolicy policy).policy.check token now).value = policy.identify token now := rfl
  rw [validate, Traced.value_bind, hcheck]
  cases policy.identify token now <;> rfl

/-- Without hooks a validator accepts what its policy does. -/
theorem value_validate_eq_ok_iff {policy : Policy} {token : String} {now : Int64}
    {i : Identity} :
    ((ofPolicy policy).validate token now).value = .ok i ↔ policy.identify token now = .ok i := by
  rw [value_validate_ofPolicy]
  cases policy.identify token now <;> simp [Except.mapError]

/-- Without hooks a validator rejects what its policy does, for the same reason. -/
theorem value_validate_eq_error_iff {policy : Policy} {token : String} {now : Int64}
    {f : Failure} :
    ((ofPolicy policy).validate token now).value = .error f
      ↔ ∃ why, policy.identify token now = .error why ∧ f = .invalidToken why := by
  rw [value_validate_ofPolicy]
  cases policy.identify token now <;> simp [Except.mapError, eq_comm]

/-- A validator takes the bearer of an issued token for the principal, as long as the token is
valid. -/
theorem value_validate_issued {policy : Policy} {p : Principal} {t₀ t : Int64} {token : String}
    (hissue : policy.issue p t₀ = .ok token) (hsize : (Utf8.ofString token).length ≤ maxTokenBytes)
    (hfrom : t₀ ≤ t) (huntil : t < Instant.after t₀ policy.lifetime) :
    ((ofPolicy policy).validate token t).value
      = .ok (policy.identityFor p t₀ (Instant.after t₀ policy.lifetime)) := by
  rw [value_validate_ofPolicy, Policy.identify_issued hissue hsize,
    if_neg (Int64.not_le.2 huntil), if_neg (Int64.not_lt.2 hfrom)]
  rfl

end Validator

/-- **Whom the guard lets in**: whoever the validator takes the bearer of the token for. -/
theorem value_admitBearer {v : Validator} {now : Int64} {r : Http.Request} {token : String}
    (h : (bearerToken r.headers).value = .ok token) :
    (admitBearer v now r).value = (v.validate token now).value := by
  rw [admitBearer, Traced.value_bind, h]
  rfl

/-- The guard of a policy lets in whoever the policy takes the bearer of the token for. -/
theorem value_admitBearer_ofPolicy {policy : Policy} {now : Int64} {r : Http.Request}
    {token : String} (h : (bearerToken r.headers).value = .ok token) :
    (admitBearer (.ofPolicy policy) now r).value
      = (policy.identify token now).mapError .invalidToken := by
  rw [value_admitBearer h, Validator.value_validate_ofPolicy]

/-- **With an issued token the guard lets in the principal** it was issued to, as long as the token
is valid. -/
theorem value_admitBearer_issued {policy : Policy} {p : Principal} {t₀ t : Int64} {token : String}
    (hissue : policy.issue p t₀ = .ok token) (hsize : (Utf8.ofString token).length ≤ maxTokenBytes)
    (hfrom : t₀ ≤ t) (huntil : t < Instant.after t₀ policy.lifetime) {r : Http.Request}
    (hheader :
      r.headers.get? "authorization" = some (Utf8.ofString (Credential.headerOf token))) :
    (admitBearer (.ofPolicy policy) t r).value
      = .ok (policy.identityFor p t₀ (Instant.after t₀ policy.lifetime)) := by
  have htoken := (Policy.authenticates_issue hissue hsize).value_bearerToken hheader
  rw [value_admitBearer htoken, Validator.value_validate_issued hissue hsize hfrom huntil]

end BearerBridge
