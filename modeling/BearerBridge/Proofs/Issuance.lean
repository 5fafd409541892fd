/-
# What an issuer states

A token is issued to every principal that has a name and an authentication type, under a policy
whose reserved claim has a name of its own.  The policy trusts what it writes, so all that can
spoil an issued token is its size.

* `authenticates_encode` : what a policy writes is authentic to it;
* `identify_encode` : what becomes of what it writes, whatever the claims;
* `length_encode` : how large a token is beside its payload;
* `issue_eq_ok_iff` : what is issued, and to whom;
* `toInt_after_lifetime` : when an issued token expires.
-/
import BearerBridge.Issuer
import BearerBridge.Proofs.Acceptance
import BearerBridge.Proofs.Regroup
import BearerBridge.Proofs.Token.Payload

namespace BearerBridge

/-! ## What is written is authentic -/

namespace Policy

/-- The segments of the token that a policy writes. -/
def segments (policy : Policy) (c : TokenClaims) : Segments :=
  match policy.signing? with
  | some (key, a) => Token.signedSegments c key a
  | none => Token.unsecuredSegments c

variable {policy : Policy} {c : TokenClaims}

theorem encode_eq_text : policy.encode c = (policy.segments c).text := by
  unfold encode segments
  cases policy.signing? with
  | none =>
    show Token.writeUnsecured c = (Token.unsecuredSegments c).text
    rw [Token.writeUnsecured]
  | some signing =>
    show Token.sign c signing.1 signing.2 = (Token.signedSegments c signing.1 signing.2).text
    rw [Token.sign]

theorem wellFormed_segments : (policy.segments c).WellFormed := by
  rw [segments]
  split
  · exact Token.wellFormed_signedSegments ..
  · exact Token.wellFormed_unsecuredSegments c

theorem trusts_segments : policy.Trusts (policy.segments c) := by
  unfold Trusts segments
  cases policy.signing? with
  | none => exact ⟨Header.unsecuredBy_written, rfl⟩
  | some signing => exact ⟨signing.2.namedBy_written, rfl⟩

theorem payload_segments : (policy.segments c).payload = segmentOf c.chars := by
  unfold segments
  cases policy.signing? with
  | none => rfl
  | some signing => rfl

theorem read?_payload_segments :
    (segmentBytes? (policy.segments c).payload).bind TokenClaims.read?
      = TokenClaims.read? (Utf8.encode c.chars) := by
  rw [payload_segments, segmentOf, segmentBytes?_text, Option.bind_some]

/-- **What a policy writes is authentic to it**, unless it is too large: its claims come back
with their claim set regrouped. -/
theorem authenticates_encode (hnames : ∀ x ∈ c.claims, x.kind ∉ TokenClaims.ownNames)
    (hsize : (Utf8.ofString (policy.encode c)).length ≤ maxTokenBytes) :
    policy.Authenticates (policy.encode c) (policy.segments c) c.regroup where
  text := encode_eq_text
  size := hsize
  wellFormed := wellFormed_segments
  trusted := trusts_segments
  payload := by rw [read?_payload_segments, TokenClaims.read?_chars_regroup_iff.2 hnames]

/-- **What becomes of a token that a policy writes**, whatever its claims: one that is too large
or whose own members have two values is malformed, of any other the claims decide. -/
theorem identify_encode (policy : Policy) (c : TokenClaims) (t : Int64) :
    policy.identify (policy.encode c) t
      = if (Utf8.ofString (policy.encode c)).length ≤ maxTokenBytes ∧ c.Unambiguous then
          policy.accept c.absorbed t
        else .error .malformed := by
  by_cases hsize : (Utf8.ofString (policy.encode c)).length ≤ maxTokenBytes
  · have hsplit : Segments.split (policy.encode c) = .ok (policy.segments c) :=
      Segments.split_eq_ok_iff.2 ⟨wellFormed_segments, encode_eq_text, hsize⟩
    rw [identify_of_trusts hsplit trusts_segments, Segments.claims, read?_payload_segments]
    by_cases hclear : c.Unambiguous
    · rw [if_pos ⟨hsize, hclear⟩, TokenClaims.read?_chars_iff.2 ⟨hclear, rfl⟩]
      rfl
    · rw [if_neg fun h => hclear h.2, TokenClaims.read?_chars_of_ambiguous hclear]
      rfl
  · rw [if_neg fun h => hsize h.1,
      identify_of_not_split (Segments.split_of_large (Nat.lt_of_not_le hsize))]

end Policy

/-! ## The size of what is written -/

/-- How many bytes a signed token takes beside its payload: header, signature and two dots. -/
def SigningAlgorithm.frameBytes : SigningAlgorithm → Nat
  | hs256 => 81
  | hs384 => 102
  | hs512 => 124

namespace Policy

/-- How many bytes a token takes beside its payload. -/
def frameBytes (policy : Policy) : Nat :=
  match policy.signing? with
  | some (_, a) => a.frameBytes
  | none => 37

/-- **The size of a token**: four bytes for every three of its payload, and a frame that depends
on the algorithm alone. -/
theorem length_encode (policy : Policy) (c : TokenClaims) :
    (Utf8.ofString (policy.encode c)).length
      = (4 * (Utf8.encode c.chars).length + 2) / 3 + policy.frameBytes := by
  have hpayload : (Utf8.ofString (policy.segments c).payload).length
      = (4 * (Utf8.encode c.chars).length + 2) / 3 := by
    rw [payload_segments, segmentOf, Base64.length_ofString_text]
  have hframe : (Utf8.ofString (policy.segments c).header).length
      + (Utf8.ofString (policy.segments c).signature).length + 2 = policy.frameBytes := by
    unfold segments frameBytes
    cases policy.signing? with
    | none =>
      show (Utf8.ofString (segmentOf Header.unsecuredChars)).length
        + (Utf8.ofString "").length + 2 = 37
      decide +kernel
    | some signing =>
      obtain ⟨key, a⟩ := signing
      show (Utf8.ofString (segmentOf (JoseHeader.chars a.name))).length
        + (Utf8.ofString (Token.signature ..)).length + 2 = a.frameBytes
      rw [Token.length_signature]
      cases a <;> decide +kernel
  rw [encode_eq_text, Segments.length_text, hpayload, ← hframe]
  omega

/-- Beside its payload, a token takes at most 124 bytes. -/
theorem length_encode_le (policy : Policy) (c : TokenClaims) :
    (Utf8.ofString (policy.encode c)).length
      ≤ (4 * (Utf8.encode c.chars).length + 2) / 3 + 124 := by
  have hframe : policy.frameBytes ≤ 124 := by
    unfold frameBytes
    cases policy.signing? with
    | none => decide
    | some signing =>
      show signing.2.frameBytes ≤ 124
      cases signing.2 <;> decide
  rw [length_encode]
  omega

/-- A token whose payload takes no more than twelve thousand bytes is not too large. -/
theorem length_encode_le_max {policy : Policy} {c : TokenClaims}
    (h : (Utf8.encode c.chars).length ≤ 12000) :
    (Utf8.ofString (policy.encode c)).length ≤ maxTokenBytes := by
  have hbound := policy.length_encode_le c
  rw [maxTokenBytes]
  omega

end Policy

/-! ## The reserved claim -/

/-- A name that the reserved claim may have is not blank, and it is the name of no other claim of
a token. -/
theorem reservedClaimFault?_eq_none_iff {name : String} :
    reservedClaimFault? name = none
      ↔ isBlank name = false ∧ Kind.isRegistered name = false ∧ Kind.isBridged name = false := by
  rw [reservedClaimFault?]
  cases isBlank name <;> cases Kind.isRegistered name <;> cases Kind.isBridged name <;> simp

theorem kind_of_mem_outgoing {p : Principal} {x : Claim} (hx : x ∈ p.outgoing) :
    Kind.isBridged x.kind = true :=
  (List.mem_filter.1 hx).2

/-- A claim that travels is not taken for the reserved one. -/
theorem kind_ne_of_mem_outgoing {p : Principal} {x : Claim} {reserved : String}
    (h : reservedClaimFault? reserved = none) (hx : x ∈ p.outgoing) : x.kind ≠ reserved := by
  intro he
  obtain ⟨-, -, hbridged⟩ := reservedClaimFault?_eq_none_iff.1 h
  rw [← he, kind_of_mem_outgoing hx] at hbridged
  exact absurd hbridged (by decide)

/-- The names of the token's own members are registered, and registered kinds are not bridged. -/
theorem Kind.notMem_ownNames {kind : String}
    (h : isBridged kind = true ∨ isRegistered kind = false) : kind ∉ TokenClaims.ownNames := by
  have key : ∀ own ∈ TokenClaims.ownNames, isBridged own = false ∧ isRegistered own = true := by
    decide
  intro hmem
  obtain ⟨hbridged, hregistered⟩ := key kind hmem
  rcases h with h | h
  · exact absurd (h.symm.trans hbridged) (by decide)
  · exact absurd (h.symm.trans hregistered) (by decide)

/-- The reserved claim stands beside the token's own members. -/
theorem notMem_ownNames_of_reserved {name : String} (h : reservedClaimFault? name = none) :
    name ∉ TokenClaims.ownNames :=
  Kind.notMem_ownNames (Or.inr (reservedClaimFault?_eq_none_iff.1 h).2.1)

/-! ## Names -/

/-- The user comes to the front, and an at sign in the place of the first backslash. -/
theorem toList_canonicalName {name : String} {domain user : List Char}
    (hname : name.toList = domain ++ '\\' :: user) (hfirst : '\\' ∉ domain) (hdomain : domain ≠ [])
    (huser : user ≠ []) : (canonicalName name).toList = user ++ '@' :: domain := by
  rw [canonicalName, hname, atFirst?_append _ hfirst]
  dsimp only
  rw [if_neg (not_or.2 ⟨hdomain, huser⟩), String.toList_ofList]

/-- The canonical form of a name is blank only when the name is. -/
theorem isBlank_canonicalName {name : String} (h : isBlank name = false) :
    isBlank (canonicalName name) = false := by
  rw [canonicalName]
  split
  · split
    · exact h
    · -- the at sign between the two parts is no blank
      rw [isBlank, String.toList_ofList, List.all_append, List.all_cons]
      have hat : Blank '@' = false := by decide
      rw [hat, Bool.false_and, Bool.and_false]
  · exact h

/-! ## Issuing -/

namespace Policy

variable {policy : Policy} {p : Principal} {now : Int64}

/-- For whom there are claims to be issued. -/
theorem claimsFor_eq_ok_iff {c : TokenClaims} :
    policy.claimsFor p now = .ok c
      ↔ p.isNameless = false ∧ reservedClaimFault? policy.authenticationTypeClaim = none
        ∧ c = policy.statedClaims p now := by
  rw [claimsFor]
  cases p.isNameless with
  | true => simp
  | false =>
    cases reservedClaimFault? policy.authenticationTypeClaim with
    | some reason => simp
    | none => simp [eq_comm]

/-- **What is issued, and to whom.** -/
theorem issue_eq_ok_iff {token : String} :
    policy.issue p now = .ok token
      ↔ p.isNameless = false ∧ reservedClaimFault? policy.authenticationTypeClaim = none
        ∧ token = policy.encode (policy.statedClaims p now) := by
  have hclaims : policy.issue p now = .ok token
      ↔ ∃ c, policy.claimsFor p now = .ok c ∧ token = policy.encode c := by
    rw [issue]
    cases policy.claimsFor p now <;> simp [Except.map, eq_comm]
  rw [hclaims]
  constructor
  · rintro ⟨c, hc, rfl⟩
    obtain ⟨hnamed, hreserved, rfl⟩ := claimsFor_eq_ok_iff.1 hc
    exact ⟨hnamed, hreserved, rfl⟩
  · rintro ⟨hnamed, hreserved, rfl⟩
    exact ⟨_, claimsFor_eq_ok_iff.2 ⟨hnamed, hreserved, rfl⟩, rfl⟩

/-- The reserved claim stays behind the claims of the principal. -/
theorem regroup_statedClaims (h : reservedClaimFault? policy.authenticationTypeClaim = none) :
    (policy.statedClaims p now).claims.regroup
      = p.outgoing.regroup ++ [⟨policy.authenticationTypeClaim, p.authenticationType⟩] := by
  apply ClaimSet.regroup_concat
  exact fun x hx => kind_ne_of_mem_outgoing h hx

theorem kind_of_mem_statedClaims (h : reservedClaimFault? policy.authenticationTypeClaim = none)
    {x : Claim} (hx : x ∈ (policy.statedClaims p now).claims) :
    x.kind ∉ TokenClaims.ownNames := by
  rcases List.mem_append.1 hx with hx | hx
  · exact Kind.notMem_ownNames (Or.inl (kind_of_mem_outgoing hx))
  · rw [List.mem_singleton.1 hx]
    exact notMem_ownNames_of_reserved h

/-- **Of what is issued only the size can be wrong.** -/
theorem authenticates_issue {token : String} (h : policy.issue p now = .ok token)
    (hsize : (Utf8.ofString token).length ≤ maxTokenBytes) :
    policy.Authenticates token (policy.segments (policy.statedClaims p now))
      (policy.statedClaims p now).regroup := by
  obtain ⟨-, hreserved, rfl⟩ := issue_eq_ok_iff.1 h
  exact authenticates_encode (fun x hx => kind_of_mem_statedClaims hreserved hx) hsize

/-! ## The expiry -/

theorem toInt_lifetime (policy : Policy) :
    policy.lifetime.toInt = min (policy.maxAge.toNat : Int) Int64.maxValue.toInt := by
  rw [lifetime]
  split
  · next h =>
    rw [Int64.toInt_maxValue] at h
    rw [Int64.toInt_ofNat_of_lt (by omega), Int64.toInt_maxValue]
    omega
  · omega

end Policy

/-- An instant later is the sum, or the last instant when the sum is beyond it. -/
theorem Instant.toInt_after {now seconds : Int64} (h : 0 ≤ seconds.toInt) :
    (after now seconds).toInt = min Int64.maxValue.toInt (now.toInt + seconds.toInt) := by
  have hnow := now.minValue_le_toInt
  rw [after]
  split
  · omega
  · split
    · omega
    · next hlow hhigh =>
      rw [Int64.toInt_minValue] at hlow
      rw [Int64.toInt_maxValue] at hhigh ⊢
      rw [Int64.toInt_ofInt_of_le] <;> omega

/-- **When an issued token expires**: after the life that the policy gives to it, as far as
instants go. -/
theorem Policy.toInt_after_lifetime (policy : Policy) (now : Int64) :
    (Instant.after now policy.lifetime).toInt
      = min Int64.maxValue.toInt
        (now.toInt + min (policy.maxAge.toNat : Int) Int64.maxValue.toInt) := by
  have hlife := policy.toInt_lifetime
  have hlast : 0 ≤ Int64.maxValue.toInt := by decide
  rw [Instant.toInt_after (by omega), hlife]

end BearerBridge
