/-
# Registered names in a token

A payload is one object, and the names of its members decide where they go: those of the token's
own members state its issuer, audience, subject and window, all others its claims.  So no claim of
a token that was read has the name of an own member, and a list of all its claims has each of
these names at most once.  One registered name belongs to no own member: an identifier, `jti`, is
read as a claim like any other, as often as the payload gives it.

* `ClaimSet.keepKinds_ofMembers` : claims are read off the members of their kind;
* `claims_of_read?` : which members the claims of a token are read off;
* `keepKinds_of_read?` : what stands under a name that no own member has;
* `registered_of_read?` : where the registered names of a token that was read stand.
-/
import BearerBridge.Proofs.Acceptance
import BearerBridge.Proofs.Token.Payload

namespace BearerBridge

/-! ## Claims and the members they are read off -/

theorem ClaimSet.kind_of_mem_ofMember {m : String × Json.Value} {x : Claim}
    (hx : x ∈ ofMember m) : x.kind = m.1 := by
  obtain ⟨kind, v⟩ := m
  cases v with
  | array items =>
    obtain ⟨v, -, rfl⟩ := List.mem_map.1 hx
    rfl
  | _ =>
    obtain rfl := List.mem_singleton.1 hx
    rfl

/-- **Kinds can be left out among the members as well as among the claims read off them.** -/
theorem ClaimSet.keepKinds_ofMembers (ms : List (String × Json.Value)) (keep : String → Bool) :
    (ofMembers ms).keepKinds keep = ofMembers (ms.filter (keep ·.1)) := by
  -- over the members: all claims of one are kept, or none of them is
  induction ms with
  | nil => rfl
  | cons m ms ih =>
    simp only [keepKinds, ofMembers] at ih
    simp only [keepKinds, ofMembers, List.flatMap_cons, List.filter_append, List.filter_cons, ih]
    cases hm : keep m.1 with
    | true =>
      have hall : (ofMember m).filter (keep ·.kind) = ofMember m := by
        rw [List.filter_eq_self]
        intro x hx
        rw [kind_of_mem_ofMember hx, hm]
      rw [hall, if_pos rfl, List.flatMap_cons]
    | false =>
      have hnone : (ofMember m).filter (keep ·.kind) = [] := by
        rw [List.filter_eq_nil_iff]
        intro x hx
        rw [kind_of_mem_ofMember hx, hm]
        exact Bool.false_ne_true
      rw [hnone, if_neg Bool.false_ne_true, List.nil_append]

/-! ## Registered names -/

/-- The name of an identifier, which is registered and no own member of a token. -/
def Kind.identifier : String := "jti"

/-- **A registered name is that of an own member or that of an identifier.** -/
theorem Kind.isRegistered_iff {kind : String} :
    isRegistered kind = true ↔ kind ∈ TokenClaims.ownNames ∨ kind = identifier := by
  have hregistered : registered = TokenClaims.ownNames ++ [identifier] := rfl
  rw [isRegistered, List.contains_iff_mem, hregistered, List.mem_append, List.mem_singleton]

namespace TokenClaims

variable {c : TokenClaims} {bs : List UInt8}

/-- **Which members the claims of a token are read off**: those of other names than its own
members have. -/
theorem claims_of_read? (h : read? bs = some c) :
    ∃ ms, Json.members? bs = some ms
      ∧ c.claims = ClaimSet.ofMembers (ms.filter (!ownNames.contains ·.1)) := by
  rw [read?_eq, Option.bind_eq_some_iff] at h
  obtain ⟨ms, hms, hclaims⟩ := h
  obtain ⟨-, -, -, -, -, -, heq⟩ := ofMembers?_eq_some_iff.1 hclaims
  exact ⟨ms, hms, heq⟩

/-- No claim of a token that was read has the name of an own member. -/
theorem kind_of_read? (h : read? bs = some c) : ∀ x ∈ c.claims, x.kind ∉ ownNames := by
  intro x hx
  obtain ⟨ms, -, hclaims⟩ := claims_of_read? h
  rw [hclaims, ← ClaimSet.keepKinds_ofMembers ms (!ownNames.contains ·)] at hx
  simpa using (List.mem_filter.1 hx).2

/-- The registered claims of a token that was read are its identifiers. -/
theorem isRegistered_of_read? (h : read? bs = some c) :
    ∀ x ∈ c.claims, Kind.isRegistered x.kind = true → x.kind = Kind.identifier := by
  intro x hx hregistered
  rcases Kind.isRegistered_iff.1 hregistered with hown | hidentifier
  · exact absurd hown (kind_of_read? h x hx)
  · exact hidentifier

/-! ## All claims of a token in one list -/

/-- The token's own members add no claim of another name. -/
theorem filter_allClaims (c : TokenClaims) {kind : String} (h : kind ∉ ownNames) :
    c.allClaims.filter (·.kind == kind) = c.claims.filter (·.kind == kind) := by
  have hne : ∀ name ∈ ownNames, name ≠ kind := fun name hname he => h (he ▸ hname)
  simp only [ownNames, List.forall_mem_cons] at hne
  obtain ⟨hiss, haud, hsub, hnbf, hiat, hexp, -⟩ := hne
  obtain ⟨issuer, audience, subject, notBefore, issuedAt, expiry, claims⟩ := c
  cases issuer <;> cases audience <;> simp [allClaims, hiss, haud, hsub, hnbf, hiat, hexp]

/-- Where no claim has the name of an own member, each of these names stands for that member
only. -/
theorem count_allClaims (hclaims : ∀ x ∈ c.claims, x.kind ∉ ownNames) :
    c.allClaims.count "iss" = c.issuer.toList.length
      ∧ c.allClaims.count "aud" = c.audience.toList.length
      ∧ ∀ name ∈ ["sub", "nbf", "iat", "exp"], c.allClaims.count name = 1 := by
  have hnone : ∀ name ∈ ownNames, c.claims.filter (·.kind == name) = [] := by
    intro name hname
    rw [List.filter_eq_nil_iff]
    intro x hx he
    exact hclaims x hx (eq_of_beq he ▸ hname)
  simp only [ownNames, List.forall_mem_cons] at hnone
  obtain ⟨hiss, haud, hsub, hnbf, hiat, hexp, -⟩ := hnone
  obtain ⟨issuer, audience, subject, notBefore, issuedAt, expiry, claims⟩ := c
  cases issuer <;> cases audience <;>
    simp [allClaims, ClaimSet.count, hiss, haud, hsub, hnbf, hiat, hexp]

/-- **A name that no own member has stands for what the payload gives under it**, among the claims
of a token that was read and in the list of all of them. -/
theorem keepKinds_of_read? {kind : String} (hother : kind ∉ ownNames) (h : read? bs = some c) :
    ∃ ms, Json.members? bs = some ms
      ∧ c.claims.keepKinds (· == kind) = ClaimSet.ofMembers (ms.filter (·.1 == kind))
      ∧ c.allClaims.keepKinds (· == kind) = ClaimSet.ofMembers (ms.filter (·.1 == kind)) := by
  obtain ⟨ms, hms, hclaims⟩ := claims_of_read? h
  have hkept : c.claims.keepKinds (· == kind) = ClaimSet.ofMembers (ms.filter (·.1 == kind)) := by
    rw [hclaims, ClaimSet.keepKinds_ofMembers, List.filter_filter]
    congr 1
    apply List.filter_congr
    intro m _
    by_cases hm : m.1 = kind
    · simp [hm, hother]
    · simp [hm]
  refine ⟨ms, hms, hkept, ?_⟩
  rw [ClaimSet.keepKinds, c.filter_allClaims hother]
  exact hkept

/-- **Where the registered names of a token that was read stand.**  No claim of it has the name of
an own member, so the only registered name among its claims is that of an identifier, and the
identifiers are what the payload gives under that name.  In the list of all claims, which is also
that of an identity made of the token, issuer and audience stand at most once, subject and window
exactly once, and the identifiers as among the claims. -/
theorem registered_of_read? (h : read? bs = some c) :
    (∀ x ∈ c.claims, x.kind ∉ ownNames)
      ∧ (∀ x ∈ c.claims, Kind.isRegistered x.kind = true → x.kind = Kind.identifier)
      ∧ (∃ ms, Json.members? bs = some ms
        ∧ c.claims.keepKinds (· == Kind.identifier)
          = ClaimSet.ofMembers (ms.filter (·.1 == Kind.identifier))
        ∧ c.allClaims.keepKinds (· == Kind.identifier)
          = ClaimSet.ofMembers (ms.filter (·.1 == Kind.identifier)))
      ∧ (∀ name ∈ ["iss", "aud"], c.allClaims.count name ≤ 1)
      ∧ (∀ name ∈ ["sub", "nbf", "iat", "exp"], c.allClaims.count name = 1)
      ∧ ∀ reserved default i, Identity.ofTokenClaims c reserved default = .ok i →
        i.tokenClaims = c.allClaims := by
  obtain ⟨hiss, haud, hrequired⟩ := count_allClaims (kind_of_read? h)
  have hother : Kind.identifier ∉ ownNames := by decide
  refine ⟨kind_of_read? h, isRegistered_of_read? h, keepKinds_of_read? hother h, ?_, hrequired, ?_⟩
  · have hlength : ∀ s : Option String, s.toList.length ≤ 1 := by
      intro s
      cases s <;> simp
    simp only [List.forall_mem_cons, List.not_mem_nil, false_imp_iff, implies_true, and_true]
    exact ⟨hiss ▸ hlength _, haud ▸ hlength _⟩
  · intro reserved default i hi
    obtain ⟨type, -, rfl⟩ := Identity.eq_of_ofTokenClaims hi
    rfl

/-- A payload without an issuer, with two identifiers between the token's own members and a group
at the end. -/
def identified : String :=
  "\x7b\"iss\":null,\"jti\":[\"7\",\"8\"],\"sub\":\"alice\",\"nbf\":0,\"iat\":0,\"exp\":10,"
    ++ "\"group\":\"g\"\x7d"

theorem read?_identified :
    read? (Utf8.ofString identified) = some {
      issuer := none
      audience := none
      subject := "alice"
      notBefore := 0
      issuedAt := 0
      expiry := 10
      claims := [⟨"jti", "7"⟩, ⟨"jti", "8"⟩, ⟨"group", "g"⟩] } := by
  decide +kernel

/-- Subject and window of the payload with two identifiers stand once among all its claims. -/
theorem registered_of_read?_identified :
    ∃ c, read? (Utf8.ofString identified) = some c
      ∧ (∀ x ∈ c.claims, x.kind ∉ ownNames)
      ∧ c.allClaims.count "iss" ≤ 1 ∧ c.allClaims.count "sub" = 1
      ∧ c.allClaims.count "exp" = 1 := by
  obtain ⟨hnames, -, -, hoptional, hrequired, -⟩ := registered_of_read? read?_identified
  exact ⟨_, read?_identified, hnames, hoptional "iss" (by simp), hrequired "sub" (by simp),
    hrequired "exp" (by simp)⟩

/-- An identifier is registered, and yet it is read as a claim; two of them are two claims. -/
theorem identifiers_among_claims :
    ∃ c, read? (Utf8.ofString identified) = some c
      ∧ (∃ x ∈ c.claims, Kind.isRegistered x.kind = true)
      ∧ c.allClaims.count "jti" = 2 :=
  ⟨_, read?_identified, ⟨⟨"jti", "7"⟩, by decide, by decide⟩, by decide⟩

end TokenClaims

end BearerBridge
