/-
# Tokens shaped by hooks

A hook is any function that replaces the claims of a token or refuses to issue it.  The issuer
looks at one thing only when the hooks are done: the reserved claim has to be there once, with
the authentication type of the principal.  That is enough for the authentication type to come out
of the bridge as it went in, whatever else the hooks do.  It is not enough for the token to be
read: a claim that has the name of one of the token's own members stands where that member does.

* `value_issue_eq_ok_iff` : which tokens are issued;
* `value_issue_of_idle` : hooks that hand back what they get change nothing;
* `shape_induction` : what every hook keeps, all of them together keep;
* `authenticates_of_isModest` : when hooks leave tokens authentic;
* `authenticationType_of_issue` : no hook changes the authentication type;
* `payload_of_issue` : which issued tokens have a payload that reads back, and as what.
-/
import BearerBridge.Proofs.Issuance
import BearerBridge.Proofs.Outcome
import BearerBridge.Proofs.Token.Registered
import BearerBridge.Testing.Fixture

namespace BearerBridge

/-! ## The reserved claim among others -/

/-- Taking the claims that stand for a member for it leaves claims of other kinds alone. -/
theorem TokenClaims.values_absorbed {c : TokenClaims} {kind : String} (h : kind ∉ ownNames) :
    c.absorbed.claims.values kind = c.claims.values kind := by
  have hkeep : (!ownNames.contains kind) = true := by simpa using h
  rw [absorbed, ClaimSet.values_regroup, ClaimSet.values_keepKinds c.claims hkeep]

/-- The token's own members add no value to a kind of another name. -/
theorem TokenClaims.values_allClaims {c : TokenClaims} {kind : String} (h : kind ∉ ownNames) :
    c.allClaims.values kind = c.claims.values kind := by
  rw [ClaimSet.values, c.filter_allClaims h, ClaimSet.values]

theorem ClaimSet.count_withoutKind (cs : ClaimSet) (kind : String) :
    (cs.withoutKind kind).count kind = 0 := by
  rw [count_eq_zero_iff]
  intro x hx
  simpa using (List.mem_filter.1 hx).2

namespace Issuer

variable {issuer : Issuer} {p : Principal} {now : Int64} {micros : Nat} {token : String}
  {c : TokenClaims}

/-! ## Which tokens are issued -/

theorem keepsReserved_iff {reserved : String} :
    keepsReserved reserved p c = true ↔ c.claims.values reserved = [p.authenticationType] := by
  rw [keepsReserved, Bool.and_eq_true, beq_iff_eq, beq_iff_eq, ClaimSet.values_eq_singleton_iff]

/-- What leaves the last hook. -/
theorem shapedClaims_eq_ok_iff :
    issuer.shapedClaims p now = .ok c
      ↔ p.isNameless = false
        ∧ reservedClaimFault? issuer.policy.authenticationTypeClaim = none
        ∧ shape issuer.hooks p (issuer.policy.statedClaims p now) = .ok c := by
  rw [shapedClaims, bind_eq_ok_iff]
  constructor
  · rintro ⟨c₀, hstated, hshape⟩
    obtain ⟨hnamed, hreserved, rfl⟩ := Policy.claimsFor_eq_ok_iff.1 hstated
    exact ⟨hnamed, hreserved, hshape⟩
  · rintro ⟨hnamed, hreserved, hshape⟩
    exact ⟨_, Policy.claimsFor_eq_ok_iff.2 ⟨hnamed, hreserved, rfl⟩, hshape⟩

/-- What is reported about an issuance does not change it. -/
theorem value_issue : (issuer.issue p now micros).value = (issuer.encode p now).value := by
  rw [issue, Traced.value_bind]
  cases (issuer.encode p now).value <;> rfl

/-- **Which tokens are issued**: those of claims that left the last hook with the reserved claim
as it has to be. -/
theorem value_issue_eq_ok_iff :
    (issuer.issue p now micros).value = .ok token
      ↔ ∃ c, issuer.shapedClaims p now = .ok c
        ∧ c.claims.values issuer.policy.authenticationTypeClaim = [p.authenticationType]
        ∧ token = issuer.policy.encode c := by
  rw [value_issue, encode, Traced.value_bind]
  cases issuer.shapedClaims p now with
  | error why => simp
  | ok c =>
    dsimp only
    by_cases hkept : keepsReserved issuer.policy.authenticationTypeClaim p c = true
    · rw [if_pos hkept]
      simp [keepsReserved_iff.1 hkept, eq_comm]
    · rw [if_neg hkept]
      rw [keepsReserved_iff] at hkept
      simp [hkept]

/-- The claims of a principal leave the reserved claim alone. -/
theorem values_statedClaims {policy : Policy}
    (h : reservedClaimFault? policy.authenticationTypeClaim = none) :
    (policy.statedClaims p now).claims.values policy.authenticationTypeClaim
      = [p.authenticationType] := by
  have hnone : p.outgoing.count policy.authenticationTypeClaim = 0 :=
    ClaimSet.count_eq_zero_iff.2 fun x hx => kind_ne_of_mem_outgoing h hx
  rw [ClaimSet.count_eq_length_values, List.length_eq_zero_iff] at hnone
  rw [Policy.statedClaims, ClaimSet.values_append, hnone, List.nil_append, ClaimSet.values]
  simp

/-- A hook that hands back the claims that it gets. -/
def Hook.IsIdle (hook : Hook) : Prop :=
  ∀ p c, hook p c = .ok c

/-- Idle hooks leave the claims as they are. -/
theorem shape_of_idle {hooks : List Hook} (hidle : ∀ hook ∈ hooks, hook.IsIdle) (p : Principal)
    (c : TokenClaims) : shape hooks p c = .ok c := by
  induction hooks with
  | nil => rfl
  | cons hook hooks ih =>
    obtain ⟨hhook, hhooks⟩ := List.forall_mem_cons.1 hidle
    show hook p c >>= shape hooks p = .ok c
    rw [hhook]
    exact ih hhooks

/-- **With idle hooks** an issuer tells when the principal has no name, and issues what its policy
does. -/
theorem encode_of_idle (hidle : ∀ hook ∈ issuer.hooks, hook.IsIdle) (p : Principal)
    (now : Int64) :
    issuer.encode p now = (do
      Traced.eventIf p.isNameless .namelessPrincipal
      return issuer.policy.issue p now) := by
  have hshaped : issuer.shapedClaims p now = issuer.policy.claimsFor p now := by
    rw [shapedClaims]
    cases issuer.policy.claimsFor p now with
    | error why => rfl
    | ok c => exact shape_of_idle hidle p c
  rw [encode, hshaped, Policy.issue]
  refine Traced.bind_congr ?_
  cases hclaims : issuer.policy.claimsFor p now with
  | error why => rfl
  | ok c =>
    -- the claims that a policy states keep the reserved one
    obtain ⟨-, hreserved, rfl⟩ := Policy.claimsFor_eq_ok_iff.1 hclaims
    dsimp only
    rw [if_pos (keepsReserved_iff.2 (values_statedClaims hreserved))]
    rfl

/-- With idle hooks an issuer issues what its policy does. -/
theorem value_issue_of_idle (hidle : ∀ hook ∈ issuer.hooks, hook.IsIdle) (p : Principal)
    (now : Int64) (micros : Nat) :
    (issuer.issue p now micros).value = issuer.policy.issue p now := by
  rw [value_issue, encode_of_idle hidle, Traced.value_bind, Traced.value_pure]

theorem isIdle_of_no_hooks (hook : Hook) (hmem : hook ∈ ([] : List Hook)) : hook.IsIdle :=
  absurd hmem List.not_mem_nil

/-- Without hooks an issuer issues what its policy does. -/
theorem value_issue_of_no_hooks (policy : Policy) (p : Principal) (now : Int64) (micros : Nat) :
    ((Issuer.mk policy []).issue p now micros).value = policy.issue p now :=
  value_issue_of_idle isIdle_of_no_hooks p now micros

/-! ## Runs of hooks -/

/-- **What every hook keeps, all of them together keep.** -/
theorem shape_induction {P : TokenClaims → Prop} {hooks : List Hook} {c c' : TokenClaims}
    (hkeep : ∀ hook ∈ hooks, ∀ c c', P c → hook p c = .ok c' → P c')
    (hc : P c) (hshape : shape hooks p c = .ok c') : P c' := by
  induction hooks generalizing c with
  | nil =>
    obtain rfl := Except.ok.inj hshape
    exact hc
  | cons hook hooks ih =>
    rw [shape, List.foldlM_cons, bind_eq_ok_iff] at hshape
    obtain ⟨c₁, hhook, hrest⟩ := hshape
    have hc₁ : P c₁ := hkeep hook List.mem_cons_self c c₁ hc hhook
    exact ih (fun h hmem => hkeep h (List.mem_cons_of_mem _ hmem)) hc₁ hrest

/-- A hook that gives no claim the name of one of the token's own members. -/
def Hook.IsModest (hook : Hook) : Prop :=
  ∀ p c c', (∀ x ∈ c.claims, x.kind ∉ TokenClaims.ownNames) → hook p c = .ok c' →
    ∀ x ∈ c'.claims, x.kind ∉ TokenClaims.ownNames

/-- **Modest hooks leave tokens authentic**: like those that no hook has shaped, they can only be
too large. -/
theorem authenticates_of_isModest (hmodest : ∀ hook ∈ issuer.hooks, hook.IsModest)
    (hissue : (issuer.issue p now micros).value = .ok token)
    (hsize : (Utf8.ofString token).length ≤ maxTokenBytes) :
    ∃ c, issuer.shapedClaims p now = .ok c
      ∧ issuer.policy.Authenticates token (issuer.policy.segments c) c.regroup := by
  obtain ⟨c, hshaped, -, rfl⟩ := value_issue_eq_ok_iff.1 hissue
  obtain ⟨-, hfault, hshape⟩ := shapedClaims_eq_ok_iff.1 hshaped
  have hstated : ∀ x ∈ (issuer.policy.statedClaims p now).claims,
      x.kind ∉ TokenClaims.ownNames :=
    fun x hx => Policy.kind_of_mem_statedClaims hfault hx
  have hnames : ∀ x ∈ c.claims, x.kind ∉ TokenClaims.ownNames :=
    shape_induction (fun hook hmem => hmodest hook hmem p) hstated hshape
  exact ⟨c, hshaped, Policy.authenticates_encode hnames hsize⟩

/-! ## The authentication type -/

/-- **No hook changes the authentication type that comes out of the bridge.**  Whatever the hooks
do to the claims, an identity that the bridge makes of an issued token has the authentication
type of the principal; the reserved claim is not among the claims that a handler sees, and among
all claims of the token it is there once. -/
theorem authenticationType_of_issue {t : Int64} {i : Identity}
    (hissue : (issuer.issue p now micros).value = .ok token)
    (hidentify : issuer.policy.identify token t = .ok i) :
    i.authenticationType = p.authenticationType
      ∧ i.claims.count issuer.policy.authenticationTypeClaim = 0
      ∧ i.tokenClaims.values issuer.policy.authenticationTypeClaim = [p.authenticationType] := by
  obtain ⟨c, hshaped, hvalues, rfl⟩ := value_issue_eq_ok_iff.1 hissue
  obtain ⟨hnamed, hfault, -⟩ := shapedClaims_eq_ok_iff.1 hshaped
  -- the reserved claim has the name of no own member, so reading leaves it alone
  have hown : issuer.policy.authenticationTypeClaim ∉ TokenClaims.ownNames :=
    notMem_ownNames_of_reserved hfault
  have hread : c.absorbed.claims.values issuer.policy.authenticationTypeClaim
      = [p.authenticationType] :=
    (TokenClaims.values_absorbed hown).trans hvalues
  rw [Policy.identify_encode] at hidentify
  split at hidentify
  · obtain ⟨type, htype, rfl⟩ :=
      Identity.eq_of_ofTokenClaims (Policy.ofTokenClaims_of_accept hidentify)
    rw [Identity.authenticationType?, ClaimSet.first?_eq_head?_values, hread, List.head?_cons,
      Option.some_or, Option.filter_eq_some_iff] at htype
    obtain rfl := Option.some.inj htype.1
    exact ⟨rfl, ClaimSet.count_withoutKind _ _, (TokenClaims.values_allClaims hown).trans hread⟩
  · exact absurd hidentify (by simp)

/-- A hook that adds a claim. -/
def push (x : Claim) : Hook :=
  fun _ c => .ok { c with claims := c.claims ++ [x] }

/-- A hook that states another subject, turns the claims around and puts the reserved claim back
in front of them. -/
def reshuffle (reserved : String) : Hook :=
  fun p c => .ok { c with
    subject := "mallory"
    claims := ⟨reserved, p.authenticationType⟩ :: (c.claims.withoutKind reserved).reverse }

/-- An issuer whose policy names no issuer and whose hooks claim one. -/
def usurper : Issuer where
  policy := { Fixture.policy with issuer := none, audience := none }
  hooks := [push ⟨"iss", "mallory"⟩, reshuffle Kind.authenticationType]

/-- What the hooks of the usurper make of the claims of a principal. -/
def usurped : TokenClaims where
  issuer := none
  audience := none
  subject := "mallory"
  notBefore := 1000
  issuedAt := 1000
  expiry := 1900
  claims := [⟨Kind.authenticationType, "Negotiate"⟩, ⟨"iss", "mallory"⟩, ⟨Kind.name, "alice"⟩]

theorem shapedClaims_usurper :
    usurper.shapedClaims (Fixture.principal "BRIDGE\\alice") 1000 = .ok usurped :=
  shapedClaims_eq_ok_iff.2 ⟨by decide, by decide, by decide⟩

theorem issue_usurper :
    (usurper.issue (Fixture.principal "BRIDGE\\alice") 1000 0).value
      = .ok (usurper.policy.encode usurped) :=
  value_issue_eq_ok_iff.2 ⟨usurped, shapedClaims_usurper, by decide, rfl⟩

theorem length_encode_usurped :
    (Utf8.ofString (usurper.policy.encode usurped)).length = 235 := by
  have hpayload : (Utf8.encode usurped.chars).length = 115 := by decide +kernel
  have hframe : usurper.policy.frameBytes = 81 := rfl
  rw [Policy.length_encode, hpayload, hframe]

/-- Hooks that drop the reserved claim, put it back elsewhere and claim another issuer and another
subject. -/
theorem authenticationType_of_issue_usurper :
    ∃ token i, (usurper.issue (Fixture.principal "BRIDGE\\alice") 1000 0).value = .ok token
      ∧ usurper.policy.identify token 1000 = .ok i
      ∧ i.authenticationType = "Negotiate"
      ∧ i.claims.count Kind.authenticationType = 0
      ∧ i.tokenClaims.values Kind.authenticationType = ["Negotiate"] := by
  have hadmits : usurper.policy.Admits usurped.absorbed := by
    refine ⟨⟨?_, ?_⟩, by decide, "Negotiate", by decide, by decide⟩
    · exact fun name h => absurd h (by simp [usurper])
    · exact fun name h => absurd h (by simp [usurper])
  have hsize : (Utf8.ofString (usurper.policy.encode usurped)).length ≤ maxTokenBytes := by
    rw [length_encode_usurped]
    decide
  obtain ⟨i, hi⟩ : ∃ i, usurper.policy.identify (usurper.policy.encode usurped) 1000 = .ok i := by
    rw [Policy.identify_encode, if_pos ⟨hsize, by decide⟩, Policy.exists_accept_iff]
    exact ⟨hadmits, by decide, by decide⟩
  exact ⟨_, i, issue_usurper, hi, authenticationType_of_issue issue_usurper hi⟩

/-! ## The payload -/

/-- **Which issued tokens have a payload that reads back, and as what.**  The payload is that of
the claims that left the last hook.  It reads back when no name of an own member has two values;
a claim that stands alone for an absent member is read as that member.  So the claims come back
with their claim set regrouped and nothing else changed just when no claim has the name of an own
member. -/
theorem payload_of_issue (hissue : (issuer.issue p now micros).value = .ok token) :
    ∃ c, issuer.shapedClaims p now = .ok c
      ∧ (issuer.policy.segments c).WellFormed ∧ token = (issuer.policy.segments c).text
      ∧ (∀ c', (segmentBytes? (issuer.policy.segments c).payload).bind TokenClaims.read? = some c'
        ↔ c.Unambiguous ∧ c' = c.absorbed)
      ∧ ((segmentBytes? (issuer.policy.segments c).payload).bind TokenClaims.read?
          = some c.regroup
        ↔ ∀ x ∈ c.claims, x.kind ∉ TokenClaims.ownNames)
      ∧ (¬ c.Unambiguous → ∀ t, issuer.policy.identify token t = .error .malformed) := by
  obtain ⟨c, hshaped, -, rfl⟩ := value_issue_eq_ok_iff.1 hissue
  refine ⟨c, hshaped, Policy.wellFormed_segments, Policy.encode_eq_text, fun c' => ?_, ?_,
    fun hclash t => ?_⟩
  · rw [Policy.read?_payload_segments, TokenClaims.read?_chars_iff]
  · rw [Policy.read?_payload_segments, TokenClaims.read?_chars_regroup_iff]
  · rw [Policy.identify_encode, if_neg fun h => hclash h.2]

/-- A claim of another issuer that is read as the issuer of the token. -/
theorem payload_of_issue_usurper :
    ∃ token, ∃ s : Segments,
      (usurper.issue (Fixture.principal "BRIDGE\\alice") 1000 0).value = .ok token
      ∧ s.WellFormed ∧ token = s.text
      ∧ (segmentBytes? s.payload).bind TokenClaims.read?
        = some { usurped with
            issuer := some "mallory"
            claims := [⟨Kind.authenticationType, "Negotiate"⟩, ⟨Kind.name, "alice"⟩] } := by
  obtain ⟨c, hshaped, hform, htext, hread, -, -⟩ := payload_of_issue issue_usurper
  obtain rfl : usurped = c := Except.ok.inj (shapedClaims_usurper.symm.trans hshaped)
  exact ⟨_, _, issue_usurper, hform, htext, (hread _).2 ⟨by decide, by decide⟩⟩

/-- An issuer whose hook claims another subject, under a policy that does not sign. -/
def impostor : Issuer where
  policy := Policy.usual
  hooks := [push ⟨"sub", "mallory"⟩]

/-- What the hook of the impostor makes of the claims of a principal. -/
def disputed : TokenClaims where
  issuer := some "AD AUTHORITY"
  audience := none
  subject := "alice@BRIDGE"
  notBefore := 1000
  issuedAt := 1000
  expiry := 1900
  claims := [⟨Kind.name, "alice"⟩, ⟨Kind.authenticationType, "Negotiate"⟩, ⟨"sub", "mallory"⟩]

/-- A token of two subjects is issued, and its own issuer cannot read it. -/
theorem payload_of_impostor :
    ∃ token, ∃ s : Segments,
      (impostor.issue (Fixture.principal "BRIDGE\\alice") 1000 0).value = .ok token
      ∧ s.WellFormed ∧ token = s.text
      ∧ (segmentBytes? s.payload).bind TokenClaims.read? = none
      ∧ ∀ t, impostor.policy.identify token t = .error .malformed := by
  have hissue : (impostor.issue (Fixture.principal "BRIDGE\\alice") 1000 0).value
      = .ok (impostor.policy.encode disputed) :=
    value_issue_eq_ok_iff.2 ⟨disputed, shapedClaims_eq_ok_iff.2
      ⟨by decide, by decide, by decide⟩, by decide, rfl⟩
  have hclash : ¬ disputed.Unambiguous := by decide
  refine ⟨_, _, hissue, Policy.wellFormed_segments, Policy.encode_eq_text, ?_, fun t => ?_⟩
  · rw [Policy.read?_payload_segments, TokenClaims.read?_chars_of_ambiguous hclash]
  · rw [Policy.identify_encode, if_neg fun h => hclash h.2]

end Issuer

end BearerBridge
