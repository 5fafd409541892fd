/-
# Issuance that no hook shapes

An issuer checks the reserved claim when its hooks are done.  If they hand back what they get,
that check finds nothing: the claims of the principal that travel are names and groups, the
reserved claim may have neither of these names, and it is added once.  So such an issuer does what
its policy does, and two questions decide the outcome.  Has the principal a name and an
authentication type?  And has the reserved claim a name that it may have?

* `Kind.IsTaken` : the names that the reserved claim may not have;
* `issue_eq_internal_iff`, `issue_eq_configuration_iff`, `exists_issue_iff` : which outcome there
  is for whom;
* `Issuer.notMem_events_of_idle` : the check of the reserved claim finds nothing;
* `Issuer.issue_as_policy` : an issuer with idle hooks beside its policy.
-/
import BearerBridge.Proofs.Reports

namespace BearerBridge

/-! ## The two questions -/

/-- Who lacks what every token states: whose name is blank, or whose authentication type is
empty. -/
theorem Principal.isNameless_iff {p : Principal} :
    p.isNameless = true ↔ trim p.name = "" ∨ p.authenticationType = "" := by
  rw [isNameless, Bool.or_eq_true, isBlank_iff, beq_iff_eq]

/-- The names that the reserved claim may not have: blank ones, those of the token's own claims and
those of the claims that travel. -/
def Kind.IsTaken (name : String) : Prop :=
  trim name = "" ∨ name ∈ registered ∨ name ∈ bridged

theorem reservedClaimFault?_eq_none_iff_not_isTaken {name : String} :
    reservedClaimFault? name = none ↔ ¬ Kind.IsTaken name := by
  rw [reservedClaimFault?_eq_none_iff, Kind.IsTaken, ← isBlank_iff, Kind.isRegistered,
    Kind.isBridged]
  simp [not_or]

/-- The reason why a name cannot be that of the reserved claim is there when it is taken. -/
theorem exists_reservedClaimFault?_iff {name : String} :
    (∃ reason, reservedClaimFault? name = some reason) ↔ Kind.IsTaken name := by
  rw [← Option.isSome_iff_exists, Option.isSome_iff_ne_none, Ne,
    reservedClaimFault?_eq_none_iff_not_isTaken, not_not]

/-! ## The three outcomes -/

namespace Policy

variable {policy : Policy} {p : Principal} {now : Int64}

/-- **Who is refused as a fault of the handshake**: whoever has no name or no authentication
type. -/
theorem issue_eq_internal_iff :
    policy.issue p now = .error .internal ↔ p.isNameless = true := by
  rw [issue, claimsFor]
  cases p.isNameless with
  | true => simp [Except.map]
  | false => cases reservedClaimFault? policy.authenticationTypeClaim <;> simp [Except.map]

/-- **Who is refused as a fault of the settings**: everybody else, when the reserved claim cannot
have its name, and the reason is told. -/
theorem issue_eq_configuration_iff {text : String} :
    policy.issue p now = .error (.configuration text)
      ↔ p.isNameless = false
        ∧ ∃ reason, reservedClaimFault? policy.authenticationTypeClaim = some reason
          ∧ text = "authentication type claim " ++ reason := by
  rw [issue, claimsFor]
  cases p.isNameless with
  | true => simp [Except.map]
  | false =>
    cases reservedClaimFault? policy.authenticationTypeClaim <;> simp [Except.map, eq_comm]

/-- **Who is issued a token**: everybody else, when it can. -/
theorem exists_issue_iff :
    (∃ token, policy.issue p now = .ok token)
      ↔ p.isNameless = false ∧ reservedClaimFault? policy.authenticationTypeClaim = none := by
  constructor
  · rintro ⟨token, hissue⟩
    obtain ⟨hnamed, hfree, -⟩ := issue_eq_ok_iff.1 hissue
    exact ⟨hnamed, hfree⟩
  · rintro ⟨hnamed, hfree⟩
    exact ⟨_, issue_eq_ok_iff.2 ⟨hnamed, hfree, rfl⟩⟩

end Policy

/-! ## Issuers with idle hooks -/

namespace Issuer

variable {issuer : Issuer} {p : Principal} {now : Int64} {micros : Nat}

/-- **With idle hooks the check of the reserved claim finds nothing**, whatever claims the principal
has. -/
theorem notMem_events_of_idle (hidle : ∀ hook ∈ issuer.hooks, hook.IsIdle) :
    .alteredReservedClaim ∉ (issuer.issue p now micros).events := by
  rw [events_issue_of_idle hidle, List.mem_append, List.mem_singleton, not_or]
  constructor
  · cases p.isNameless <;> simp
  · intro haccount
    cases hissue : issuer.policy.issue p now with
    | ok token =>
      rw [hissue, account] at haccount
      exact absurd haccount (by simp)
    | error why =>
      rw [hissue, account] at haccount
      exact absurd haccount (by simp)

/-- **An issuer whose hooks hand back what they get does what its policy does**, and the outcome is
decided by the principal first and then by the name of the reserved claim.  The check of the
reserved claim finds nothing, whatever claims the principal has. -/
theorem issue_as_policy (hidle : ∀ hook ∈ issuer.hooks, hook.IsIdle) (p : Principal) (now : Int64)
    (micros : Nat) :
    (issuer.issue p now micros).value = issuer.policy.issue p now
      ∧ (issuer.policy.issue p now = .error .internal
        ↔ trim p.name = "" ∨ p.authenticationType = "")
      ∧ ((∃ reason, issuer.policy.issue p now = .error (.configuration reason))
        ↔ ¬ (trim p.name = "" ∨ p.authenticationType = "")
          ∧ Kind.IsTaken issuer.policy.authenticationTypeClaim)
      ∧ ((∃ token, issuer.policy.issue p now = .ok token)
        ↔ ¬ (trim p.name = "" ∨ p.authenticationType = "")
          ∧ ¬ Kind.IsTaken issuer.policy.authenticationTypeClaim)
      ∧ .alteredReservedClaim ∉ (issuer.issue p now micros).events := by
  have hnamed : p.isNameless = false ↔ ¬ (trim p.name = "" ∨ p.authenticationType = "") := by
    rw [← Principal.isNameless_iff, Bool.not_eq_true]
  refine ⟨value_issue_of_idle hidle p now micros, ?_, ?_, ?_, notMem_events_of_idle hidle⟩
  · rw [Policy.issue_eq_internal_iff, Principal.isNameless_iff]
  · rw [← hnamed, ← exists_reservedClaimFault?_iff]
    constructor
    · rintro ⟨text, hissue⟩
      obtain ⟨hname, reason, hfault, -⟩ := Policy.issue_eq_configuration_iff.1 hissue
      exact ⟨hname, reason, hfault⟩
    · rintro ⟨hname, reason, hfault⟩
      exact ⟨_, Policy.issue_eq_configuration_iff.2 ⟨hname, reason, hfault, rfl⟩⟩
  · rw [Policy.exists_issue_iff, hnamed, reservedClaimFault?_eq_none_iff_not_isTaken]

/-- An issuer whose hook does nothing, with a reserved claim of another name. -/
def bystander : Issuer where
  policy := { Policy.usual with authenticationTypeClaim := "role" }
  hooks := [fun _ c => .ok c]

/-- A principal that has claims of the reserved kind itself is issued a token. -/
theorem issue_as_policy_bystander :
    (∃ token, (bystander.issue
        ⟨"alice", "Negotiate", [⟨"role", "admin"⟩, ⟨Kind.name, "alice"⟩, ⟨"role", "owner"⟩]⟩
        1000 0).value = .ok token)
      ∧ .alteredReservedClaim ∉ (bystander.issue
        ⟨"alice", "Negotiate", [⟨"role", "admin"⟩, ⟨Kind.name, "alice"⟩, ⟨"role", "owner"⟩]⟩
        1000 0).events := by
  have hidle : ∀ hook ∈ bystander.hooks, hook.IsIdle := by
    intro hook hmem p c
    rw [List.mem_singleton.1 hmem]
  obtain ⟨hvalue, -, -, htoken, hunaltered⟩ := issue_as_policy hidle
    ⟨"alice", "Negotiate", [⟨"role", "admin"⟩, ⟨Kind.name, "alice"⟩, ⟨"role", "owner"⟩]⟩ 1000 0
  rw [hvalue]
  exact ⟨htoken.2 ⟨by decide, by unfold Kind.IsTaken; decide⟩, hunaltered⟩

end Issuer

end BearerBridge
