/-
# What is reported about tokens

Whoever issues or validates a token reports at most one fault on the way, and then how it went: to
the counters with one measurement, and to the log with one event.  What an event tells is decided
by the outcome, so callers need not look into the steps.

* `Traced.OnlyLogs` : the steps that neither count nor ask anybody;
* `Issuer.events_issue`, `Issuer.measurements_issue` : what is reported about an issuance;
* `Issuer.events_issue_of_value` : the one event about a token that is issued;
* `Policy.events_check` : what is reported about the algorithm of a token;
* `Validator.events_validate`, `Validator.measurements_validate` : what is reported about a
  validation;
* `events_admitHandshake` : what is reported about whom the handshake lets in.
-/
import BearerBridge.Guard
import BearerBridge.Proofs.Shaping

namespace BearerBridge

/-! ## Steps that only log -/

namespace Traced

variable {α β : Type} {t : Traced α}

/-- Nothing but events is reported. -/
def OnlyLogs (t : Traced α) : Prop :=
  ∀ report ∈ t.reports, ∃ e, report = .event e

@[simp] theorem onlyLogs_pure (a : α) : (pure a : Traced α).OnlyLogs :=
  fun _ hr => absurd hr List.not_mem_nil

@[simp] theorem onlyLogs_event (e : Event) : (event e).OnlyLogs :=
  fun _ hr => ⟨e, List.mem_singleton.1 hr⟩

@[simp] theorem onlyLogs_eventIf (b : Bool) (e : Event) : (eventIf b e).OnlyLogs := by
  cases b with
  | false => exact onlyLogs_pure ()
  | true => exact onlyLogs_event e

@[simp] theorem onlyLogs_bind {f : α → Traced β} :
    (t >>= f).OnlyLogs ↔ t.OnlyLogs ∧ (f t.value).OnlyLogs := by
  rw [OnlyLogs, reports_bind, List.forall_mem_append, OnlyLogs, OnlyLogs]

@[simp] theorem onlyLogs_map {f : α → β} : (f <$> t).OnlyLogs ↔ t.OnlyLogs := by
  rw [OnlyLogs, reports_map, OnlyLogs]

theorem OnlyLogs.measurements (h : t.OnlyLogs) : t.measurements = [] := by
  rw [Traced.measurements, List.filterMap_eq_nil_iff]
  intro report hreport
  obtain ⟨e, rfl⟩ := h report hreport
  rfl

theorem OnlyLogs.consultations (h : t.OnlyLogs) (c : Consultation) : t.consultations c = 0 := by
  rw [Traced.consultations, List.countP_eq_zero]
  intro report hreport
  obtain ⟨e, rfl⟩ := h report hreport
  simp

end Traced

theorem Issuer.onlyLogs_encode (issuer : Issuer) (p : Principal) (now : Int64) :
    (issuer.encode p now).OnlyLogs := by
  rw [encode, Traced.onlyLogs_bind]
  refine ⟨Traced.onlyLogs_eventIf _ _, ?_⟩
  split
  · simp
  · split <;> simp

theorem Policy.onlyLogs_check (policy : Policy) (token : String) (now : Int64) :
    (policy.check token now).OnlyLogs := by
  have hauthenticate : ∀ header, (policy.authenticate token header).OnlyLogs := by
    intro header
    rw [authenticate]
    split <;> split <;> simp
  rw [check]
  split
  · simp
  · simp [hauthenticate]

theorem onlyLogs_bearerToken (hs : Http.Headers) : (bearerToken hs).OnlyLogs := by
  rw [bearerToken]
  split
  · simp
  · split
    · simp
    · dsimp only
      split <;> simp

/-- A proxy reports only whom it does not trust. -/
theorem Proxy.onlyLogs_authenticate (proxy : Proxy) (r : Http.Request) :
    (proxy.authenticate r).OnlyLogs := by
  rw [authenticate]
  split
  · simp
  · split <;> simp

/-! ## Issuing -/

namespace Issuer

variable {issuer : Issuer} {policy : Policy} {p : Principal} {now : Int64} {micros : Nat}
  {token : String}

/-- How an issuance went, for the log. -/
def account (policy : Policy) (p : Principal) (now : Int64) : Except Failure String → Event
  | .ok _ => .tokenIssued (correlation p.name) p.authenticationType
      (Instant.after now policy.lifetime) policy.isSigned
  | .error why => .issuanceFailed (correlation p.name) why

/-- How an issuance went, for the counters. -/
def status : Except Failure String → String
  | .ok _ => "success"
  | .error _ => "error"

/-- The last event about an issuance tells how it went. -/
theorem events_issue :
    (issuer.issue p now micros).events
      = (issuer.encode p now).events
        ++ [account issuer.policy p now (issuer.encode p now).value] := by
  rw [issue, Traced.events_bind]
  cases (issuer.encode p now).value <;> rfl

/-- **What is reported about a token that is issued** is one event. -/
theorem events_issue_of_value (hissue : (issuer.issue p now micros).value = .ok token) :
    (issuer.issue p now micros).events
      = [.tokenIssued (correlation p.name) p.authenticationType
          (Instant.after now issuer.policy.lifetime) issuer.policy.isSigned] := by
  obtain ⟨c, hshaped, hvalues, -⟩ := value_issue_eq_ok_iff.1 hissue
  obtain ⟨hnamed, -, -⟩ := shapedClaims_eq_ok_iff.1 hshaped
  have hquiet : (issuer.encode p now).events = [] := by
    rw [encode, hnamed, hshaped]
    dsimp only
    rw [if_pos (keepsReserved_iff.2 hvalues)]
    rfl
  rw [value_issue] at hissue
  rw [events_issue, hquiet, hissue]
  rfl

/-- **Each issuance is counted once.** -/
theorem measurements_issue :
    (issuer.issue p now micros).measurements
      = [.issuance (status (issuer.issue p now micros).value) micros] := by
  rw [value_issue, issue, Traced.measurements_bind, (issuer.onlyLogs_encode p now).measurements]
  cases (issuer.encode p now).value <;> rfl

/-- **What is reported about an issuance with idle hooks.** -/
theorem events_issue_of_idle (hidle : ∀ hook ∈ issuer.hooks, hook.IsIdle) :
    (issuer.issue p now micros).events
      = (if p.isNameless then [.namelessPrincipal] else [])
        ++ [account issuer.policy p now (issuer.policy.issue p now)] := by
  rw [events_issue, encode_of_idle hidle]
  simp only [Traced.events_bind, Traced.events_eventIf, Traced.events_pure, Traced.value_bind,
    Traced.value_pure, List.append_nil]

/-- What is reported about an issuance without hooks. -/
theorem events_issue_of_no_hooks :
    ((Issuer.mk policy []).issue p now micros).events
      = (if p.isNameless then [.namelessPrincipal] else [])
        ++ [account policy p now (policy.issue p now)] :=
  events_issue_of_idle isIdle_of_no_hooks

end Issuer

/-! ## Validating -/

namespace Policy

variable {policy : Policy} {token : String} {now : Int64}

/-- What is reported about a token that names an algorithm: nothing when it is the policy's. -/
def objections (policy : Policy) (named : String) : List Event :=
  match policy.signing? with
  | some (_, expected) =>
    if Ascii.sameWord named Header.unsecured || named != expected.name then
      [.otherAlgorithm named expected]
    else []
  | none => if Ascii.sameWord named Header.unsecured then [] else [.unexpectedSignature named]

theorem events_authenticate (header : Header) :
    (policy.authenticate token header).events = policy.objections header.algorithm := by
  rw [authenticate, objections]
  unfold Header.isUnsecured
  cases policy.signing? with
  | none =>
    dsimp only
    cases Ascii.sameWord header.algorithm Header.unsecured <;> rfl
  | some signing =>
    dsimp only
    split <;> rfl

/-- A token that something is reported about has no valid signature. -/
theorem value_authenticate_of_objections {header : Header}
    (h : policy.objections header.algorithm ≠ []) :
    (policy.authenticate token header).value = .error .signatureInvalid := by
  revert h
  rw [objections, authenticate]
  unfold Header.isUnsecured
  cases policy.signing? with
  | none =>
    dsimp only
    intro h
    cases hword : Ascii.sameWord header.algorithm Header.unsecured with
    | true =>
      rw [hword] at h
      exact absurd rfl h
    | false => rfl
  | some signing =>
    obtain ⟨key, expected⟩ := signing
    dsimp only
    intro h
    by_cases hother : (Ascii.sameWord header.algorithm Header.unsecured
        || header.algorithm != expected.name) = true
    · rw [if_pos hother]
      rfl
    · rw [if_neg hother] at h
      exact absurd rfl h

end Policy

/-- The algorithm that the header of a token names. -/
def Token.named? (token : String) : Option String :=
  (Token.header token).toOption.map Header.algorithm

namespace Policy

variable {policy : Policy} {token : String} {now : Int64}

/-- **What is reported about a token on the way** is about the algorithm that its header names. -/
theorem events_check :
    (policy.check token now).events = ((Token.named? token).map policy.objections).getD [] := by
  rw [check, Token.named?]
  cases Token.header token with
  | error why => rfl
  | ok header =>
    dsimp only
    rw [Traced.events_bind, events_authenticate, Traced.events_pure, List.append_nil]
    rfl

/-- Only a token without a valid signature has something reported about it on the way. -/
theorem events_check_of_ne (h : policy.identify token now ≠ .error .signatureInvalid) :
    (policy.check token now).events = [] := by
  rw [identify, check] at h
  rw [check]
  cases hheader : Token.header token with
  | error why => rfl
  | ok header =>
    rw [hheader] at h
    dsimp only at h ⊢
    rw [Traced.events_bind, events_authenticate, Traced.events_pure, List.append_nil]
    refine Decidable.byContradiction fun hobjections => h ?_
    rw [Traced.value_bind, value_authenticate_of_objections hobjections]
    rfl

end Policy

namespace Validator

variable {v : Validator} {token : String} {now : Int64}

/-- How a validation went, for the log. -/
def account : Except Rejection Identity → Event
  | .ok i => .tokenValidated (correlation i.canonicalName) i.authenticationType
  | .error why => .tokenRejected why

/-- How a validation went, for the counters. -/
def measurement : Except Rejection Identity → Measurement
  | .ok _ => .validation "success" none
  | .error why => .validation "error" (some why.label)

/-- The last event about a validation tells how it went; what hooks do afterwards is not
reported. -/
theorem events_validate :
    (v.validate token now).events
      = (v.policy.check token now).events ++ [account (v.policy.identify token now)] := by
  rw [validate, Traced.events_bind, Policy.identify]
  cases (v.policy.check token now).value <;> simp [account]

/-- **Each validation is counted once**, before the hooks. -/
theorem measurements_validate :
    (v.validate token now).measurements = [measurement (v.policy.identify token now)] := by
  rw [validate, Traced.measurements_bind, (v.policy.onlyLogs_check token now).measurements,
    Policy.identify]
  cases (v.policy.check token now).value <;> simp [measurement]

end Validator

/-! ## Handshakes -/

/-- What is reported about whom the handshake lets in. -/
theorem events_admitHandshake {authenticator : Authenticator} {r : Http.Request} {p : Principal}
    (h : (admitHandshake authenticator r).value = .ok p) :
    (admitHandshake authenticator r).events
      = (authenticator r).events
        ++ [.handshakeAccepted (correlation p.name) p.authenticationType] := by
  rw [admitHandshake] at h ⊢
  simp only [Traced.value_bind] at h
  simp only [Traced.events_bind, Traced.events_consult, List.nil_append]
  rcases hverified : (authenticator r).value with f | _ | q
  · rw [hverified] at h
    exact absurd h (by simp)
  · rw [hverified] at h
    exact absurd h (by simp)
  · rw [hverified] at h
    obtain rfl : q = p := Except.ok.inj h
    rfl

end BearerBridge
