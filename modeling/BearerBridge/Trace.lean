/-
# What the bridge reports

While it answers, the bridge reports events to the operator's log, measurements to its counters,
and whether it consulted the authenticator or the validator.  A computation carries its reports
along in order, so that what is reported can be reasoned about like what is answered.

* `Event` : the events, by cause; wording and fields are functions of it;
* `Traced` : a value with the reports made on the way to it.
-/
import BearerBridge.Failure
import BearerBridge.Net.Ip
import BearerBridge.Policy

namespace BearerBridge

/-! ## Events -/

/-- How urgent an event is. -/
inductive Level where
  | debug
  | info
  | warn
  | error
  deriving DecidableEq, Repr

/-- The name of a level. -/
def Level.name : Level → String
  | debug => "DEBUG"
  | info => "INFO"
  | warn => "WARN"
  | error => "ERROR"

/-- The events that the operator can see. -/
inductive Event where
  /-- An issuer is set up without a key. -/
  | unsignedIssuer
  /-- The handshake gave a principal without a name or an authentication type. -/
  | namelessPrincipal
  /-- A hook changed the reserved claim. -/
  | alteredReservedClaim
  | tokenIssued (principal authenticationType : String) (expiresAt : Int64) (signed : Bool)
  | issuanceFailed (principal : String) (why : Failure)
  | tokenValidated (principal authenticationType : String)
  | tokenRejected (why : Rejection)
  /-- A token names an algorithm other than the policy's. -/
  | otherAlgorithm (named : String) (expected : SigningAlgorithm)
  /-- A signed token cannot be checked without a key. -/
  | unexpectedSignature (named : String)
  /-- A peer that is not trusted asserts an identity. -/
  | untrustedPeer (peer : Option Address)
  | endpointRegistered (path : String)
  | authorizationMissing
  | authorizationUnreadable
  | authorizationNotBearer
  | handshakeAccepted (principal authenticationType : String)
  | handshakeRequired
  | handshakeFailed (why : Failure)
  deriving DecidableEq, Repr

namespace Event

/-- How urgent an event is. -/
def level : Event → Level
  | unsignedIssuer => .warn
  | namelessPrincipal => .error
  | alteredReservedClaim => .error
  | tokenIssued .. => .info
  | issuanceFailed .. => .error
  | untrustedPeer _ => .warn
  | handshakeFailed _ => .error
  | _ => .debug

/-- The part of the bridge that reports an event. -/
def target : Event → String
  | unsignedIssuer => "bridge.token.issuer"
  | namelessPrincipal => "bridge.token.issuer"
  | alteredReservedClaim => "bridge.token.issuer"
  | tokenIssued .. => "bridge.token.issuer"
  | issuanceFailed .. => "bridge.token.issuer"
  | tokenValidated .. => "bridge.token.validator"
  | tokenRejected _ => "bridge.token.validator"
  | otherAlgorithm .. => "bridge.token.validator"
  | unexpectedSignature _ => "bridge.token.validator"
  | untrustedPeer _ => "bridge.handshake"
  | endpointRegistered _ => "bridge.routes"
  | authorizationMissing => "bridge.middleware.auth"
  | authorizationUnreadable => "bridge.middleware.auth"
  | authorizationNotBearer => "bridge.middleware.auth"
  | handshakeAccepted .. => "bridge.middleware.handshake"
  | handshakeRequired => "bridge.middleware.handshake"
  | handshakeFailed _ => "bridge.middleware.handshake"

/-- The wording of an event. -/
def message : Event → String
  | unsignedIssuer =>
    "No signing key configured: issued tokens are unsigned and carry no integrity protection"
  | namelessPrincipal => "Handshake produced a principal without a name or authentication type"
  | alteredReservedClaim => "Token hook altered the reserved authentication type claim"
  | tokenIssued .. => "Token issued"
  | issuanceFailed .. => "Token issuance failed"
  | tokenValidated .. => "Token validated"
  | tokenRejected _ => "Token rejected"
  | otherAlgorithm .. => "Token algorithm does not match policy"
  | unexpectedSignature _ => "Signed token presented but no key is configured"
  | untrustedPeer _ => "Ignoring handshake identity asserted by an untrusted peer"
  | endpointRegistered _ => "Registering token endpoint"
  | authorizationMissing => "Missing Authorization header"
  | authorizationUnreadable => "Invalid Authorization header format"
  | authorizationNotBearer => "Authorization header is not a bearer token"
  | handshakeAccepted .. => "Handshake identity accepted"
  | handshakeRequired => "Handshake required"
  | handshakeFailed _ => "Handshake authenticator failed"

/-- The fields of an event, by name. -/
def fields : Event → List (String × String)
  | tokenIssued principal type expiresAt signed =>
    [("principal", principal), ("authentication_type", type),
      ("expires_at", toString expiresAt.toInt), ("signed", if signed then "true" else "false")]
  | issuanceFailed principal why => [("principal", principal), ("error", why.message)]
  | tokenValidated principal type => [("principal", principal), ("authentication_type", type)]
  | tokenRejected why => [("error_category", why.label)]
  | otherAlgorithm named expected => [("alg", named), ("expected", expected.name)]
  | unexpectedSignature named => [("alg", named)]
  | untrustedPeer peer => [("peer", described Address.text peer)]
  | endpointRegistered path => [("path", path)]
  | handshakeAccepted principal type => [("principal", principal), ("authentication_type", type)]
  | handshakeFailed why => [("error", why.message)]
  | _ => []

end Event

/-! ## Measurements and consultations -/

/-- What the counters are told. -/
inductive Measurement where
  | handshake (status : String)
  /-- An issuance and how long it took, in microseconds. -/
  | issuance (status : String) (micros : Nat)
  /-- A validation and the label of its rejection, if it was rejected. -/
  | validation (status : String) (category : Option String)
  deriving DecidableEq, Repr

/-- Whom the bridge asks about a request. -/
inductive Consultation where
  | authenticator
  | validator
  deriving DecidableEq, Repr

/-- One thing reported. -/
inductive Report where
  | event (e : Event)
  | measurement (m : Measurement)
  | consultation (c : Consultation)
  deriving DecidableEq, Repr

/-! ## Values with reports -/

/-- A value with the reports made on the way to it. -/
structure Traced (α : Type) where
  value : α
  reports : List Report
  deriving Repr

namespace Traced

variable {α β : Type}

instance : Monad Traced where
  pure a := ⟨a, []⟩
  bind t f := ⟨(f t.value).value, t.reports ++ (f t.value).reports⟩

instance : LawfulMonad Traced := LawfulMonad.mk' Traced
  (fun _ => by simp [Functor.map])
  (fun _ _ => rfl)
  (fun _ _ _ => by simp [bind])

/-- Reports one thing. -/
def report (r : Report) : Traced Unit := ⟨(), [r]⟩

/-- Reports an event. -/
def event (e : Event) : Traced Unit := report (.event e)

/-- Reports an event under a condition. -/
def eventIf (b : Bool) (e : Event) : Traced Unit := if b then event e else pure ()

/-- Reports a measurement. -/
def measure (m : Measurement) : Traced Unit := report (.measurement m)

/-- Reports a consultation. -/
def consult (c : Consultation) : Traced Unit := report (.consultation c)

/-- The events reported, in order. -/
def events (t : Traced α) : List Event :=
  t.reports.filterMap fun | .event e => some e | _ => none

/-- The measurements reported, in order. -/
def measurements (t : Traced α) : List Measurement :=
  t.reports.filterMap fun | .measurement m => some m | _ => none

/-- How often somebody was consulted. -/
def consultations (t : Traced α) (c : Consultation) : Nat :=
  t.reports.countP (· = .consultation c)

@[simp] theorem value_pure (a : α) : (pure a : Traced α).value = a := rfl

@[simp] theorem reports_pure (a : α) : (pure a : Traced α).reports = [] := rfl

@[simp] theorem value_bind (t : Traced α) (f : α → Traced β) :
    (t >>= f).value = (f t.value).value := rfl

@[simp] theorem reports_bind (t : Traced α) (f : α → Traced β) :
    (t >>= f).reports = t.reports ++ (f t.value).reports := rfl

@[simp] theorem reports_eventIf (b : Bool) (e : Event) :
    (eventIf b e).reports = if b then [.event e] else [] := by
  cases b <;> rfl

@[simp] theorem value_map (f : α → β) (t : Traced α) : (f <$> t).value = f t.value := rfl

@[simp] theorem reports_map (f : α → β) (t : Traced α) : (f <$> t).reports = t.reports :=
  List.append_nil _

@[simp] theorem events_bind (t : Traced α) (f : α → Traced β) :
    (t >>= f).events = t.events ++ (f t.value).events := by
  simp [events]

@[simp] theorem measurements_bind (t : Traced α) (f : α → Traced β) :
    (t >>= f).measurements = t.measurements ++ (f t.value).measurements := by
  simp [measurements]

@[simp] theorem consultations_bind (t : Traced α) (f : α → Traced β) (c : Consultation) :
    (t >>= f).consultations c = t.consultations c + (f t.value).consultations c := by
  simp [consultations]

/-- What comes after depends on the value only. -/
theorem bind_congr {t : Traced α} {f f' : α → Traced β} (h : f t.value = f' t.value) :
    (t >>= f) = (t >>= f') := by
  show Traced.mk (f t.value).value (t.reports ++ (f t.value).reports) = _
  rw [h]
  rfl

@[simp] theorem events_pure (a : α) : (pure a : Traced α).events = [] := rfl

@[simp] theorem events_event (e : Event) : (event e).events = [e] := rfl

@[simp] theorem events_eventIf (b : Bool) (e : Event) :
    (eventIf b e).events = if b then [e] else [] := by
  cases b <;> rfl

@[simp] theorem events_measure (m : Measurement) : (measure m).events = [] := rfl

@[simp] theorem events_consult (c : Consultation) : (consult c).events = [] := rfl

@[simp] theorem events_map (f : α → β) (t : Traced α) : (f <$> t).events = t.events := by
  simp [events]

@[simp] theorem measurements_pure (a : α) : (pure a : Traced α).measurements = [] := rfl

@[simp] theorem measurements_event (e : Event) : (event e).measurements = [] := rfl

@[simp] theorem measurements_eventIf (b : Bool) (e : Event) :
    (eventIf b e).measurements = [] := by
  cases b <;> rfl

@[simp] theorem measurements_measure (m : Measurement) : (measure m).measurements = [m] := rfl

@[simp] theorem measurements_consult (c : Consultation) : (consult c).measurements = [] := rfl

@[simp] theorem measurements_map (f : α → β) (t : Traced α) :
    (f <$> t).measurements = t.measurements := by
  simp [measurements]

@[simp] theorem consultations_pure (a : α) (c : Consultation) :
    (pure a : Traced α).consultations c = 0 := rfl

@[simp] theorem consultations_event (e : Event) (c : Consultation) :
    (event e).consultations c = 0 := rfl

@[simp] theorem consultations_eventIf (b : Bool) (e : Event) (c : Consultation) :
    (eventIf b e).consultations c = 0 := by
  cases b <;> rfl

@[simp] theorem consultations_measure (m : Measurement) (c : Consultation) :
    (measure m).consultations c = 0 := rfl

@[simp] theorem consultations_consult (c c' : Consultation) :
    (consult c).consultations c' = if c = c' then 1 else 0 := by
  cases c <;> cases c' <;> rfl

@[simp] theorem consultations_map (f : α → β) (t : Traced α) (c : Consultation) :
    (f <$> t).consultations c = t.consultations c := by
  simp [consultations]

end Traced

end BearerBridge
