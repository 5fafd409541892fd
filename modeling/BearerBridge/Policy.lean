/-
# Policies

A policy is what both ends of the bridge agree on: who issues tokens, for whom, for how long,
under which key, and which claim carries the authentication type.

* `Policy.signing?` : tokens are signed only when key and algorithm are both there;
* `Policy.signing?_eq_some_iff`, `Policy.signing?_eq_none_iff` : and whenever they are;
* `reservedClaimFault?` : which names the reserved claim may not have.
-/
import BearerBridge.Claim
import BearerBridge.Crypto.Hmac
import BearerBridge.Secret
import BearerBridge.Text.Blank
import BearerBridge.Text.Quoted
import BearerBridge.Text.Span

namespace BearerBridge

/-! ## Algorithms -/

/-- The algorithms for signing tokens. -/
inductive SigningAlgorithm where
  | hs256
  | hs384
  | hs512
  deriving DecidableEq, Repr

namespace SigningAlgorithm

/-- The name in a token's header. -/
def name : SigningAlgorithm → String
  | hs256 => "HS256"
  | hs384 => "HS384"
  | hs512 => "HS512"

/-- The hash function underneath. -/
def hash : SigningAlgorithm → Sha2.Algorithm
  | hs256 => .sha256
  | hs384 => .sha384
  | hs512 => .sha512

/-- The algorithm of a name, if it has one. -/
def ofName? (s : String) : Option SigningAlgorithm :=
  [hs256, hs384, hs512].find? (·.name == s)

theorem ofName?_name (a : SigningAlgorithm) : ofName? a.name = some a := by
  cases a <;> rfl

/-- The algorithm that a setting names, blanks and case aside; otherwise the reason why it names
none. -/
def parse (s : String) : Except String SigningAlgorithm :=
  let word := Ascii.upper (trim s)
  match ofName? word with
  | some a => .ok a
  | none =>
    .error ("unsupported signing algorithm '" ++ word ++ "' (expected HS256, HS384 or HS512)")

/-- The description of an algorithm. -/
def describe : SigningAlgorithm → String
  | hs256 => "Hs256"
  | hs384 => "Hs384"
  | hs512 => "Hs512"

end SigningAlgorithm

/-! ## Policies -/

/-- The terms of issuing and validating tokens. -/
structure Policy where
  /-- Written into tokens and expected of them, unless absent. -/
  issuer : Option String
  /-- Written into tokens and expected of them, unless absent. -/
  audience : Option String
  signingKey : Option (List UInt8)
  signingAlgorithm : Option SigningAlgorithm
  /-- How many seconds a token is valid. -/
  maxAge : UInt64
  /-- The kind of the reserved claim, which carries the authentication type. -/
  authenticationTypeClaim : String
  /-- Stands in for the authentication type of a token without the reserved claim. -/
  defaultAuthenticationType : Option String
  deriving DecidableEq, Repr

namespace Policy

/-- The usual policy, without a key. -/
def usual : Policy where
  issuer := some "AD AUTHORITY"
  audience := none
  signingKey := none
  signingAlgorithm := none
  maxAge := 900
  authenticationTypeClaim := Kind.authenticationType
  defaultAuthenticationType := none

/-- Key and algorithm, when both are there. -/
def signing? (p : Policy) : Option (List UInt8 × SigningAlgorithm) :=
  match p.signingKey, p.signingAlgorithm with
  | some key, some algorithm => some (key, algorithm)
  | _, _ => none

theorem signing?_eq_some_iff {p : Policy} {key : List UInt8} {a : SigningAlgorithm} :
    p.signing? = some (key, a) ↔ p.signingKey = some key ∧ p.signingAlgorithm = some a := by
  rw [signing?]
  cases p.signingKey <;> cases p.signingAlgorithm <;> simp

theorem signing?_eq_none_iff {p : Policy} :
    p.signing? = none ↔ p.signingKey = none ∨ p.signingAlgorithm = none := by
  rw [signing?]
  cases p.signingKey <;> cases p.signingAlgorithm <;> simp

/-- Whether tokens are signed. -/
def isSigned (p : Policy) : Bool :=
  p.signing?.isSome

/-- The life of a token in seconds, as far as instants can tell it. -/
def lifetime (p : Policy) : Int64 :=
  if p.maxAge.toNat ≤ Int64.maxValue.toInt then Int64.ofNat p.maxAge.toNat else Int64.maxValue

/-- The description of a policy, its key withheld. -/
def describe (p : Policy) : String :=
  describedRecord "IssuancePolicy" [
    ("issuer", described quoted p.issuer), ("audience", described quoted p.audience),
    ("signing_key", described describeKey p.signingKey),
    ("signing_algorithm", described SigningAlgorithm.describe p.signingAlgorithm),
    ("max_age", describeSeconds p.maxAge.toNat),
    ("authentication_type_claim", quoted p.authenticationTypeClaim),
    ("default_authentication_type", described quoted p.defaultAuthenticationType)]

end Policy

/-- An instant some seconds later, or the last instant when that is beyond it. -/
def Instant.after (now seconds : Int64) : Int64 :=
  let t := now.toInt + seconds.toInt
  if t < Int64.minValue.toInt then Int64.minValue
  else if Int64.maxValue.toInt < t then Int64.maxValue
  else Int64.ofInt t

/-! ## The reserved claim -/

/-- Why a name cannot be that of the reserved claim, if there is a reason.  The reserved claim
is taken out of the claims that a handler sees, so it may not share its name with any of
them. -/
def reservedClaimFault? (name : String) : Option String :=
  if isBlank name then some "must not be empty"
  else if Kind.isRegistered name then
    some ("must not be a registered claim name, got '" ++ name ++ "'")
  else if Kind.isBridged name then
    some ("must not be a bridged claim kind, got '" ++ name ++ "'")
  else none

end BearerBridge
