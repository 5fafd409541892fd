/-
# Expectations

What a test expects of a token.  The segments are read as JSON values, whatever they mean, and no
signature is verified.

* `Expectation.check` : the expectation is met, or the first reason why it is not.
-/
import BearerBridge.Json.Value
import BearerBridge.Text.Quoted
import BearerBridge.Token.Compact

namespace BearerBridge

/-! ## Descriptions of values -/

namespace Json

mutual

/-- The description of a value. -/
def Value.describe : Value → String
  | .null => "Null"
  | .boolean b => "Bool(" ++ (if b then "true" else "false") ++ ")"
  | .number n => "Number(" ++ String.ofList n.chars ++ ")"
  | .text s => "String(" ++ quoted s ++ ")"
  | .array items => "Array [" ++ ", ".intercalate (describeItems items) ++ "]"
  | .object members => "Object \x7b" ++ ", ".intercalate (describeMembers members) ++ "\x7d"

/-- The descriptions of the items of an array. -/
def describeItems : List Value → List String
  | [] => []
  | v :: vs => v.describe :: describeItems vs

/-- The descriptions of the members of an object. -/
def describeMembers : List (String × Value) → List String
  | [] => []
  | (name, v) :: ms => (quoted name ++ ": " ++ v.describe) :: describeMembers ms

end

/-- A member of a value; what is no object has none. -/
def Value.member? : Value → String → Option Value
  | .object members, name => (members.find? (·.1 == name)).map (·.2)
  | _, _ => none

/-- A member of a value, null when there is none. -/
def Value.member (v : Value) (name : String) : Value :=
  (v.member? name).getD .null

/-- Whether a value is a given text. -/
def Value.isText (s : String) : Value → Bool
  | .text t => t == s
  | _ => false

/-- The text that a value is, or the empty one. -/
def Value.textD : Value → String
  | .text s => s
  | _ => ""

/-- An integer that 64 bits with sign hold. -/
def Value.int64? : Value → Option Int64
  | .number (.integer n) =>
    if Int64.minValue.toInt ≤ n ∧ n ≤ Int64.maxValue.toInt then some (Int64.ofInt n) else none
  | _ => none

end Json

/-! ## Expectations -/

/-- What a test can expect of a token. -/
inductive Expectation where
  | signed
  | unsecured
  | subject (name : String)
  /-- The life of the token in seconds. -/
  | lifetime (seconds : Int64)
  | claim (kind value : String)
  | noClaim (kind : String)
  deriving DecidableEq, Repr

/-- Why an expectation is not met. -/
inductive Mismatch where
  | segmentCount (n : Nat)
  /-- A segment is not base64. -/
  | undecodable
  /-- A segment is not JSON. -/
  | unreadable
  | unexpectedAlgorithm (named : String)
  | signatureMissing
  | notUnsecured (algorithm : Json.Value)
  | signaturePresent
  | otherSubject (found : Json.Value) (expected : String)
  | expiryMissing
  | issuanceMissing
  | lifetimeOverflow
  | otherLifetime (found expected : Int64)
  /-- A claim is absent or has no text. -/
  | noText (kind : String) (found : Json.Value)
  | valueMissing (kind value : String)
  | unexpectedClaim (kind : String)

/-- The wording for two things that should be the same. -/
def unequal (what left right : String) : String :=
  "assertion \x60left == right\x60 failed: " ++ what ++ "\n  left: " ++ left ++ "\n right: "
    ++ right

/-- The wording of a mismatch. -/
def Mismatch.message : Mismatch → String
  | segmentCount n =>
    unequal ("Token must have 3 parts (header.payload.signature), got " ++ toString n)
      (toString n) "3"
  | undecodable => "Failed to base64 decode token segment"
  | unreadable => "Failed to parse token segment JSON"
  | unexpectedAlgorithm named => "Expected HMAC algorithm, got '" ++ named ++ "'"
  | signatureMissing => "Signed token must have a signature"
  | notUnsecured algorithm => unequal "Expected unsecured token" algorithm.describe (quoted "none")
  | signaturePresent => "Unsecured token must have an empty signature"
  | otherSubject found expected =>
    unequal "Token subject mismatch" found.describe (quoted expected)
  | expiryMissing => "Token must have exp"
  | issuanceMissing => "Token must have iat"
  | lifetimeOverflow => "attempt to subtract with overflow"
  | otherLifetime found expected =>
    unequal "Token lifetime mismatch" (toString found.toInt) (toString expected.toInt)
  | noText kind found =>
    "Token claim '" ++ kind ++ "' missing or not a string: " ++ found.render
  | valueMissing kind value => "Token claim '" ++ kind ++ "' does not contain '" ++ value ++ "'"
  | unexpectedClaim kind => "Token unexpectedly carries claim '" ++ kind ++ "'"

namespace Expectation

/-- The three segments of a token, empty ones too. -/
def segments (token : String) : Except Mismatch Segments :=
  match splitAll '.' token.toList with
  | [h, p, s] => .ok ⟨String.ofList h, String.ofList p, String.ofList s⟩
  | pieces => .error (.segmentCount pieces.length)

/-- The value that a segment spells. -/
def segmentValue (segment : String) : Except Mismatch Json.Value :=
  match segmentBytes? segment with
  | none => .error .undecodable
  | some bytes =>
    match Json.Value.read? bytes with
    | none => .error .unreadable
    | some v => .ok v

/-- The life that a payload states. -/
def lifetimeOf (payload : Json.Value) : Except Mismatch Int64 := do
  let some expiry := (payload.member "exp").int64? | throw .expiryMissing
  let some issuedAt := (payload.member "iat").int64? | throw .issuanceMissing
  let life := expiry.toInt - issuedAt.toInt
  if life < Int64.minValue.toInt ∨ Int64.maxValue.toInt < life then throw .lifetimeOverflow
  return Int64.ofInt life

/-- An expectation of the header and the signature. -/
def checkHeader (s : Segments) (expected : Expectation) : Except Mismatch Unit := do
  let algorithm := (← segmentValue s.header).member "alg"
  match expected with
  | signed =>
    unless "HS".toList.isPrefixOf algorithm.textD.toList do
      throw (.unexpectedAlgorithm algorithm.textD)
    if s.signature = "" then throw .signatureMissing
  | _ =>
    unless algorithm.isText "none" do throw (.notUnsecured algorithm)
    unless s.signature = "" do throw .signaturePresent

/-- An expectation of the payload. -/
def checkPayload (payload : Json.Value) : Expectation → Except Mismatch Unit
  | subject name =>
    let found := payload.member "sub"
    if found.isText name then .ok () else .error (.otherSubject found name)
  | lifetime seconds => do
    let found ← lifetimeOf payload
    unless found = seconds do throw (.otherLifetime found seconds)
  | claim kind value =>
    match payload.member kind with
    | .text s => if s = value then .ok () else .error (.valueMissing kind value)
    | .array items =>
      if items.any (·.isText value) then .ok () else .error (.valueMissing kind value)
    | found => .error (.noText kind found)
  | noClaim kind =>
    if (payload.member? kind).isNone then .ok () else .error (.unexpectedClaim kind)
  | _ => .ok ()

/-- Whether an expectation is about the header and the signature. -/
def isOfHeader : Expectation → Bool
  | signed | unsecured => true
  | _ => false

/-- **The expectation is met**, or the first reason why it is not. -/
def check (expected : Expectation) (token : String) : Except Mismatch Unit := do
  let s ← segments token
  if expected.isOfHeader then checkHeader s expected
  else checkPayload (← segmentValue s.payload) expected

end Expectation

end BearerBridge
