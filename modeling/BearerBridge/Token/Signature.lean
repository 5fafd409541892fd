/-
# Making and checking tokens

A signed token ends in the base64 text of the authentication code of everything before its last
dot.  An unsecured token ends in an empty segment.  The signature is compared before the payload
is looked at, so bytes that nobody authenticated are never read.

* `sign`, `verify` : tokens under a key;
* `writeUnsecured`, `readUnsecured` : tokens without one.
-/
import BearerBridge.Failure
import BearerBridge.Policy
import BearerBridge.Token.Claims
import BearerBridge.Token.Header

namespace BearerBridge

/-! ## Reading without a key -/

namespace Token

/-- The header of a token, nothing verified. -/
def header (token : String) : Except FormatFault Header := do
  let s ← Segments.split token
  match (segmentBytes? s.header).bind Header.read? with
  | some h => return h
  | none => throw .malformed

/-- The claims of a token, nothing verified. -/
def claims (token : String) : Except FormatFault TokenClaims := do
  let s ← Segments.split token
  match (segmentBytes? s.payload).bind TokenClaims.read? with
  | some c => return c
  | none => throw .malformed

/-- The expiry of a token, nothing verified. -/
def expiry (token : String) : Except FormatFault Int64 := do
  let s ← Segments.split token
  match (segmentBytes? s.payload).bind TokenClaims.readExpiry? with
  | some t => return t
  | none => throw .malformed

/-! ## Unsecured tokens -/

/-- The segments of an unsecured token. -/
def unsecuredSegments (c : TokenClaims) : Segments :=
  ⟨segmentOf Header.unsecuredChars, segmentOf c.chars, ""⟩

/-- An unsecured token with the given claims. -/
def writeUnsecured (c : TokenClaims) : String :=
  (unsecuredSegments c).text

/-- The claims of an unsecured token. -/
def readUnsecured (token : String) : Except FormatFault TokenClaims := do
  let s ← Segments.split token
  match (segmentBytes? s.header).bind Header.read? with
  | none => throw .malformed
  | some h =>
    if !h.isUnsecured || s.signature != "" then throw .malformed
    match (segmentBytes? s.payload).bind TokenClaims.read? with
    | some c => return c
    | none => throw .malformed

/-! ## Signed tokens -/

/-- The signature of a text: the base64 text of its authentication code. -/
def signature (algorithm : SigningAlgorithm) (key : List UInt8) (signed : String) : String :=
  Base64.text Base64.url (Hmac.code algorithm.hash key (Utf8.ofString signed))

/-- The segments of a signed token. -/
def signedSegments (c : TokenClaims) (key : List UInt8) (algorithm : SigningAlgorithm) :
    Segments :=
  let header := segmentOf (JoseHeader.chars algorithm.name)
  let payload := segmentOf c.chars
  ⟨header, payload, signature algorithm key (header ++ "." ++ payload)⟩

/-- A signed token with the given claims. -/
def sign (c : TokenClaims) (key : List UInt8) (algorithm : SigningAlgorithm) : String :=
  (signedSegments c key algorithm).text

/-- The claims of a token whose signature is right. -/
def verify (token : String) (key : List UInt8) (algorithm : SigningAlgorithm) :
    Except Rejection TokenClaims :=
  match Segments.splitLast? token with
  | none => .error .malformed
  | some s =>
    match (segmentBytes? s.header).bind JoseHeader.read? with
    | none => .error .malformed
    | some named =>
      if named ≠ algorithm.name then .error .signatureInvalid
      else if s.signature ≠ signature algorithm key s.signedText then .error .signatureInvalid
      else
        match (segmentBytes? s.payload).bind TokenClaims.read? with
        | some c => .ok c
        | none => .error .malformed

end Token

end BearerBridge
