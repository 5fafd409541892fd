/-
# Settings

The bridge is set up by variables.  A blank value counts as absent, except for the issuer (where
it switches the check off) and the trusted proxies (where it means none).  The first fault in a
fixed order is the one reported.

* `Settings.read` : the settings that variables spell, or the first fault;
* `Settings.policy` : the policy for issuing and validating.
-/
import BearerBridge.Handshake
import BearerBridge.Text.Base64
import BearerBridge.Text.Natural

namespace BearerBridge

/-- How the bridge is set up. -/
structure Settings where
  bindAddress : String
  tokenPath : String
  issuer : Option String
  audience : Option String
  signingKey : Option (List UInt8)
  signingAlgorithm : Option SigningAlgorithm
  maxAge : UInt64
  authenticationTypeClaim : String
  defaultAuthenticationType : Option String
  trustedProxies : List Address
  proxyHeaders : AssertionHeaders
  /-- How many seconds open requests are waited for at the end. -/
  drainSeconds : UInt64
  deriving DecidableEq, Repr

namespace Settings

/-! ## Faults -/

/-- Why variables spell no settings. -/
inductive Fault where
  | relativeTokenPath (path : String)
  | unknownAlgorithm (reason : String)
  | keyMissing (algorithm : SigningAlgorithm)
  | keyUnused
  | keyEncoding (fault : Base64.Fault)
  | keyTooShort (bytes : Nat)
  | maxAgeNumber (value : String) (fault : CountFault)
  | maxAgeRange (seconds : UInt64)
  | reservedClaim (reason : String)
  | proxyAddress (entry : String)
  | headerName (why : Failure)
  | drainNumber (value : String) (fault : CountFault)
  deriving DecidableEq, Repr

/-- The least length of a key. -/
def minKeyBytes : Nat := 32

/-- The longest life of a token, one day. -/
def longestMaxAge : Nat := 86400

/-- The wording of a fault. -/
def Fault.message : Fault → String
  | relativeTokenPath path =>
    "Invalid token path: TOKEN_PATH must start with '/', got '" ++ path ++ "'"
  | unknownAlgorithm reason => "Invalid signing configuration: " ++ reason
  | keyMissing algorithm =>
    "Invalid signing configuration: TOKEN_SIGNING_ALGORITHM is " ++ algorithm.name
      ++ " but TOKEN_SIGNING_KEY is not set"
  | keyUnused =>
    "Invalid signing configuration: TOKEN_SIGNING_KEY is set but TOKEN_SIGNING_ALGORITHM is 'none'"
  | keyEncoding fault =>
    "Invalid signing configuration: TOKEN_SIGNING_KEY is not valid base64: " ++ fault.message
  | keyTooShort bytes =>
    "Invalid signing configuration: TOKEN_SIGNING_KEY must decode to at least "
      ++ toString minKeyBytes ++ " bytes, got " ++ toString bytes
  | maxAgeNumber value fault =>
    "Invalid token max age: TOKEN_MAX_AGE_SECONDS must be a valid positive integer, got '"
      ++ value ++ "': " ++ fault.message
  | maxAgeRange seconds =>
    "Invalid token max age: TOKEN_MAX_AGE_SECONDS must be between 1 and "
      ++ toString longestMaxAge ++ ", got " ++ toString seconds.toNat
  | reservedClaim reason =>
    "Invalid authentication type claim: TOKEN_AUTH_TYPE_CLAIM " ++ reason
  | proxyAddress entry =>
    "Invalid handshake configuration: HANDSHAKE_TRUSTED_PROXIES entry '" ++ entry
      ++ "' is not an IP address: invalid IP address syntax"
  | headerName why => "Invalid handshake configuration: " ++ why.message
  | drainNumber value fault =>
    "Invalid drain period: BRIDGE_DRAIN_SECONDS must be a valid non-negative integer, got '"
      ++ value ++ "': " ++ fault.message

/-! ## Variables -/

/-- Variables by name; the last value of a name counts. -/
abbrev Variables := List (String × String)

/-- The names of the variables that are looked at. -/
def variableNames : List String :=
  ["BIND_ADDRESS", "TOKEN_PATH", "TOKEN_ISSUER", "TOKEN_AUDIENCE", "TOKEN_SIGNING_KEY",
    "TOKEN_SIGNING_ALGORITHM", "TOKEN_MAX_AGE_SECONDS", "TOKEN_AUTH_TYPE_CLAIM",
    "TOKEN_DEFAULT_AUTH_TYPE", "HANDSHAKE_TRUSTED_PROXIES", "HANDSHAKE_USER_HEADER",
    "HANDSHAKE_AUTH_TYPE_HEADER", "HANDSHAKE_GROUPS_HEADER", "BRIDGE_DRAIN_SECONDS"]

/-- The value of a variable. -/
def Variables.get? (vars : Variables) (name : String) : Option String :=
  (vars.reverse.find? (·.1 == name)).map (·.2)

/-- The value of a variable, trimmed, unless it is blank. -/
def Variables.given? (vars : Variables) (name : String) : Option String :=
  (vars.get? name).bind nonBlank?

/-! ## One setting after the other -/

/-- The word that switches signing off. -/
def unsignedWord : String := "none"

/-- The path of the token page, which has to be absolute. -/
def readTokenPath (vars : Variables) : Except Fault String :=
  let path := (vars.given? "TOKEN_PATH").getD "/token"
  match path.toList with
  | '/' :: _ => .ok path
  | _ => .error (.relativeTokenPath path)

/-- The issuer: the usual one unless the variable is there. -/
def readIssuer (vars : Variables) : Option String :=
  match vars.get? "TOKEN_ISSUER" with
  | some value => nonBlank? value
  | none => Policy.usual.issuer

/-- The algorithm that a variable names; the word for no signing names none. -/
def readAlgorithm : Option String → Except Fault (Option SigningAlgorithm)
  | none => .ok none
  | some value =>
    if Ascii.sameWord value unsignedWord then .ok none
    else
      match SigningAlgorithm.parse value with
      | .ok a => .ok (some a)
      | .error reason => .error (.unknownAlgorithm reason)

/-- Key and algorithm: both or neither. -/
def readSigning (vars : Variables) :
    Except Fault (Option (List UInt8 × SigningAlgorithm)) := do
  let named := vars.given? "TOKEN_SIGNING_ALGORITHM"
  let algorithm ← readAlgorithm named
  match vars.given? "TOKEN_SIGNING_KEY" with
  | none =>
    match algorithm with
    | some a => throw (.keyMissing a)
    | none => return none
  | some encoded =>
    if algorithm.isNone && named.isSome then throw .keyUnused
    match Base64.decode Base64.standard (Utf8.ofString encoded) with
    | .error fault => throw (.keyEncoding fault)
    | .ok key =>
      if key.length < minKeyBytes then throw (.keyTooShort key.length)
      return some (key, algorithm.getD .hs256)

/-- The life of a token, at least a second and at most a day. -/
def readMaxAge (vars : Variables) : Except Fault UInt64 :=
  match vars.given? "TOKEN_MAX_AGE_SECONDS" with
  | none => .ok Policy.usual.maxAge
  | some value =>
    match readCount value with
    | .error fault => .error (.maxAgeNumber value fault)
    | .ok n =>
      if n.toNat = 0 ∨ longestMaxAge < n.toNat then .error (.maxAgeRange n) else .ok n

/-- The kind of the reserved claim. -/
def readReservedClaim (vars : Variables) : Except Fault String :=
  let name := (vars.given? "TOKEN_AUTH_TYPE_CLAIM").getD Kind.authenticationType
  match reservedClaimFault? name with
  | some reason => .error (.reservedClaim reason)
  | none => .ok name

/-- The addresses of the proxies: those of this host unless the variable is there. -/
def readProxies (vars : Variables) : Except Fault (List Address) :=
  let value := (vars.get? "HANDSHAKE_TRUSTED_PROXIES").getD "127.0.0.1,::1"
  (commaList value).mapM fun entry =>
    match Address.parse? entry with
    | some a => .ok a
    | none => .error (.proxyAddress entry)

/-- The names of the headers that the proxies add. -/
def readProxyHeaders (vars : Variables) : Except Fault AssertionHeaders :=
  let usual := AssertionHeaders.usual
  (AssertionHeaders.parse ((vars.given? "HANDSHAKE_USER_HEADER").getD usual.user)
    ((vars.given? "HANDSHAKE_AUTH_TYPE_HEADER").getD usual.authenticationType)
    ((vars.given? "HANDSHAKE_GROUPS_HEADER").getD usual.groups)).mapError .headerName

/-- How long open requests are waited for. -/
def readDrain (vars : Variables) : Except Fault UInt64 :=
  match vars.given? "BRIDGE_DRAIN_SECONDS" with
  | none => .ok 0
  | some value => (readCount value).mapError (.drainNumber value)

/-! ## All settings -/

/-- The settings that variables spell, or the first fault. -/
def read (vars : Variables) : Except Fault Settings := do
  let tokenPath ← readTokenPath vars
  let signing ← readSigning vars
  let maxAge ← readMaxAge vars
  let authenticationTypeClaim ← readReservedClaim vars
  let trustedProxies ← readProxies vars
  let proxyHeaders ← readProxyHeaders vars
  let drainSeconds ← readDrain vars
  return {
    bindAddress := (vars.given? "BIND_ADDRESS").getD "0.0.0.0:8080"
    tokenPath
    issuer := readIssuer vars
    audience := vars.given? "TOKEN_AUDIENCE"
    signingKey := signing.map (·.1)
    signingAlgorithm := signing.map (·.2)
    maxAge, authenticationTypeClaim
    defaultAuthenticationType := vars.given? "TOKEN_DEFAULT_AUTH_TYPE"
    trustedProxies, proxyHeaders, drainSeconds }

/-- The policy for issuing and validating. -/
def policy (s : Settings) : Policy :=
  let signed := s.signingKey.isSome && s.signingAlgorithm.isSome
  {
    issuer := s.issuer
    audience := s.audience
    signingKey := if signed then s.signingKey else none
    signingAlgorithm := if signed then s.signingAlgorithm else none
    maxAge := s.maxAge
    authenticationTypeClaim := s.authenticationTypeClaim
    defaultAuthenticationType := s.defaultAuthenticationType }

/-- The description of settings, their key withheld. -/
def describe (s : Settings) : String :=
  describedRecord "Config" [
    ("bind_address", quoted s.bindAddress), ("token_path", quoted s.tokenPath),
    ("issuer", described quoted s.issuer), ("audience", described quoted s.audience),
    ("signing_key", described (fun _ => quoted "[REDACTED]") s.signingKey),
    ("signing_algorithm", described SigningAlgorithm.describe s.signingAlgorithm),
    ("max_age", describeSeconds s.maxAge.toNat),
    ("authentication_type_claim", quoted s.authenticationTypeClaim),
    ("default_authentication_type", described quoted s.defaultAuthenticationType),
    ("trusted_proxies",
      "[" ++ ", ".intercalate (s.trustedProxies.map Address.text) ++ "]"),
    ("proxy_headers", s.proxyHeaders.describe),
    ("drain_seconds", toString s.drainSeconds.toNat)]

end Settings

end BearerBridge
