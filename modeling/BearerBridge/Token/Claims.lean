/-
# The claims of a token

A token states its issuer and audience (both optional), its subject and its window of validity,
and carries a claim set beside them.  On the wire all of it is one object: the token's own
members first, then one member for each kind of the claim set.

* `TokenClaims.chars` : the object as written;
* `TokenClaims.read?` : what an object states, members of other names going to the claim set.
-/
import BearerBridge.Claim
import BearerBridge.Text.Quoted

namespace BearerBridge

/-- What a token states. -/
structure TokenClaims where
  issuer : Option String
  audience : Option String
  subject : String
  notBefore : Int64
  issuedAt : Int64
  /-- The first instant at which the token is no longer valid. -/
  expiry : Int64
  claims : ClaimSet
  deriving DecidableEq, Repr

namespace TokenClaims

/-! ## Writing -/

/-- A member that is left out when its value is absent. -/
def optionalMember (name : String) : Option String → List (String × Json.Value)
  | some s => [(name, .text s)]
  | none => []

/-- An instant as a JSON number. -/
def instant (n : Int64) : Json.Value :=
  .number (.integer n.toInt)

/-- The members that belong to the token itself. -/
def ownMembers (c : TokenClaims) : List (String × Json.Value) :=
  optionalMember "iss" c.issuer ++ optionalMember "aud" c.audience
    ++ [("sub", .text c.subject), ("nbf", instant c.notBefore), ("iat", instant c.issuedAt),
      ("exp", instant c.expiry)]

/-- The object that the claims are written as. -/
def chars (c : TokenClaims) : List Char :=
  Json.objectChars (c.ownMembers ++ c.claims.members)

/-- The text of the object. -/
def text (c : TokenClaims) : String :=
  String.ofList c.chars

/-! ## Reading -/

/-- The names of the members that belong to the token itself. -/
def ownNames : List String := ["iss", "aud", "sub", "nbf", "iat", "exp"]

/-- The one text of a name, which may be absent or null. -/
def optionalText? (name : String) (ms : List (String × Json.Value)) : Option (Option String) :=
  match Json.unique? name ms with
  | some none => some none
  | some (some .null) => some none
  | some (some (.text s)) => some (some s)
  | _ => none

/-- The one text of a name. -/
def text? (name : String) (ms : List (String × Json.Value)) : Option String :=
  match Json.unique? name ms with
  | some (some (.text s)) => some s
  | _ => none

/-- The one instant of a name. -/
def instant? (name : String) (ms : List (String × Json.Value)) : Option Int64 :=
  match Json.unique? name ms with
  | some (some (.number n)) => n.int64?
  | _ => none

/-- What the members of an object state. -/
def ofMembers? (ms : List (String × Json.Value)) : Option TokenClaims := do
  let issuer ← optionalText? "iss" ms
  let audience ← optionalText? "aud" ms
  let subject ← text? "sub" ms
  let notBefore ← instant? "nbf" ms
  let issuedAt ← instant? "iat" ms
  let expiry ← instant? "exp" ms
  return {
    issuer, audience, subject, notBefore, issuedAt, expiry
    claims := ClaimSet.ofMembers (ms.filter (!ownNames.contains ·.1)) }

/-- What a text states; only an object states claims. -/
def read? (s : List UInt8) : Option TokenClaims :=
  match Json.Tree.read? s with
  | some (.object members) => (Json.memberValues? (Json.maxDepth - 1) members).bind ofMembers?
  | _ => none

/-- The expiry that a text states, whatever else it holds. -/
def readExpiry? (s : List UInt8) : Option Int64 :=
  match (Json.Tree.read? s).bind (Json.Tree.parts? ["exp"]) with
  | some [some t] => t.int64?
  | _ => none

/-! ## Views -/

/-- Every claim of a token in one list, the token's own first. -/
def allClaims (c : TokenClaims) : ClaimSet :=
  (c.issuer.map (Claim.mk "iss")).toList ++ (c.audience.map (Claim.mk "aud")).toList
    ++ [⟨"sub", c.subject⟩, ⟨"nbf", toString c.notBefore.toInt⟩,
      ⟨"iat", toString c.issuedAt.toInt⟩, ⟨"exp", toString c.expiry.toInt⟩]
    ++ c.claims

/-- The same claims with their claim set regrouped by kind. -/
def regroup (c : TokenClaims) : TokenClaims :=
  { c with claims := c.claims.regroup }

/-- A description that tells neither the subject nor any claim. -/
def describe (c : TokenClaims) : String :=
  describedRecord "TokenClaims" [
    ("iss", described quoted c.issuer), ("aud", described quoted c.audience),
    ("sub", quoted "[REDACTED]"), ("nbf", toString c.notBefore.toInt),
    ("iat", toString c.issuedAt.toInt), ("exp", toString c.expiry.toInt),
    ("claims", toString c.claims.length)]

end TokenClaims

end BearerBridge
