/-
# Claims

A claim is a kind with a value, and a claim set is a list of claims whose order counts.  On the
wire a claim set is an object with one member for each kind, in the order in which the kinds
first appear: a text for a single value, an array for several.

* `ClaimSet.text`, `ClaimSet.read?` : a claim set as written, and as read back;
* `ClaimSet.regroup` : the claims of each kind brought together, as writing and reading leaves
  them.
-/
import BearerBridge.Json.Record

namespace BearerBridge

/-- A statement of some kind about a principal. -/
structure Claim where
  kind : String
  value : String
  deriving DecidableEq, Repr

/-- A claim as a line of a summary. -/
def Claim.line (c : Claim) : String :=
  c.kind ++ ": " ++ c.value

/-! ## Kinds -/

namespace Kind

/-- The name that the handshake gave to the principal. -/
def name : String := "name"

/-- Membership in a group. -/
def group : String := "group"

/-- The usual kind of the reserved claim with the principal's authentication type. -/
def authenticationType : String := "$AuthenticationType"

/-- The kinds that belong to the token itself. -/
def registered : List String := ["iss", "aud", "sub", "nbf", "iat", "exp", "jti"]

/-- Whether a kind belongs to the token itself. -/
def isRegistered (kind : String) : Bool :=
  registered.contains kind

/-- The kinds that pass from a principal into a token. -/
def bridged : List String := [name, group]

/-- Whether claims of a kind pass from a principal into a token. -/
def isBridged (kind : String) : Bool :=
  bridged.contains kind

end Kind

/-! ## Claim sets -/

/-- Claims in order. -/
abbrev ClaimSet := List Claim

namespace ClaimSet

/-- The values of a kind, in order. -/
def values (cs : ClaimSet) (kind : String) : List String :=
  (cs.filter (·.kind == kind)).map Claim.value

/-- The first value of a kind. -/
def first? (cs : ClaimSet) (kind : String) : Option String :=
  (cs.find? (·.kind == kind)).map Claim.value

/-- The number of claims of a kind. -/
def count (cs : ClaimSet) (kind : String) : Nat :=
  (cs.filter (·.kind == kind)).length

/-- The claims whose kinds pass a test. -/
def keepKinds (cs : ClaimSet) (keep : String → Bool) : ClaimSet :=
  cs.filter (keep ·.kind)

/-- The claims of all kinds but one. -/
def withoutKind (cs : ClaimSet) (kind : String) : ClaimSet :=
  cs.keepKinds (· != kind)

/-- The texts of a list, each at the place of its first appearance only. -/
def distinct : List String → List String
  | [] => []
  | k :: ks => k :: (distinct ks).filter (· != k)

/-- The kinds in the order of their first appearance. -/
def kinds (cs : ClaimSet) : List String :=
  distinct (cs.map Claim.kind)

/-- The claims of each kind brought together, kinds in the order of their first appearance. -/
def regroup (cs : ClaimSet) : ClaimSet :=
  cs.kinds.flatMap (fun kind => cs.filter (·.kind == kind))

/-! ## The form on the wire -/

/-- The values of one kind: alone as a text, otherwise as an array. -/
def wireValue : List String → Json.Value
  | [v] => .text v
  | vs => .array (vs.map .text)

/-- The members of the object that a claim set is written as. -/
def members (cs : ClaimSet) : List (String × Json.Value) :=
  cs.kinds.map (fun kind => (kind, wireValue (cs.values kind)))

/-- A claim set written as an object. -/
def text (cs : ClaimSet) : String :=
  String.ofList (Json.objectChars cs.members)

/-- A value of a claim: a text as it is, anything else as compact JSON. -/
def valueText : Json.Value → String
  | .text s => s
  | v => v.render

/-- The claims of one member: one for each item of an array, otherwise one. -/
def ofMember : String × Json.Value → ClaimSet
  | (kind, .array items) => items.map (fun v => ⟨kind, valueText v⟩)
  | (kind, v) => [⟨kind, valueText v⟩]

/-- The claims of the members of an object. -/
def ofMembers (ms : List (String × Json.Value)) : ClaimSet :=
  ms.flatMap ofMember

/-- The claim set that a text spells; only an object spells one. -/
def read? (s : List UInt8) : Option ClaimSet :=
  match Json.Tree.read? s with
  | some (.object members) =>
    (Json.memberValues? (Json.maxDepth - 1) members).map ofMembers
  | _ => none

end ClaimSet

end BearerBridge
