/-
# The members of an object

Whoever reads an object first finds its members, in order and with repetitions, and gives each of
them a meaning.  Claim sets and the claims of a token are read off the same list of members, so
what a text states is decided by that list alone.

* `members?_objectChars` : an object of plain values has the members that it was written with;
* `ClaimSet.read?_eq`, `TokenClaims.read?_eq` : what is read off the members of an object.
-/
import BearerBridge.Proofs.Json.Written
import BearerBridge.Token.Claims

namespace BearerBridge

/-- The members of the object that a text spells, in order and with repetitions. -/
def Json.members? (s : List UInt8) : Option (List (String × Json.Value)) :=
  match Json.Tree.read? s with
  | some (.object members) => Json.memberValues? (Json.maxDepth - 1) members
  | _ => none

/-- **An object of plain values has the members that it was written with.** -/
theorem Json.members?_objectChars {ms : List (String × Json.Value)}
    (h : ∀ m ∈ ms, m.2.IsPlain) : members? (Utf8.encode (objectChars ms)) = some ms := by
  obtain ⟨ts, hread, hvalues⟩ := read?_objectChars h
  rw [members?, hread]
  exact hvalues

theorem ClaimSet.read?_eq (s : List UInt8) : read? s = (Json.members? s).map ofMembers := by
  rw [read?, Json.members?]
  cases Json.Tree.read? s with
  | none => rfl
  | some t => cases t <;> rfl

theorem TokenClaims.read?_eq (s : List UInt8) :
    read? s = (Json.members? s).bind ofMembers? := by
  rw [read?, Json.members?]
  cases Json.Tree.read? s with
  | none => rfl
  | some t => cases t <;> rfl

end BearerBridge
