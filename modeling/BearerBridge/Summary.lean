/-
# Summaries

What a page tells a client about itself: how it came, who it is taken for, and its claims, with
or without its groups.

* `summary` : the summary of a known client.
-/
import BearerBridge.Http.Message
import BearerBridge.Identity
import BearerBridge.Principal

namespace BearerBridge

/-! ## Clients -/

/-- What a summary tells about a client. -/
structure Client where
  name : String
  authenticationType : String
  claims : ClaimSet
  deriving DecidableEq, Repr

/-- Who an identity says the client is. -/
def Identity.client (i : Identity) : Client := ⟨i.canonicalName, i.authenticationType, i.claims⟩

/-- Who a principal says the client is. -/
def Principal.client (p : Principal) : Client := ⟨p.name, p.authenticationType, p.claims⟩

/-! ## Members -/

/-- The members of a summary; nobody stands for a client that is not known. -/
def summaryMembers (r : Http.Request) (client : Option Client) (keepGroups : Bool) :
    List (String × Json.Value) :=
  let claims := (client.map Client.claims).getD []
  [("protocol", .text r.version.name), ("path", .text r.target.path),
      ("is_authenticated", .boolean client.isSome)]
    ++ (client.map (fun c => [("name", Json.Value.text c.name),
      ("authentication_type", .text c.authenticationType)])).getD []
    ++ [("claims", .array ((claims.shown keepGroups).map (fun c => .text c.line))),
      ("group_count", .number (.integer (claims.count Kind.group)))]

/-- Whether a query asks for groups: the parameter is there, once, with any value. -/
def keepGroups? (query : Option String) : Option Bool :=
  match ((query.map Http.formPairs).getD []).filter (·.1 == "keep_groups") with
  | [] => some false
  | [_] => some true
  | _ => none

/-- The summary of a known client. -/
def summary (r : Http.Request) (client : Client) : Http.Response :=
  match keepGroups? r.target.query with
  | some keep => Http.Response.json 200 (summaryMembers r (some client) keep)
  | none =>
    Http.Response.plain 400
      "Failed to deserialize query string: duplicate field \x60keep_groups\x60"

end BearerBridge
