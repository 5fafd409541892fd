/-
# The location of the token page

A client is told where the token page is by a URL, or by a reference that is completed by the
URL of the request that needs a token: so a token page can be found on the server it is for.
-/
import BearerBridge.Client.Credential
import BearerBridge.Net.Reference

namespace BearerBridge

/-- Where the token page is. -/
inductive Location where
  | absolute (url : Url)
  | relative (reference : String)
  deriving DecidableEq, Repr

namespace Location

/-- The location that a text names: whatever is no URL by itself is a reference. -/
def parse (s : String) : Except ClientFault Location :=
  let place := trim s
  if place = "" then .error (.configuration "token endpoint location is empty")
  else
    match Url.parse place with
    | .ok url => .ok (.absolute url)
    | .error _ => .ok (.relative place)

/-- The URL of the token page for a request to some target. -/
def resolve (target : Url) : Location → Except ClientFault Url
  | absolute url => .ok url
  | relative reference =>
    (Url.resolve (some target) reference).mapError (fun fault =>
      .configuration
        ("cannot resolve token endpoint '" ++ reference ++ "': " ++ fault.message))

/-- Brings back status and body of the page at a URL, or the reason why it does not. -/
abbrev Transport := Url → Except String (Nat × List UInt8)

/-- The token in an answer of the token page. -/
def tokenOf (status : Nat) (body : List UInt8) : Except ClientFault String :=
  if 200 ≤ status ∧ status < 300 then
    let token := trim (String.ofList (Utf8.repair body))
    if token = "" then .error (.invalidToken "empty response body") else .ok token
  else .error (.rejected status)

/-- The token that the token page gives to a client, for a request to some target. -/
def fetch (transport : Transport) (location : Location) (target : Url) :
    Except ClientFault String := do
  let url ← location.resolve target
  match transport url with
  | .error reason => .error (.transport reason)
  | .ok (status, body) => tokenOf status body

end Location

end BearerBridge
