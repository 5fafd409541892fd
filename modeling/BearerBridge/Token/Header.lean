/-
# Token headers

A header names the algorithm of a token.  It is read twice: loosely, to decide how a token is to
be checked, and strictly, when a signature is checked.  The loose reader looks at two parts; the
strict one knows every part of a JOSE header, among them an embedded key, and accepts none of
the wrong type.

* `Header.read?` : the loose reader;
* `JoseHeader.read?` : the strict reader.
-/
import BearerBridge.Json.Record
import BearerBridge.Token.Compact

namespace BearerBridge

/-! ## The loose reader -/

/-- The parts of a header that decide how a token is checked. -/
structure Header where
  algorithm : String
  type : Option String
  deriving DecidableEq, Repr

namespace Header

/-- The algorithm of a token without a signature. -/
def unsecured : String := "none"

/-- Whether a token says that it has no signature. -/
def isUnsecured (h : Header) : Bool :=
  Ascii.sameWord h.algorithm unsecured

/-- The header that a text states, whatever else it holds. -/
def read? (s : List UInt8) : Option Header :=
  match (Json.Tree.read? s).bind (Json.Tree.parts? ["alg", "typ"]) with
  | some [some alg, typ] =>
    match alg.text?, Json.optionalText? typ with
    | some algorithm, some type => some ⟨algorithm, type⟩
    | _, _ => none
  | _ => none

/-- The header of an unsecured token, as written. -/
def unsecuredChars : List Char :=
  Json.objectChars [("alg", .text unsecured), ("typ", .text "JWT")]

end Header

/-! ## Embedded keys -/

namespace KeyObject

/-- The algorithms that an embedded key may be meant for. -/
def algorithms : List String :=
  ["HS256", "HS384", "HS512", "ES256", "ES384", "RS256", "RS384", "RS512", "PS256", "PS384",
    "PS512", "EdDSA", "RSA1_5", "RSA-OAEP", "RSA-OAEP-256"]

/-- The curves of elliptic keys. -/
def curves : List String := ["P-256", "P-384", "P-521", "Ed25519"]

/-- The parts that keys of all types have. -/
def commonNames : List String :=
  ["use", "key_ops", "alg", "kid", "x5u", "x5c", "x5t", "x5t#S256"]

/-- The part of a name passes a test, or is absent or null. -/
def optionalPart (test : Json.Tree → Bool) (name : String)
    (ms : List (String × Json.Tree)) : Bool :=
  match Json.unique? name ms with
  | some none => true
  | some (some .null) => true
  | some (some t) => test t
  | none => false

/-- The part of a name is there and passes a test. -/
def requiredPart (test : Json.Tree → Bool) (name : String)
    (ms : List (String × Json.Tree)) : Bool :=
  match Json.unique? name ms with
  | some (some t) => test t
  | _ => false

/-- A text. -/
def isText (t : Json.Tree) : Bool := t.text?.isSome

/-- An array of texts. -/
def isTexts (t : Json.Tree) : Bool := t.texts?.isSome

/-- One of several words, written as a text or as the only member of an object, with null. -/
def isWord (words : List String) (t : Json.Tree) : Bool := (t.word? words).isSome

/-- The algorithm of a key: a word, which may also hold an empty object. -/
def isAlgorithm : Json.Tree → Bool
  | .object [(name, .object [])] => isWord algorithms (.text name)
  | t => isWord algorithms t

/-- The members that only some types of keys have hold an elliptic key, an RSA key, a symmetric
key or an octet key pair. -/
def hasMaterial (ms : List (String × Json.Tree)) : Bool :=
  (requiredPart (isWord ["EC"]) "kty" ms && requiredPart (isWord curves) "crv" ms
      && requiredPart isText "x" ms && requiredPart isText "y" ms)
    || (requiredPart (isWord ["RSA"]) "kty" ms && requiredPart isText "n" ms
      && requiredPart isText "e" ms)
    || (requiredPart (isWord ["oct"]) "kty" ms && requiredPart isText "k" ms)
    || (requiredPart (isWord ["OKP"]) "kty" ms && requiredPart (isWord curves) "crv" ms
      && requiredPart isText "x" ms)

/-- Whether the members of an object describe a key. -/
def isKey (ms : List (String × Json.Tree)) : Bool :=
  optionalPart isText "use" ms && optionalPart isTexts "key_ops" ms
    && optionalPart isAlgorithm "alg" ms && optionalPart isText "kid" ms
    && optionalPart isText "x5u" ms && optionalPart isTexts "x5c" ms
    && optionalPart isText "x5t" ms && optionalPart isText "x5t#S256" ms
    && hasMaterial (ms.filter (!commonNames.contains ·.1))

/-- Whether a part of a header is absent, null or a key.  A key stands one level below the
header, and everything in it has to have a value. -/
def isOptionalKey : Option Json.Tree → Bool
  | none => true
  | some .null => true
  | some (.object members) =>
    (Json.memberValues? (Json.maxDepth - 2) members).isSome
      && ((Json.named? members).map isKey).getD false
  | some _ => false

end KeyObject

/-! ## The strict reader -/

namespace JoseHeader

/-- The algorithms that a signed token may name. -/
def algorithms : List String :=
  ["HS256", "HS384", "HS512", "ES256", "ES384", "RS256", "RS384", "RS512", "PS256", "PS384",
    "PS512", "EdDSA"]

/-- The parts of a JOSE header, in the order in which an array gives them. -/
def names : List String :=
  ["typ", "alg", "cty", "jku", "jwk", "kid", "x5u", "x5c", "x5t", "x5t#S256"]

/-- An array has to give every part. -/
def isComplete : Json.Tree → Bool
  | .array items => items.length == names.length
  | _ => true

/-- The algorithm of a header whose every part is well formed. -/
def algorithm? (t : Json.Tree) : Option String :=
  match t.parts? names with
  | some [typ, some alg, cty, jku, jwk, kid, x5u, x5c, x5t, x5t256] =>
    if isComplete t && [typ, cty, jku, kid, x5u, x5t, x5t256].all
          (fun part => (Json.optionalText? part).isSome)
        && (Json.optionalTexts? x5c).isSome && KeyObject.isOptionalKey jwk then
      alg.word? algorithms
    else none
  | _ => none

/-- The algorithm of the header that a text states. -/
def read? (s : List UInt8) : Option String :=
  (Json.Tree.read? s).bind algorithm?

/-- The header of a signed token, as written. -/
def chars (algorithm : String) : List Char :=
  Json.objectChars [("typ", .text "JWT"), ("alg", .text algorithm)]

end JoseHeader

end BearerBridge
