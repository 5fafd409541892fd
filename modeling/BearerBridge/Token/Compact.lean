/-
# Compact tokens

A compact token is three segments with dots between them: header, payload and signature.  Header
and payload are URL-safe base64 of JSON and may not be empty; a token has a limited size.

* `Segments.split_text` : segments without dots, joined and split, come out unchanged;
* `Segments.splitLast_text` : splitting twice at the last dot gives the same segments.
-/
import BearerBridge.Text.Base64
import BearerBridge.Text.Split
import BearerBridge.Text.Utf8

namespace BearerBridge

/-- Why a text is not read as a token at all. -/
inductive FormatFault where
  | tooLarge
  | malformed
  deriving DecidableEq, Repr

/-- The wording of a fault. -/
def FormatFault.message : FormatFault → String
  | tooLarge => "The token is too large"
  | malformed => "The token is malformed"

/-- The greatest size of a token, in bytes. -/
def maxTokenBytes : Nat := 16384

/-! ## Segments -/

/-- The three parts of a compact token. -/
structure Segments where
  header : String
  payload : String
  signature : String
  deriving DecidableEq, Repr

namespace Segments

/-- The part of a token that a signature covers. -/
def signedText (s : Segments) : String :=
  s.header ++ "." ++ s.payload

/-- The token as one text. -/
def text (s : Segments) : String :=
  s.signedText ++ "." ++ s.signature

/-- The three segments of a token, once its size is checked. -/
def split (token : String) : Except FormatFault Segments :=
  if maxTokenBytes < (Utf8.ofString token).length then .error .tooLarge
  else
    match splitAll '.' token.toList with
    | [h, p, s] =>
      if h = [] ∨ p = [] then .error .malformed
      else .ok ⟨String.ofList h, String.ofList p, String.ofList s⟩
    | _ => .error .malformed

/-- The segments found by splitting at the last dot, and then at the last dot before it. -/
def splitLast? (token : String) : Option Segments := do
  let (signed, signature) ← atLast? '.' token.toList
  let (header, payload) ← atLast? '.' signed
  return ⟨String.ofList header, String.ofList payload, String.ofList signature⟩

/-- The three segments hold no dot, and only the last may be empty. -/
structure WellFormed (s : Segments) : Prop where
  header_no_dot : '.' ∉ s.header.toList
  payload_no_dot : '.' ∉ s.payload.toList
  signature_no_dot : '.' ∉ s.signature.toList
  header_ne_nil : s.header.toList ≠ []
  payload_ne_nil : s.payload.toList ≠ []

theorem toList_text (s : Segments) :
    s.text.toList
      = s.header.toList ++ '.' :: (s.payload.toList ++ '.' :: s.signature.toList) := by
  simp [text, signedText, String.toList_append]

/-- **Segments, joined and split, come out unchanged.** -/
theorem split_text {s : Segments} (h : s.WellFormed)
    (hsize : (Utf8.ofString s.text).length ≤ maxTokenBytes) : split s.text = .ok s := by
  rw [split, if_neg (by omega), toList_text, splitAll_append _ h.header_no_dot,
    splitAll_append _ h.payload_no_dot, splitAll_of_not_mem h.signature_no_dot]
  simp [h.header_ne_nil, h.payload_ne_nil]

/-- **Splitting twice at the last dot gives the same segments.** -/
theorem splitLast_text {s : Segments} (h : s.WellFormed) : splitLast? s.text = some s := by
  have key : s.header.toList ++ '.' :: (s.payload.toList ++ '.' :: s.signature.toList)
      = (s.header.toList ++ '.' :: s.payload.toList) ++ '.' :: s.signature.toList := by simp
  rw [splitLast?, toList_text, key, atLast?_append _ h.signature_no_dot]
  simp [atLast?_append _ h.payload_no_dot]

end Segments

/-- The bytes that a segment spells. -/
def segmentBytes? (segment : String) : Option (List UInt8) :=
  Base64.decode? Base64.url segment

/-- A segment that spells a text. -/
def segmentOf (cs : List Char) : String :=
  Base64.text Base64.url (Utf8.encode cs)

end BearerBridge
