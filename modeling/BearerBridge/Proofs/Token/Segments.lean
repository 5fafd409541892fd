/-
# Tokens as three segments

A text is a token exactly when it is three pieces without dots, the first two not empty, with
dots between them.  A segment that was made of bytes is written without dots and spells these
bytes, so the tokens that are made here are tokens in that sense.

* `split_eq_ok_iff` : which texts split, and into what;
* `segmentBytes?_text` : a segment spells the bytes that it was made of;
* `Segments.length_text`, `Token.length_signature` : how large a token is;
* `wellFormed_signedSegments`, `wellFormed_unsecuredSegments` : the tokens that are made here.
-/
import BearerBridge.Proofs.Text.Bytes
import BearerBridge.Proofs.Text.Pieces
import BearerBridge.Token.Signature

namespace BearerBridge

/-! ## Splitting a text -/

namespace Segments

theorem toList_signedText (s : Segments) :
    s.signedText.toList = s.header.toList ++ '.' :: s.payload.toList := by
  simp [signedText, String.toList_append]

/-- The text of segments is what a signature covers, a dot and the signature. -/
theorem toList_text_of_signedText (s : Segments) :
    s.text.toList = s.signedText.toList ++ '.' :: s.signature.toList := by
  simp [text, String.toList_append]

/-- **A text splits into three segments exactly when it is their text**, they hold no dots, the
first two are not empty, and the text is not too large. -/
theorem split_eq_ok_iff {token : String} {s : Segments} :
    split token = .ok s
      ↔ s.WellFormed ∧ token = s.text ∧ (Utf8.ofString token).length ≤ maxTokenBytes := by
  constructor
  · intro h
    rw [split] at h
    split at h
    · exact absurd h (by simp)
    · next hsize =>
      split at h
      · next a b c hpieces =>
        split at h
        · exact absurd h (by simp)
        · next hne =>
          obtain rfl := Except.ok.inj h
          rw [not_or] at hne
          obtain ⟨htoken, ha, hb, hc⟩ := splitAll_eq_three hpieces
          refine ⟨?_, ?_, by omega⟩
          · constructor <;> rw [String.toList_ofList]
            · exact ha
            · exact hb
            · exact hc
            · exact hne.1
            · exact hne.2
          · rw [← String.toList_inj, toList_text, htoken]
            simp only [String.toList_ofList]
      · exact absurd h (by simp)
  · rintro ⟨hwf, rfl, hsize⟩
    exact split_text hwf hsize

/-- A text that is too large does not split. -/
theorem split_of_large {token : String} (h : maxTokenBytes < (Utf8.ofString token).length) :
    split token = .error .tooLarge := by
  rw [split, if_pos h]

end Segments

/-! ## Segments made of bytes -/

/-- The symbols of the URL-safe alphabet are ASCII characters other than the dot. -/
theorem Base64.ascii_of_mem_encode_url {b : UInt8} {bs : List UInt8} (h : b ∈ encode url bs) :
    b.toNat < 0x80 ∧ Ascii.char b ≠ '.' := by
  have key : ∀ n < 64, (url.symbol n).toNat < 0x80 ∧ Ascii.char (url.symbol n) ≠ '.' := by
    decide
  obtain ⟨n, hn, rfl⟩ := mem_encode_url h
  exact key n hn

theorem Base64.ofString_text (bs : List UInt8) : Utf8.ofString (text url bs) = encode url bs := by
  rw [Utf8.ofString, text, String.toList_ofList]
  exact Ascii.encode_map_char (fun b hb => (ascii_of_mem_encode_url hb).1)

theorem Base64.length_ofString_text (bs : List UInt8) :
    (Utf8.ofString (text url bs)).length = (4 * bs.length + 2) / 3 := by
  rw [ofString_text, length_encode_url]

/-- **A segment spells the bytes that it was made of.** -/
theorem segmentBytes?_text (bs : List UInt8) :
    segmentBytes? (Base64.text Base64.url bs) = some bs := by
  rw [segmentBytes?, Base64.decode?, Base64.ofString_text, Base64.decode_encode (Or.inl rfl)]
  rfl

theorem Base64.dot_notMem_text (bs : List UInt8) : '.' ∉ (text url bs).toList := by
  rw [text, String.toList_ofList, List.mem_map]
  rintro ⟨b, hb, he⟩
  exact (ascii_of_mem_encode_url hb).2 he

theorem Base64.text_ne_nil {bs : List UInt8} (h : bs ≠ []) : (text url bs).toList ≠ [] := by
  intro hnil
  have hlength := length_encode_url bs
  have hpos := List.length_pos_iff.2 h
  rw [text, String.toList_ofList, List.map_eq_nil_iff] at hnil
  rw [hnil, List.length_nil] at hlength
  omega

theorem encode_objectChars_ne_nil (ms : List (String × Json.Value)) :
    Utf8.encode (Json.objectChars ms) ≠ [] := by
  rw [Json.objectChars, List.cons_append, Utf8.encode_cons]
  exact fun h => absurd (List.append_eq_nil_iff.1 h).1 (by decide)

/-! ## The size of a token -/

/-- A token takes the bytes of its segments and two dots. -/
theorem Segments.length_text (s : Segments) :
    (Utf8.ofString s.text).length = (Utf8.ofString s.header).length
      + (Utf8.ofString s.payload).length + (Utf8.ofString s.signature).length + 2 := by
  have hdot : (Utf8.encodeChar '.').length = 1 := by decide
  simp only [Utf8.ofString, toList_text, Utf8.encode_append, Utf8.encode_cons,
    List.length_append, hdot]
  omega

/-- A signature takes as many bytes as the digest of its algorithm asks for. -/
theorem Token.length_signature (a : SigningAlgorithm) (key : List UInt8) (signed : String) :
    (Utf8.ofString (signature a key signed)).length = (4 * a.hash.digestBytes + 2) / 3 := by
  rw [signature, Base64.length_ofString_text, Hmac.length_code]

/-! ## The tokens that are made here -/

namespace Token

theorem wellFormed_signedSegments (c : TokenClaims) (key : List UInt8)
    (algorithm : SigningAlgorithm) : (signedSegments c key algorithm).WellFormed where
  header_no_dot := Base64.dot_notMem_text _
  payload_no_dot := Base64.dot_notMem_text _
  signature_no_dot := Base64.dot_notMem_text _
  header_ne_nil := Base64.text_ne_nil (encode_objectChars_ne_nil _)
  payload_ne_nil := Base64.text_ne_nil (encode_objectChars_ne_nil _)

theorem wellFormed_unsecuredSegments (c : TokenClaims) : (unsecuredSegments c).WellFormed where
  header_no_dot := Base64.dot_notMem_text _
  payload_no_dot := Base64.dot_notMem_text _
  signature_no_dot := List.not_mem_nil
  header_ne_nil := Base64.text_ne_nil (encode_objectChars_ne_nil _)
  payload_ne_nil := Base64.text_ne_nil (encode_objectChars_ne_nil _)

end Token

end BearerBridge
