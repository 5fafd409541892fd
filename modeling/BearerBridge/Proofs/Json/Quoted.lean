/-
# Texts in quotes read back

A text is written between quotes character by character: a short escape, an escape of four
hexadecimal digits, or the character itself.  The bytes between the quotes are read in two steps,
and each step undoes one character at a time:

* `readBody_quotedBody` : the reader stops at the closing quote and not before it;
* `textOfBody?_quotedBody` : resolving the escapes gives the text that was written.
-/
import BearerBridge.Json.Value
import BearerBridge.Proofs.Text.Bytes

namespace BearerBridge.Json

open Ascii (byte)

/-! ## How a character is written -/

/-- A character is written as a short escape, as an escape of four digits, or as itself. -/
theorem quoteChar_cases (c : Char) :
    (∃ e, Utf8.encode (quoteChar c) = [byte '\\', byte e] ∧ isShortEscape (byte e) = true
        ∧ byte e ≠ byte 'u' ∧ shortEscape? (byte e) = some c)
      ∨ (c.toNat < 0x20 ∧ quoteChar c
          = ['\\', 'u', '0', '0'] ++ Ascii.hexByte (UInt8.ofNat c.toNat))
      ∨ (quoteChar c = [c] ∧ c ≠ '"' ∧ c ≠ '\\' ∧ 0x20 ≤ c.toNat) := by
  -- the seven characters with a short escape are tested for one after the other
  unfold quoteChar
  split
  · next h => exact Or.inl ⟨'"', by decide, by decide, by decide, by rw [h]; decide⟩
  split
  · next h => exact Or.inl ⟨'\\', by decide, by decide, by decide, by rw [h]; decide⟩
  split
  · next h => exact Or.inl ⟨'n', by decide, by decide, by decide, by rw [h]; decide⟩
  split
  · next h => exact Or.inl ⟨'r', by decide, by decide, by decide, by rw [h]; decide⟩
  split
  · next h => exact Or.inl ⟨'t', by decide, by decide, by decide, by rw [h]; decide⟩
  split
  · next h => exact Or.inl ⟨'b', by decide, by decide, by decide, by rw [h]; decide⟩
  split
  · next h => exact Or.inl ⟨'f', by decide, by decide, by decide, by rw [h]; decide⟩
  split
  · next h => exact Or.inr (Or.inl ⟨h, rfl⟩)
  · next hq hb _ _ _ _ _ h => exact Or.inr (Or.inr ⟨rfl, hq, hb, by omega⟩)

/-- The four digits of an escaped control character name its number. -/
theorem codeUnit?_hexByte {n : Nat} (h : n < 0x20) :
    ∃ h3 h4, Utf8.encode (['\\', 'u', '0', '0'] ++ Ascii.hexByte (UInt8.ofNat n))
        = [byte '\\', byte 'u', byte '0', byte '0', h3, h4]
      ∧ codeUnit? (byte '0') (byte '0') h3 h4 = some n
      ∧ (hexDigit? h3).isSome ∧ (hexDigit? h4).isSome := by
  have key : ∀ n < 0x20,
      Utf8.encode (['\\', 'u', '0', '0'] ++ Ascii.hexByte (UInt8.ofNat n))
          = [byte '\\', byte 'u', byte '0', byte '0', byte (Nat.digitChar (n / 16)),
            byte (Nat.digitChar (n % 16))]
        ∧ codeUnit? (byte '0') (byte '0') (byte (Nat.digitChar (n / 16)))
            (byte (Nat.digitChar (n % 16))) = some n
        ∧ (hexDigit? (byte (Nat.digitChar (n / 16)))).isSome
        ∧ (hexDigit? (byte (Nat.digitChar (n % 16)))).isSome := by decide
  exact ⟨_, _, key n h⟩

/-- The bytes of a character that is written as itself. -/
theorem plain_of_mem_encodeChar {c : Char} (hq : c ≠ '"') (hs : c ≠ '\\') (h : 0x20 ≤ c.toNat)
    {b : UInt8} (hb : b ∈ Utf8.encodeChar c) :
    b ≠ byte '"' ∧ b ≠ byte '\\' ∧ ¬ b < 0x20 := by
  have e1 : (byte '"').toNat = 0x22 := rfl
  have e2 : (byte '\\').toNat = 0x5C := rfl
  have e3 : (0x20 : UInt8).toNat = 0x20 := rfl
  rw [UInt8.lt_iff_toNat_lt, ne_eq, ne_eq, ← UInt8.toNat_inj, ← UInt8.toNat_inj, e1, e2, e3]
  by_cases ha : c.toNat < 0x80
  · rw [Utf8.encodeChar_ascii ha, List.mem_singleton] at hb
    rw [hb, Ascii.toNat_byte ha]
    refine ⟨fun e => hq ?_, fun e => hs ?_, by omega⟩
    · exact Char.toNat_inj.1 e
    · exact Char.toNat_inj.1 e
  · -- outside ASCII the bytes are above all three
    have hb' := Utf8.high_of_mem_encodeChar (by omega) hb
    omega

/-! ## Finding the closing quote -/

/-- Bytes without quotes, backslashes and control characters are taken as they are. -/
theorem readBody_plain {bs : List UInt8}
    (h : ∀ b ∈ bs, b ≠ byte '"' ∧ b ≠ byte '\\' ∧ ¬ b < 0x20) (s : List UInt8) :
    readBody (bs ++ s) = (readBody s).map (fun r => (bs ++ r.1, r.2)) := by
  induction bs with
  | nil => simp
  | cons b bs ih =>
    obtain ⟨hq, hs, hc⟩ := h b (by simp)
    rw [List.cons_append, readBody.eq_def]
    simp only [hq, hs, hc, if_false]
    rw [ih (fun x hx => h x (by simp [hx])), Option.map_map]
    rfl

theorem readBody_short {e : UInt8} (h : isShortEscape e = true) (s : List UInt8) :
    readBody (byte '\\' :: e :: s)
      = (readBody s).map (fun r => (byte '\\' :: e :: r.1, r.2)) := by
  rw [readBody.eq_def]
  simp only [h, if_true]
  rfl

theorem readBody_unicode {h1 h2 h3 h4 : UInt8}
    (h : [h1, h2, h3, h4].all (hexDigit? · |>.isSome) = true) (s : List UInt8) :
    readBody (byte '\\' :: byte 'u' :: h1 :: h2 :: h3 :: h4 :: s)
      = (readBody s).map
          (fun r => (byte '\\' :: byte 'u' :: h1 :: h2 :: h3 :: h4 :: r.1, r.2)) := by
  rw [readBody.eq_def]
  simp only [h, if_true]
  rfl

/-- The reader takes the bytes of a written character whole. -/
theorem readBody_quoteChar (c : Char) (s : List UInt8) :
    readBody (Utf8.encode (quoteChar c) ++ s)
      = (readBody s).map (fun r => (Utf8.encode (quoteChar c) ++ r.1, r.2)) := by
  obtain ⟨e, he, hs, -, -⟩ | ⟨hc, hw⟩ | ⟨hw, hq, hb, hc⟩ := quoteChar_cases c
  · rw [he]
    exact readBody_short hs s
  · obtain ⟨h3, h4, he, -, hd3, hd4⟩ := codeUnit?_hexByte hc
    rw [hw, he]
    refine readBody_unicode ?_ s
    have h0 : (hexDigit? (byte '0')).isSome = true := by decide
    simp [h0, hd3, hd4]
  · rw [hw, Utf8.encode_cons, Utf8.encode_nil, List.append_nil]
    exact readBody_plain (fun b => plain_of_mem_encodeChar hq hb hc) s

/-- The bytes between the quotes of a written text. -/
def quotedBody (s : String) : List UInt8 :=
  Utf8.encode (s.toList.flatMap quoteChar)

/-- **The reader stops at the closing quote of a written text.** -/
theorem readBody_quotedBody (s : String) (rest : List UInt8) :
    readBody (quotedBody s ++ byte '"' :: rest) = some (quotedBody s, rest) := by
  unfold quotedBody
  induction s.toList with
  | nil =>
    rw [List.flatMap_nil, Utf8.encode_nil, List.nil_append, readBody.eq_def]
    exact if_pos rfl
  | cons c cs ih =>
    rw [List.flatMap_cons, Utf8.encode_append, List.append_assoc, readBody_quoteChar, ih]
    rfl

/-! ## Resolving the escapes -/

theorem unescape_plain {bs : List UInt8} (h : ∀ b ∈ bs, b ≠ byte '\\') (s : List UInt8) :
    unescape (bs ++ s) = (unescape s).map (bs ++ ·) := by
  induction bs with
  | nil => simp
  | cons b bs ih =>
    rw [List.cons_append, unescape.eq_def]
    simp only [h b (by simp), if_false]
    rw [ih (fun x hx => h x (by simp [hx])), Option.map_map]
    rfl

theorem unescape_short {e : UInt8} {c : Char} (hu : e ≠ byte 'u') (h : shortEscape? e = some c)
    (s : List UInt8) :
    unescape (byte '\\' :: e :: s) = (unescape s).map (Utf8.encodeChar c ++ ·) := by
  rw [unescape.eq_def]
  simp only [hu, h, if_true, if_false]

theorem unescape_unicode {h1 h2 h3 h4 : UInt8} {n : Nat} (h : codeUnit? h1 h2 h3 h4 = some n)
    (hn : n < 0xD800) (s : List UInt8) :
    unescape (byte '\\' :: byte 'u' :: h1 :: h2 :: h3 :: h4 :: s)
      = (unescape s).map (Utf8.encodeChar (Char.ofNat n) ++ ·) := by
  rw [unescape.eq_def]
  simp only [h, if_true]
  exact if_pos (Or.inl hn)

/-- Resolving the escapes of a written character gives its own bytes. -/
theorem unescape_quoteChar (c : Char) (s : List UInt8) :
    unescape (Utf8.encode (quoteChar c) ++ s)
      = (unescape s).map (Utf8.encodeChar c ++ ·) := by
  obtain ⟨e, he, -, hu, hc⟩ | ⟨hc, hw⟩ | ⟨hw, hq, hb, hc⟩ := quoteChar_cases c
  · rw [he]
    exact unescape_short hu hc s
  · obtain ⟨h3, h4, he, hcode, -, -⟩ := codeUnit?_hexByte hc
    rw [hw, he]
    -- a control character is no half of a surrogate pair
    have := unescape_unicode hcode (by omega) s
    rwa [Char.ofNat_toNat] at this
  · rw [hw, Utf8.encode_cons, Utf8.encode_nil, List.append_nil]
    exact unescape_plain (fun b hm => (plain_of_mem_encodeChar hq hb hc hm).2.1) s

/-- **Resolving the escapes of a written text gives the text.** -/
theorem textOfBody?_quotedBody (s : String) : textOfBody? (quotedBody s) = some s := by
  have key : ∀ cs : List Char, unescape (Utf8.encode (cs.flatMap quoteChar))
      = some (Utf8.encode cs) := by
    intro cs
    induction cs with
    | nil => rfl
    | cons c cs ih =>
      rw [List.flatMap_cons, Utf8.encode_append, unescape_quoteChar, ih, Utf8.encode_cons]
      rfl
  rw [textOfBody?, quotedBody, key]
  exact Utf8.string?_ofString s

end BearerBridge.Json
