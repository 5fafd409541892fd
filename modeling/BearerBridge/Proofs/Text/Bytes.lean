/-
# The bytes of texts

What the bytes of a character say about the character: an ASCII character is its own byte, and
every other character has bytes beyond ASCII only.  A list of ASCII bytes is therefore the
same list whether it is seen as bytes or as characters.  The bytes of a text are those that a string
is made of, so the size of a text is that of the string.

* `toByteArray_ofString`, `length_ofString` : the bytes of a text are those of the string;
* `high_of_mem_encodeChar` : outside ASCII every byte has its high bit set;
* `encode_map_char` : ASCII bytes, seen as characters and written, are themselves.
-/
import BearerBridge.Text.Ascii
import BearerBridge.Text.Utf8

namespace BearerBridge

namespace Utf8

/-- **A character has the bytes that it has in a string.** -/
theorem encodeChar_eq (c : Char) : encodeChar c = String.utf8EncodeChar c := by
  have hbound := charToNat_bound c
  have hval : c.val.toNat = c.toNat := rfl
  rw [encodeChar, String.utf8EncodeChar, hval]
  generalize c.toNat = n at hbound
  -- the bounds of the two tables are the same, and no lead byte overflows within them
  split
  · rw [if_pos (show n ≤ 0x7F by omega)]
  rw [if_neg (show ¬ n ≤ 0x7F by omega)]
  split
  · rw [if_pos (show n ≤ 0x7FF by omega), Nat.mod_eq_of_lt (show n / 0x40 < 0x20 by omega),
      Nat.add_comm 0xC0, Nat.add_comm 0x80]
  rw [if_neg (show ¬ n ≤ 0x7FF by omega)]
  split
  · rw [if_pos (show n ≤ 0xFFFF by omega), Nat.mod_eq_of_lt (show n / 0x1000 < 0x10 by omega),
      Nat.add_comm 0xE0, Nat.add_comm 0x80, Nat.add_comm 0x80]
  · rw [if_neg (show ¬ n ≤ 0xFFFF by omega), Nat.mod_eq_of_lt (show n / 0x40000 < 0x8 by omega),
      Nat.add_comm 0xF0, Nat.add_comm 0x80, Nat.add_comm 0x80, Nat.add_comm 0x80]

/-- **The bytes of a text are those of the string.** -/
theorem toByteArray_ofString (s : String) : (ofString s).toByteArray = s.toByteArray := by
  have hchars : encodeChar = String.utf8EncodeChar := funext encodeChar_eq
  rw [ofString, encode, hchars, ← List.utf8Encode, ← String.toByteArray_ofList,
    String.ofList_toList]

theorem length_ofString (s : String) : (ofString s).length = s.utf8ByteSize := by
  rw [← List.size_toByteArray, toByteArray_ofString, String.size_toByteArray]

/-- A character of ASCII is its own byte. -/
theorem encodeChar_ascii {c : Char} (h : c.toNat < 0x80) : encodeChar c = [Ascii.byte c] := by
  rw [encodeChar]
  exact if_pos h

/-- **Outside ASCII every byte has its high bit set.** -/
theorem high_of_mem_encodeChar {c : Char} (h : 0x80 ≤ c.toNat) {b : UInt8}
    (hb : b ∈ encodeChar c) : 0x80 ≤ b.toNat := by
  have hc := charToNat_bound c
  have key : ∀ n, 0x80 ≤ n → n < 0x100 → 0x80 ≤ (UInt8.ofNat n).toNat := by
    intro n hn hlt
    rw [toNat_ofNat_of_lt hlt]
    exact hn
  unfold encodeChar at hb
  dsimp only at hb
  rw [if_neg (by omega)] at hb
  split at hb
  · simp only [List.mem_cons, List.not_mem_nil, or_false] at hb
    rcases hb with rfl | rfl <;> exact key _ (by omega) (by omega)
  split at hb
  · simp only [List.mem_cons, List.not_mem_nil, or_false] at hb
    rcases hb with rfl | rfl | rfl <;> exact key _ (by omega) (by omega)
  · simp only [List.mem_cons, List.not_mem_nil, or_false] at hb
    rcases hb with rfl | rfl | rfl | rfl <;> exact key _ (by omega) (by omega)

/-- A character has at least one byte. -/
theorem length_encodeChar_pos (c : Char) : 0 < (encodeChar c).length := by
  unfold encodeChar
  dsimp only
  split
  · simp
  split
  · simp
  split <;> simp

/-- A text has at least as many bytes as characters. -/
theorem length_le_encode (cs : List Char) : cs.length ≤ (encode cs).length := by
  induction cs with
  | nil => simp
  | cons c cs ih =>
    have hc := length_encodeChar_pos c
    rw [encode_cons, List.length_append, List.length_cons]
    omega

/-- A text of ASCII has one byte for each character. -/
theorem encode_of_ascii {cs : List Char} (h : ∀ c ∈ cs, c.toNat < 0x80) :
    encode cs = cs.map Ascii.byte := by
  induction cs with
  | nil => rfl
  | cons c cs ih =>
    rw [encode_cons, encodeChar_ascii (h c List.mem_cons_self),
      ih fun d hd => h d (List.mem_cons_of_mem _ hd)]
    rfl

end Utf8

namespace Ascii

theorem toNat_byte {c : Char} (h : c.toNat < 0x80) : (byte c).toNat = c.toNat :=
  Utf8.toNat_ofNat_of_lt (by omega)

/-- The byte of an ASCII character stands for that character. -/
theorem char_byte {c : Char} (h : c.toNat < 0x80) : char (byte c) = c := by
  rw [char, toNat_byte h, Char.ofNat_toNat]

/-- The character of an ASCII byte has its number. -/
theorem toNat_char {b : UInt8} (h : b.toNat < 0x80) : (char b).toNat = b.toNat := by
  have hvalid : b.toNat.isValidChar := Or.inl (by omega)
  rw [char, Char.ofNat, dif_pos hvalid]
  rfl

/-- The character of an ASCII byte has that byte. -/
theorem encodeChar_char {b : UInt8} (h : b.toNat < 0x80) : Utf8.encodeChar (char b) = [b] := by
  have hn := toNat_char h
  rw [Utf8.encodeChar_ascii (by omega), byte, hn, UInt8.ofNat_toNat]

/-- **ASCII bytes, seen as characters and written, are themselves.** -/
theorem encode_map_char {bs : List UInt8} (h : ∀ b ∈ bs, b.toNat < 0x80) :
    Utf8.encode (bs.map char) = bs := by
  induction bs with
  | nil => rfl
  | cons b bs ih =>
    rw [List.map_cons, Utf8.encode_cons, encodeChar_char (h b (by simp)),
      ih (fun x hx => h x (by simp [hx]))]
    rfl

end Ascii

end BearerBridge
