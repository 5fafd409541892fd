/-
# Visible texts

A text of visible ASCII characters passes through a header as it is: each character is one byte
that a header value may hold and that reads as that character, and none of them is a blank.
Whatever spells bytes in the URL-safe alphabet is such a text.

* `isSome_bits?_of_decode` : base64 is accepted only when every byte of it is a symbol;
* `isVisibleText_of_segmentBytes?` : a segment that spells bytes is visible;
* `valueText?_eq_some_iff` : which texts are read off header values;
* `trim_of_visible` : trimming leaves a visible text alone.
-/
import BearerBridge.Http.Message
import BearerBridge.Proofs.Outcome
import BearerBridge.Proofs.Text.Bytes
import BearerBridge.Token.Compact

namespace BearerBridge

/-! ## Visible characters -/

/-- A character of ASCII that shows: neither a space nor a control character. -/
def IsVisible (c : Char) : Prop := 0x21 ≤ c.toNat ∧ c.toNat ≤ 0x7E

instance (c : Char) : Decidable (IsVisible c) :=
  inferInstanceAs (Decidable (0x21 ≤ c.toNat ∧ c.toNat ≤ 0x7E))

/-- A text of visible characters only. -/
def IsVisibleText (s : String) : Prop := ∀ c ∈ s.toList, IsVisible c

theorem IsVisible.blank_eq_false {c : Char} (h : IsVisible c) : Blank c = false := by
  obtain ⟨hlow, hhigh⟩ := h
  unfold Blank
  generalize c.toNat = n at hlow hhigh
  simp only [Bool.or_eq_false_iff, Bool.and_eq_false_iff, decide_eq_false_iff_not,
    beq_eq_false_iff_ne]
  omega

theorem isVisibleText_empty : IsVisibleText "" :=
  fun _ hc => absurd hc (by simp)

theorem IsVisibleText.append {s t : String} (hs : IsVisibleText s) (ht : IsVisibleText t) :
    IsVisibleText (s ++ t) := by
  intro c hc
  rw [String.toList_append] at hc
  rcases List.mem_append.1 hc with hc | hc
  · exact hs c hc
  · exact ht c hc

/-! ## What spells bytes is visible -/

namespace Base64

variable {v : Variant}

theorem isSome_bits?_of_bits {k n : Nat} {b : UInt8} (h : v.bits k b = .ok n) :
    (v.bits? b).isSome := by
  rw [Variant.bits] at h
  split at h
  · next hb => simp [hb]
  · exact absurd h (by simp)

/-- A last quad that ends without padding holds symbols only. -/
theorem isSome_bits?_of_lastQuad {k seen : Nat} {bs : List UInt8} {symbols : List (UInt8 × Nat)}
    (h : lastQuad v k seen bs = .ok (symbols, 0)) : ∀ b ∈ bs, (v.bits? b).isSome := by
  induction bs generalizing seen symbols with
  | nil => exact fun b hb => absurd hb List.not_mem_nil
  | cons a bs ih =>
    rw [lastQuad] at h
    split at h
    · -- padding is refused, or it is counted
      split at h
      · exact absurd h (by simp)
      · split at h <;> exact absurd h (by simp)
    · simp only [bind_eq_ok_iff, pure, Except.pure, Except.ok.injEq, Prod.mk.injEq] at h
      obtain ⟨n, hn, ⟨more, fill⟩, hmore, -, rfl⟩ := h
      intro b hb
      rcases List.mem_cons.1 hb with rfl | hb
      · exact isSome_bits?_of_bits hn
      · exact ih hmore b hb

/-- Without padding, a last quad is accepted only when it holds symbols only. -/
theorem isSome_bits?_of_decodeLast (hv : v.padded = false) {k : Nat} {bs out : List UInt8}
    (h : decodeLast v k bs = .ok out) : ∀ b ∈ bs, (v.bits? b).isSome := by
  rw [decodeLast, bind_eq_ok_iff] at h
  obtain ⟨⟨symbols, fill⟩, hquad, h⟩ := h
  have hfill : fill = 0 := by
    refine Decidable.not_not.1 fun hne => ?_
    simp only [hv, Bool.false_eq_true, if_false, ne_eq, hne, not_false_eq_true, if_true, throw,
      throwThe, MonadExceptOf.throw, bind, Except.bind] at h
    split at h <;> exact absurd h (by simp)
  exact isSome_bits?_of_lastQuad (hfill ▸ hquad)

theorem isSome_bits?_of_decodeFrom (hv : v.padded = false) {k : Nat} {bs out : List UInt8}
    (h : decodeFrom v k bs = .ok out) : ∀ b ∈ bs, (v.bits? b).isSome := by
  fun_induction decodeFrom v k bs generalizing out with
  | case1 k a b c d e rest ih =>
    simp only [bind_eq_ok_iff] at h
    obtain ⟨_, ha, _, hb, _, hc, _, hd, more, hmore, -⟩ := h
    intro s hs
    simp only [List.mem_cons] at hs
    rcases hs with rfl | rfl | rfl | rfl | hs
    · exact isSome_bits?_of_bits ha
    · exact isSome_bits?_of_bits hb
    · exact isSome_bits?_of_bits hc
    · exact isSome_bits?_of_bits hd
    · exact ih hmore s (List.mem_cons.2 hs)
  | case2 => exact fun b hb => absurd hb List.not_mem_nil
  | case3 k last _ _ => exact isSome_bits?_of_decodeLast hv h

/-- **Without padding, base64 is accepted only when every byte of it is a symbol.** -/
theorem isSome_bits?_of_decode (hv : v.padded = false) {bs out : List UInt8}
    (h : decode v bs = .ok out) : ∀ b ∈ bs, (v.bits? b).isSome := by
  rw [decode] at h
  split at h
  · split at h
    · exact absurd h (by simp)
    · exact isSome_bits?_of_decodeFrom hv h
  · exact isSome_bits?_of_decodeFrom hv h

/-- The symbols of the URL-safe alphabet show. -/
theorem toNat_of_isSome_bits?_url {b : UInt8} (h : (url.bits? b).isSome) :
    0x21 ≤ b.toNat ∧ b.toNat ≤ 0x7E := by
  have hdash : (Ascii.byte url.sixtyTwo).toNat = 0x2D := by decide
  have hline : (Ascii.byte url.sixtyThree).toNat = 0x5F := by decide
  unfold Variant.bits? at h
  dsimp only at h
  split at h
  · omega
  split at h
  · omega
  split at h
  · omega
  split at h
  · next hb =>
    rw [hb, hdash]
    omega
  split at h
  · next hb =>
    rw [hb, hline]
    omega
  · exact absurd h (by simp)

end Base64

/-- A text is visible when its bytes are. -/
theorem isVisibleText_of_bytes {s : String}
    (h : ∀ b ∈ Utf8.ofString s, 0x21 ≤ b.toNat ∧ b.toNat ≤ 0x7E) : IsVisibleText s := by
  intro c hc
  have hbytes : ∀ b ∈ Utf8.encodeChar c, 0x21 ≤ b.toNat ∧ b.toNat ≤ 0x7E := by
    intro b hb
    exact h b (List.mem_flatMap.2 ⟨c, hc, hb⟩)
  by_cases hascii : c.toNat < 0x80
  · rw [Utf8.encodeChar_ascii hascii] at hbytes
    have hb := hbytes _ (List.mem_singleton_self _)
    rwa [Ascii.toNat_byte hascii] at hb
  · -- every other character has a byte, and all its bytes are high
    obtain ⟨b, hb⟩ := List.exists_mem_of_length_pos (Utf8.length_encodeChar_pos c)
    have hhigh := Utf8.high_of_mem_encodeChar (Nat.le_of_not_lt hascii) hb
    have hlow := hbytes b hb
    omega

/-- **A segment that spells bytes is visible.** -/
theorem isVisibleText_of_segmentBytes? {s : String} {bs : List UInt8}
    (h : segmentBytes? s = some bs) : IsVisibleText s := by
  rw [segmentBytes?, Base64.decode?, toOption_eq_some_iff] at h
  apply isVisibleText_of_bytes
  intro b hb
  exact Base64.toNat_of_isSome_bits?_url (Base64.isSome_bits?_of_decode rfl h b hb)

/-! ## Visible texts in headers -/

namespace Http

variable {s : String}

/-- A printable text is carried with one byte for each of its characters. -/
theorem ofString_of_printable (h : ∀ c ∈ s.toList, 0x20 ≤ c.toNat ∧ c.toNat ≤ 0x7E) :
    Utf8.ofString s = s.toList.map Ascii.byte :=
  Utf8.encode_of_ascii fun c hc => by
    have := h c hc
    omega

/-- The bytes of a printable text are printable. -/
theorem toNat_of_mem_ofString (h : ∀ c ∈ s.toList, 0x20 ≤ c.toNat ∧ c.toNat ≤ 0x7E) {b : UInt8}
    (hb : b ∈ Utf8.ofString s) : 0x20 ≤ b.toNat ∧ b.toNat ≤ 0x7E := by
  rw [ofString_of_printable h, List.mem_map] at hb
  obtain ⟨c, hc, rfl⟩ := hb
  have hrange := h c hc
  rw [Ascii.toNat_byte (by omega)]
  exact hrange

/-- A header value may hold a printable text. -/
theorem all_isValueByte (h : ∀ c ∈ s.toList, 0x20 ≤ c.toNat ∧ c.toNat ≤ 0x7E) :
    (Utf8.ofString s).all isValueByte = true := by
  rw [List.all_eq_true]
  intro b hb
  obtain ⟨hlow, hhigh⟩ := toNat_of_mem_ofString h hb
  have hdel : b ≠ 0x7F := fun e => by
    rw [e] at hhigh
    exact absurd hhigh (by decide)
  have hle : (0x20 : UInt8) ≤ b := UInt8.le_iff_toNat_le.2 hlow
  simp [isValueByte, hdel, hle]

/-- A character that is read in the value of a header: it is printable, or a tab. -/
def IsReadable (c : Char) : Prop := (0x20 ≤ c.toNat ∧ c.toNat ≤ 0x7E) ∨ c = '\t'

theorem IsReadable.toNat_lt {c : Char} (h : IsReadable c) : c.toNat < 0x80 := by
  rcases h with ⟨-, hhigh⟩ | rfl
  · omega
  · decide

/-- The bytes that are read are those of the characters that are read. -/
theorem isTextByte_iff {b : UInt8} :
    isTextByte b = true ↔ b.toNat < 0x80 ∧ IsReadable (Ascii.char b) := by
  have htab : b = 0x09 ↔ b.toNat = 0x09 := UInt8.toNat_inj.symm
  have htabChar : ∀ c : Char, c = '\t' ↔ c.toNat = 0x09 := by
    intro c
    constructor
    · rintro rfl
      rfl
    · intro h
      rw [← Char.ofNat_toNat c, h]
  have hword : isTextByte b = true ↔ (0x20 ≤ b.toNat ∧ b.toNat ≤ 0x7E) ∨ b.toNat = 0x09 := by
    rw [isTextByte, Bool.or_eq_true, Bool.and_eq_true, decide_eq_true_eq, decide_eq_true_eq,
      beq_iff_eq, htab, UInt8.le_iff_toNat_le, UInt8.le_iff_toNat_le]
    rfl
  rw [hword, IsReadable, htabChar]
  constructor
  · intro h
    rw [Ascii.toNat_char (by omega)]
    exact ⟨by omega, h⟩
  · rintro ⟨hlow, h⟩
    rw [Ascii.toNat_char hlow] at h
    exact h

/-- **Which texts are read off header values**: those of readable characters, off the value that
has one byte for each of them. -/
theorem valueText?_eq_some_iff {v : List UInt8} :
    valueText? v = some s ↔ v = Utf8.ofString s ∧ ∀ c ∈ s.toList, IsReadable c := by
  rw [valueText?]
  constructor
  · intro h
    split at h
    · next htext =>
      obtain rfl := Option.some.inj h
      rw [List.all_eq_true] at htext
      rw [Utf8.ofString, String.toList_ofList]
      refine ⟨(Ascii.encode_map_char fun b hb => (isTextByte_iff.1 (htext b hb)).1).symm, ?_⟩
      intro c hc
      obtain ⟨b, hb, rfl⟩ := List.mem_map.1 hc
      exact (isTextByte_iff.1 (htext b hb)).2
    · exact absurd h (by simp)
  · rintro ⟨rfl, hread⟩
    have hascii : ∀ c ∈ s.toList, c.toNat < 0x80 := fun c hc => (hread c hc).toNat_lt
    have hbytes : Utf8.ofString s = s.toList.map Ascii.byte := Utf8.encode_of_ascii hascii
    have htext : ∀ b ∈ Utf8.ofString s, isTextByte b = true := by
      intro b hb
      rw [hbytes, List.mem_map] at hb
      obtain ⟨c, hc, rfl⟩ := hb
      rw [isTextByte_iff, Ascii.toNat_byte (hascii c hc), Ascii.char_byte (hascii c hc)]
      exact ⟨hascii c hc, hread c hc⟩
    have hchars : (Utf8.ofString s).map Ascii.char = s.toList := by
      rw [hbytes, List.map_map]
      conv => rhs; rw [← List.map_id s.toList]
      apply List.map_congr_left
      intro c hc
      exact Ascii.char_byte (hascii c hc)
    rw [if_pos (List.all_eq_true.2 htext), hchars, String.ofList_toList]

/-- A printable text reads back from a header value. -/
theorem valueText?_ofString (h : ∀ c ∈ s.toList, 0x20 ≤ c.toNat ∧ c.toNat ≤ 0x7E) :
    valueText? (Utf8.ofString s) = some s :=
  valueText?_eq_some_iff.2 ⟨rfl, fun c hc => Or.inl (h c hc)⟩

end Http

/-! ## Visible texts between blanks -/

theorem dropWhile_blank_of_visible {cs : List Char} (h : ∀ c ∈ cs, IsVisible c) :
    cs.dropWhile Blank = cs := by
  cases cs with
  | nil => rfl
  | cons c cs =>
    have hc := (h c List.mem_cons_self).blank_eq_false
    exact List.dropWhile_cons_of_neg (ne_true_of_eq_false hc)

/-- **Trimming leaves a visible text alone.** -/
theorem trim_of_visible {s : String} (h : IsVisibleText s) : trim s = s := by
  have hback : ∀ c ∈ s.toList.reverse, IsVisible c := fun c hc => h c (List.mem_reverse.1 hc)
  rw [trim, trimChars, dropWhile_blank_of_visible h, trimEnd, dropWhile_blank_of_visible hback,
    List.reverse_reverse, String.ofList_toList]

end BearerBridge
