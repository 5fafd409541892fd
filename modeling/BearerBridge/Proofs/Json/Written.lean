/-
# Written JSON reads back

The bridge writes three kinds of values: texts, lists of texts and integers of 64 bits.  An
object of such values is read back with the same members in the same order.

Reading goes through trees.  Each value is given the tree that it is written as, the tree is
found whatever follows it, and the meaning of the tree is the value again.

* `readNumeral_integerText` : an integer is read up to the delimiter that follows it;
* `IsPlain.exists_tree` : a value of one of the three kinds is written as a tree that means it;
* `read?_objectChars` : an object of such values reads back.
-/
import BearerBridge.Json.Record
import BearerBridge.Proofs.Json.Quoted

namespace BearerBridge.Json

open Ascii (byte)

/-! ## Delimiters -/

/-- What may follow a value inside an array or an object. -/
def IsDelimiter (b : UInt8) : Prop :=
  b = byte ',' ∨ b = byte ']' ∨ b = byte '}'

/-- A delimiter ends a run of digits, and it begins neither a fraction nor an exponent. -/
theorem IsDelimiter.ends_number {b : UInt8} (h : IsDelimiter b) :
    digit? b = none ∧ b ≠ byte '.' ∧ ¬ (b = byte 'e' ∨ b = byte 'E') := by
  rcases h with rfl | rfl | rfl <;> decide

/-! ## Digits -/

/-- The values of decimal digits. -/
def digitValues (ds : List Char) : List Nat :=
  ds.map (fun c => c.toNat - '0'.toNat)

/-- A decimal digit is one byte, which is read as its value. -/
theorem digit?_of_isDigit {c : Char} (h : c.isDigit = true) :
    Utf8.encodeChar c = [byte c] ∧ digit? (byte c) = some (c.toNat - '0'.toNat) := by
  simp only [Char.isDigit, Bool.and_eq_true, decide_eq_true_eq, ge_iff_le,
    UInt32.le_iff_toNat_le] at h
  change 48 ≤ c.toNat ∧ c.toNat ≤ 57 at h
  have hb : (byte c).toNat = c.toNat := Ascii.toNat_byte (by omega)
  refine ⟨Utf8.encodeChar_ascii (by omega), ?_⟩
  rw [digit?, if_pos, hb]
  · rfl
  · rw [UInt8.le_iff_toNat_le, UInt8.le_iff_toNat_le, hb]
    exact h

/-- A run of digits is read up to the first byte that is none. -/
theorem digits_encode {ds : List Char} (h : ∀ c ∈ ds, c.isDigit = true) {b : UInt8}
    (hb : digit? b = none) (s : List UInt8) :
    digits (Utf8.encode ds ++ b :: s) = (digitValues ds, b :: s) := by
  induction ds with
  | nil =>
    rw [Utf8.encode_nil, List.nil_append, digits, hb]
    rfl
  | cons c ds ih =>
    obtain ⟨he, hd⟩ := digit?_of_isDigit (h c (by simp))
    rw [Utf8.encode_cons, he, List.append_assoc, List.singleton_append, digits, hd,
      ih (fun x hx => h x (by simp [hx]))]
    rfl

/-- A number is at least what its first digits make. -/
theorem le_ofDigitChars (ds : List Char) (k : Nat) : k ≤ Nat.ofDigitChars 10 ds k := by
  induction ds generalizing k with
  | nil => simp
  | cons c ds ih =>
    rw [Nat.ofDigitChars_cons]
    have := ih (10 * k + (c.toNat - '0'.toNat))
    omega

/-- Digits of a number that fits into 64 bits are all taken into the significand. -/
theorem takeDigits_digitValues {ds : List Char} {k : Nat}
    (h : Nat.ofDigitChars 10 ds k < UInt64.size) :
    takeDigits k (digitValues ds) = (Nat.ofDigitChars 10 ds k, []) := by
  induction ds generalizing k with
  | nil => simp [digitValues, takeDigits]
  | cons c ds ih =>
    rw [Nat.ofDigitChars_cons, Nat.mul_comm] at h ⊢
    -- what the digits so far make is no more than the whole number, so it fits as well
    have hle := le_ofDigitChars ds (k * 10 + (c.toNat - '0'.toNat))
    rw [digitValues, List.map_cons, takeDigits, if_pos (by omega)]
    exact ih h

/-- The decimal digits of a positive number start with none that is zero. -/
theorem exists_toDigits {n : Nat} (h : 0 < n) :
    ∃ d ds, Nat.toDigits 10 n = Nat.digitChar d :: ds ∧ 0 < d ∧ d < 10 := by
  induction n using Nat.strongRecOn with
  | _ n ih =>
    rw [Nat.toDigits_eq_if (by omega)]
    split
    · next hlt => exact ⟨n, [], rfl, h, hlt⟩
    · -- the first digit is that of a tenth of the number
      next hge =>
      obtain ⟨d, ds, hd, hpos, hlt⟩ := ih (n / 10) (by omega) (by omega)
      exact ⟨d, ds ++ [Nat.digitChar (n % 10)], by rw [hd]; rfl, hpos, hlt⟩

/-! ## Integers -/

/-- An integer as it is written. -/
def Numeral.ofInt (n : Int) : Numeral :=
  ⟨decide (n < 0), digitValues (Nat.toDigits 10 n.natAbs), [], none⟩

/-- The digits before the point are those of the number: a leading zero stands alone. -/
theorem readWhole_toDigits (n : Nat) {b : UInt8} (hb : digit? b = none) (s : List UInt8) :
    readWhole (Utf8.encode (Nat.toDigits 10 n) ++ b :: s)
      = some (digitValues (Nat.toDigits 10 n), b :: s) := by
  have hdigits : ∀ c ∈ Nat.toDigits 10 n, c.isDigit = true := fun c hc =>
    Nat.isDigit_of_mem_toDigits (by omega) (by omega) hc
  rw [readWhole, digits_encode hdigits hb]
  by_cases h : 0 < n
  · obtain ⟨d, ds, hd, hpos, hlt⟩ := exists_toDigits h
    have hv : digitValues (Nat.toDigits 10 n) = d :: digitValues ds := by
      rw [hd, digitValues, List.map_cons]
      exact congrArg (· :: digitValues ds) (Nat.toNat_digitChar_sub_48_of_lt_ten hlt)
    rw [hv]
    cases d with
    | zero => omega
    | succ d => rfl
  · obtain rfl : n = 0 := by omega
    rfl

theorem readUnsigned_toDigits (negative : Bool) (n : Nat) {b : UInt8} (h : IsDelimiter b)
    (s : List UInt8) :
    readUnsigned negative (Utf8.encode (Nat.toDigits 10 n) ++ b :: s)
      = some (⟨negative, digitValues (Nat.toDigits 10 n), [], none⟩, b :: s) := by
  obtain ⟨hd, hp, he⟩ := h.ends_number
  have hfraction : readFraction (b :: s) = some ([], b :: s) := by
    rw [readFraction, if_neg hp]
  have hexponent : readExponent (b :: s) = some (none, b :: s) := by
    rw [readExponent, if_neg he]
  simp only [readUnsigned, readWhole_toDigits n hd, Option.bind_eq_bind, Option.bind_some,
    hfraction, hexponent]
  rfl

/-- The first byte of a written number is a digit. -/
theorem exists_encode_toDigits (n : Nat) :
    ∃ d s, d < 10 ∧ Utf8.encode (Nat.toDigits 10 n) = byte (Nat.digitChar d) :: s := by
  by_cases h : 0 < n
  · obtain ⟨d, ds, hd, -, hlt⟩ := exists_toDigits h
    have hdigit : (Nat.digitChar d).isDigit = true :=
      Nat.isDigit_of_mem_toDigits (n := n) (b := 10) (by omega) (by omega) (by simp [hd])
    rw [hd, Utf8.encode_cons, (digit?_of_isDigit hdigit).1]
    exact ⟨d, _, hlt, rfl⟩
  · obtain rfl : n = 0 := by omega
    exact ⟨0, _, by omega, rfl⟩

/-- The first byte of a written integer is a minus sign or a digit. -/
theorem exists_encode_integerText (n : Int) :
    ∃ b s, Utf8.encode (integerText n) = b :: s
      ∧ (b = byte '-' ∨ ∃ d < 10, b = byte (Nat.digitChar d)) := by
  rw [integerText]
  split
  · exact ⟨byte '-', _, Utf8.encode_cons _ _, Or.inl rfl⟩
  · obtain ⟨d, s, hd, hs⟩ := exists_encode_toDigits n.natAbs
    exact ⟨_, s, hs, Or.inr ⟨d, hd, rfl⟩⟩

/-- **A written integer is read up to the delimiter that follows it.** -/
theorem readNumeral_integerText (n : Int) {b : UInt8} (h : IsDelimiter b) (s : List UInt8) :
    readNumeral (Utf8.encode (integerText n) ++ b :: s) = some (Numeral.ofInt n, b :: s) := by
  rw [integerText, Numeral.ofInt]
  split
  · next hn =>
    rw [Utf8.encode_cons, decide_eq_true hn]
    exact readUnsigned_toDigits true n.natAbs h s
  · next hn =>
    have hread := readUnsigned_toDigits false n.natAbs h s
    -- without a sign the first byte is a digit, which is not taken for a minus sign
    obtain ⟨d, t, hd, ht⟩ := exists_encode_toDigits n.natAbs
    have hminus : ∀ d < 10, byte (Nat.digitChar d) ≠ byte '-' := by decide
    rw [decide_eq_false hn]
    rw [ht, List.cons_append] at hread ⊢
    rw [readNumeral, if_neg (hminus d hd), hread]

/-- An integer of 64 bits means itself. -/
theorem number?_ofInt {n : Int} (hl : Int64.minValue.toInt ≤ n) (hu : n ≤ Int64.maxValue.toInt) :
    (Numeral.ofInt n).number? = some (.integer n) := by
  rw [Int64.toInt_minValue] at hl
  rw [Int64.toInt_maxValue] at hu
  have hsize : UInt64.size = 2 ^ 64 := rfl
  have hvalue : Nat.ofDigitChars 10 (Nat.toDigits 10 n.natAbs) 0 = n.natAbs :=
    Nat.ofDigitChars_ten_toDigits
  have htake : takeDigits 0 (digitValues (Nat.toDigits 10 n.natAbs)) = (n.natAbs, []) := by
    rw [takeDigits_digitValues (by omega), hvalue]
  rw [Numeral.number?, Numeral.ofInt]
  dsimp only
  rw [htake, if_pos]
  · by_cases hn : n < 0
    · rw [decide_eq_true hn, if_pos rfl, show -(n.natAbs : Int) = n by omega]
    · rw [decide_eq_false hn, if_neg Bool.false_ne_true, show (n.natAbs : Int) = n by omega]
  · refine ⟨rfl, rfl, rfl, ?_⟩
    by_cases hn : n < 0
    · rw [Int64.toInt_minValue]
      exact Or.inr ⟨by dsimp only; omega, by dsimp only; omega⟩
    · exact Or.inl (decide_eq_false hn)

/-! ## Values -/

/-- The values that the bridge writes: texts, lists of texts and integers of 64 bits. -/
inductive Value.IsPlain : Value → Prop
  | text (s : String) : IsPlain (.text s)
  | texts (ss : List String) : IsPlain (.array (ss.map .text))
  | integer (n : Int64) : IsPlain (.number (.integer n.toInt))

/-- The members of a header, and those that tell a client what went wrong, are texts. -/
theorem isPlain_of_mem_texts {name name' text text' : String} :
    ∀ m ∈ [(name, Value.text text), (name', .text text')], m.2.IsPlain := by
  intro m hm
  rw [List.mem_cons, List.mem_singleton] at hm
  rcases hm with rfl | rfl <;> exact .text _

theorem skipBlank_cons {b : UInt8} (h : isBlankByte b = false) (s : List UInt8) :
    skipBlank (b :: s) = b :: s := by
  rw [skipBlank, List.dropWhile_cons, h]
  rfl

/-- A written text starts with a quote and goes on to the closing one. -/
theorem encode_quote (s : String) (rest : List UInt8) :
    Utf8.encode (quote s) ++ rest = byte '"' :: (quotedBody s ++ byte '"' :: rest) := by
  rw [quote, List.cons_append, Utf8.encode_cons, Utf8.encode_append, quotedBody]
  simp only [List.append_assoc]
  rfl

theorem readTree_text (fuel : Nat) (s : String) (rest : List UInt8) :
    readTree (fuel + 1) (Utf8.encode (quote s) ++ rest) = some (.text (quotedBody s), rest) := by
  rw [encode_quote, readTree, skipBlank_cons (by decide)]
  simp only [show byte '"' ≠ byte '{' by decide, show byte '"' ≠ byte '[' by decide, if_false,
    if_true, readBody_quotedBody]
  rfl

theorem readTree_integer (fuel : Nat) (n : Int) {b : UInt8} (h : IsDelimiter b)
    (s : List UInt8) :
    readTree (fuel + 1) (Utf8.encode (integerText n) ++ b :: s)
      = some (.number (Numeral.ofInt n), b :: s) := by
  have hread := readNumeral_integerText n h s
  obtain ⟨c, t, ht, hc⟩ := exists_encode_integerText n
  have hfirst : isBlankByte c = false ∧ c ≠ byte '{' ∧ c ≠ byte '[' ∧ c ≠ byte '"'
      ∧ c ≠ byte 'n' ∧ c ≠ byte 't' ∧ c ≠ byte 'f' := by
    rcases hc with rfl | ⟨d, hd, rfl⟩
    · decide
    · clear ht hread
      revert d
      decide
  obtain ⟨hblank, h1, h2, h3, h4, h5, h6⟩ := hfirst
  rw [ht, List.cons_append] at hread ⊢
  rw [readTree, skipBlank_cons hblank]
  simp only [h1, h2, h3, h4, h5, h6, if_false, hread]
  rfl

/-! ## Lists of texts -/

theorem itemChars_eq_map (vs : List Value) : itemChars vs = vs.map Value.chars := by
  induction vs with
  | nil => rfl
  | cons v vs ih => rw [itemChars, ih, List.map_cons]

theorem commaSeparated_cons_cons (x y : List Char) (xs : List (List Char)) :
    commaSeparated (x :: y :: xs) = x ++ ',' :: commaSeparated (y :: xs) := rfl

/-- The items of a list of texts are read one after the other up to the closing bracket. -/
theorem readItems_texts (ss : List String) (s : String) (fuel : Nat) (rest : List UInt8)
    (hfuel : ss.length + 2 ≤ fuel) :
    readItems fuel
        (Utf8.encode (commaSeparated (itemChars ((s :: ss).map .text))) ++ byte ']' :: rest)
      = some ((s :: ss).map (fun s => .text (quotedBody s)), rest) := by
  induction ss generalizing s fuel with
  | nil =>
    rw [List.length_nil] at hfuel
    obtain ⟨fuel, rfl⟩ : ∃ k, fuel = k + 2 := ⟨fuel - 2, by omega⟩
    simp only [List.map_cons, List.map_nil, itemChars, commaSeparated, Value.chars]
    rw [readItems, readTree_text]
    simp only [skipBlank_cons (show isBlankByte (byte ']') = false by decide),
      show byte ']' ≠ byte ',' by decide, if_false, if_true]
  | cons t ss ih =>
    rw [List.length_cons] at hfuel
    obtain ⟨fuel, rfl⟩ : ∃ k, fuel = k + 2 := ⟨fuel - 2, by omega⟩
    have hrest := ih t (fuel + 1) (by omega)
    simp only [List.map_cons, itemChars, commaSeparated_cons_cons, Value.chars,
      Utf8.encode_append, Utf8.encode_cons, List.append_assoc] at hrest ⊢
    rw [readItems, readTree_text]
    simp only [Utf8.encodeChar_ascii (show (',').toNat < 0x80 by decide), List.singleton_append,
      skipBlank_cons (show isBlankByte (byte ',') = false by decide), if_true]
    rw [hrest]
    rfl

theorem readTree_bracket (fuel : Nat) (t : List UInt8) :
    readTree (fuel + 1) (byte '[' :: t)
      = match after? [']'] (skipBlank t) with
        | some rest => some (.array [], rest)
        | none => (readItems fuel t).map (fun r => (.array r.1, r.2)) := by
  rw [readTree, skipBlank_cons (by decide)]
  rfl

theorem readTree_brace (fuel : Nat) (t : List UInt8) :
    readTree (fuel + 1) (byte '{' :: t)
      = match after? ['}'] (skipBlank t) with
        | some rest => some (.object [], rest)
        | none => (readMembers fuel t).map (fun r => (.object r.1, r.2)) := by
  rw [readTree, skipBlank_cons (by decide)]
  rfl

theorem readTree_texts (ss : List String) (fuel : Nat) (rest : List UInt8)
    (hfuel : ss.length + 1 ≤ fuel) :
    readTree (fuel + 1) (Utf8.encode (Value.array (ss.map .text)).chars ++ rest)
      = some (.array (ss.map (fun s => .text (quotedBody s))), rest) := by
  simp only [Value.chars, List.cons_append, Utf8.encode_cons, Utf8.encode_append,
    Utf8.encodeChar_ascii (show ('[').toNat < 0x80 by decide),
    Utf8.encodeChar_ascii (show (']').toNat < 0x80 by decide), Utf8.encode_nil, List.append_nil,
    List.nil_append, List.append_assoc]
  rw [readTree_bracket]
  cases ss with
  | nil => rfl
  | cons s ss =>
    rw [List.length_cons] at hfuel
    have hitems := readItems_texts ss s fuel rest (by omega)
    -- the first item starts with a quote, so the list is not taken for an empty one
    obtain ⟨u, hu⟩ : ∃ u, commaSeparated (itemChars ((s :: ss).map .text)) = quote s ++ u := by
      cases ss with
      | nil => exact ⟨[], (List.append_nil _).symm⟩
      | cons s' ss => exact ⟨_, rfl⟩
    rw [hu, Utf8.encode_append, List.append_assoc, encode_quote] at hitems ⊢
    rw [skipBlank_cons (by decide), hitems]
    rfl

theorem itemValues?_texts (depth : Nat) (ss : List String) :
    itemValues? depth (ss.map (fun s => .text (quotedBody s))) = some (ss.map .text) := by
  induction ss with
  | nil => rfl
  | cons s ss ih =>
    rw [List.map_cons, itemValues?, Tree.value?, textOfBody?_quotedBody, ih]
    rfl

theorem length_le_commaSeparated {xs : List (List Char)} (h : ∀ x ∈ xs, x ≠ []) :
    xs.length ≤ (commaSeparated xs).length := by
  induction xs with
  | nil => simp
  | cons x xs ih =>
    have hx := List.length_pos_iff.2 (h x (by simp))
    have hxs := ih (fun y hy => h y (by simp [hy]))
    cases xs with
    | nil => exact hx
    | cons y ys =>
      simp only [commaSeparated_cons_cons, List.length_append, List.length_cons] at hxs ⊢
      omega

/-- **A plain value is written as a tree that means it**, and the tree is found whatever
delimiter follows. -/
theorem Value.IsPlain.exists_tree {v : Value} (h : v.IsPlain) (depth : Nat) :
    ∃ t : Tree, t.value? (depth + 1) = some v
      ∧ ∀ fuel b s, IsDelimiter b → (Utf8.encode v.chars).length ≤ fuel →
        readTree fuel (Utf8.encode v.chars ++ b :: s) = some (t, b :: s) := by
  cases h with
  | text s =>
    refine ⟨.text (quotedBody s), by rw [Tree.value?, textOfBody?_quotedBody]; rfl, ?_⟩
    intro fuel b t _ hfuel
    obtain ⟨fuel, rfl⟩ : ∃ k, fuel = k + 1 := by
      refine ⟨fuel - 1, ?_⟩
      have := Utf8.length_le_encode (Value.text s).chars
      simp only [Value.chars, quote, List.length_append, List.length_cons] at this hfuel
      omega
    exact readTree_text fuel s (b :: t)
  | texts ss =>
    refine ⟨.array (ss.map (fun s => .text (quotedBody s))), ?_, ?_⟩
    · rw [Tree.value?, if_neg (by omega), Nat.add_sub_cancel, itemValues?_texts]
      rfl
    · intro fuel b t _ hfuel
      -- each item takes at least one byte, and so do the two brackets
      have hlength : ss.length + 2 ≤ fuel := by
        have hbytes := Utf8.length_le_encode (Value.array (ss.map .text)).chars
        have hitems : ((ss.map Value.text).map Value.chars).length
            ≤ (commaSeparated ((ss.map Value.text).map Value.chars)).length :=
          length_le_commaSeparated (by simp [Value.chars, quote])
        simp only [Value.chars, itemChars_eq_map, List.length_append, List.length_cons,
          List.length_nil, List.length_map] at hbytes hitems hfuel
        omega
      obtain ⟨fuel, rfl⟩ : ∃ k, fuel = k + 1 := ⟨fuel - 1, by omega⟩
      exact readTree_texts ss fuel (b :: t) (by omega)
  | integer n =>
    refine ⟨.number (Numeral.ofInt n.toInt), ?_, ?_⟩
    · rw [Tree.value?, number?_ofInt n.minValue_le_toInt n.toInt_le]
      rfl
    · intro fuel b s hb hfuel
      obtain ⟨c, t, ht, -⟩ := exists_encode_integerText n.toInt
      obtain ⟨fuel, rfl⟩ : ∃ k, fuel = k + 1 := by
        refine ⟨fuel - 1, ?_⟩
        simp only [Value.chars, Number.chars, ht, List.length_cons] at hfuel
        omega
      exact readTree_integer fuel n.toInt hb s

/-! ## Objects -/

/-- One step of reading members: a member with its delimiter. -/
theorem readMembers_member {fuel : Nat} {cs : List Char} {t : Tree} {b : UInt8} {s : List UInt8}
    (ht : readTree fuel (Utf8.encode cs ++ b :: s) = some (t, b :: s))
    (hb : isBlankByte b = false) (name : String) :
    readMembers (fuel + 1) (Utf8.encode (quote name ++ ':' :: cs) ++ b :: s)
      = if b = byte ',' then
          (readMembers fuel s).map (fun r => ((quotedBody name, t) :: r.1, r.2))
        else if b = byte '}' then some ([(quotedBody name, t)], s)
        else none := by
  have hquote (u : List UInt8) : after? ['"'] (skipBlank (byte '"' :: u)) = some u := by
    rw [skipBlank_cons (by decide)]
    rfl
  have hcolon (u : List UInt8) : after? [':'] (skipBlank (byte ':' :: u)) = some u := by
    rw [skipBlank_cons (by decide)]
    rfl
  rw [Utf8.encode_append, List.append_assoc, encode_quote, Utf8.encode_cons,
    Utf8.encodeChar_ascii (show (':').toNat < 0x80 by decide), List.append_assoc,
    List.singleton_append, readMembers, hquote, Option.bind_some, readBody_quotedBody]
  dsimp only
  rw [hcolon, Option.bind_some, ht]
  dsimp only
  rw [skipBlank_cons hb]

theorem memberChars_cons (n : String) (v : Value) (ms : List (String × Value)) :
    memberChars ((n, v) :: ms) = (quote n ++ ':' :: v.chars) :: memberChars ms := rfl

/-- The members of an object of plain values are read one after the other. -/
theorem exists_readMembers {ms : List (String × Value)} (m : String × Value)
    (h : ∀ x ∈ m :: ms, x.2.IsPlain) (depth : Nat) :
    ∃ ts, memberValues? (depth + 1) ts = some (m :: ms)
      ∧ ∀ fuel s, (Utf8.encode (commaSeparated (memberChars (m :: ms)))).length ≤ fuel →
        readMembers fuel (Utf8.encode (commaSeparated (memberChars (m :: ms))) ++ byte '}' :: s)
          = some (ts, s) := by
  induction ms generalizing m with
  | nil =>
    obtain ⟨n, v⟩ := m
    have hplain : v.IsPlain := h (n, v) (by simp)
    obtain ⟨t, hv, hread⟩ := hplain.exists_tree depth
    refine ⟨[(quotedBody n, t)], ?_, ?_⟩
    · rw [memberValues?, memberValues?, textOfBody?_quotedBody, hv]
    · intro fuel s hfuel
      rw [memberChars_cons, memberChars, commaSeparated] at hfuel ⊢
      rw [Utf8.encode_append, Utf8.encode_cons, List.length_append, List.length_append,
        Utf8.encodeChar_ascii (by decide), List.length_singleton] at hfuel
      obtain ⟨fuel, rfl⟩ : ∃ k, fuel = k + 1 := ⟨fuel - 1, by omega⟩
      have ht := hread fuel (byte '}') s (Or.inr (Or.inr rfl)) (by omega)
      rw [readMembers_member ht (by decide), if_neg (by decide), if_pos rfl]
  | cons m' ms ih =>
    obtain ⟨n, v⟩ := m
    have hplain : v.IsPlain := h (n, v) (by simp)
    obtain ⟨t, hv, hread⟩ := hplain.exists_tree depth
    obtain ⟨ts, hvs, hreads⟩ := ih m' (fun x hx => h x (List.mem_cons_of_mem _ hx))
    refine ⟨(quotedBody n, t) :: ts, ?_, ?_⟩
    · rw [memberValues?, textOfBody?_quotedBody, hv, hvs]
    · intro fuel s hfuel
      obtain ⟨n', v'⟩ := m'
      rw [memberChars_cons, memberChars_cons, commaSeparated_cons_cons, ← memberChars_cons,
        Utf8.encode_append, Utf8.encode_cons, Utf8.encodeChar_ascii (by decide)] at hfuel ⊢
      -- the fuel for the whole member is enough for its value
      have hvalue : (Utf8.encode v.chars).length
          ≤ (Utf8.encode (quote n ++ ':' :: v.chars)).length := by
        rw [Utf8.encode_append, Utf8.encode_cons, List.length_append, List.length_append]
        omega
      simp only [List.length_append, List.length_singleton] at hfuel
      obtain ⟨fuel, rfl⟩ : ∃ k, fuel = k + 1 := ⟨fuel - 1, by omega⟩
      have ht (u : List UInt8) := hread fuel (byte ',') u (Or.inl rfl) (by omega)
      rw [List.append_assoc, List.append_assoc, List.singleton_append,
        readMembers_member (ht _) (by decide), if_pos rfl, hreads fuel s (by omega)]
      rfl

/-- **An object of plain values reads back**, with its members as they were written. -/
theorem read?_objectChars {ms : List (String × Value)} (h : ∀ m ∈ ms, m.2.IsPlain) :
    ∃ ts, Tree.read? (Utf8.encode (objectChars ms)) = some (.object ts)
      ∧ memberValues? (maxDepth - 1) ts = some ms := by
  cases ms with
  | nil => exact ⟨[], rfl, rfl⟩
  | cons m ms =>
    obtain ⟨ts, hvalues, hread⟩ := exists_readMembers m h (maxDepth - 2)
    refine ⟨ts, ?_, hvalues⟩
    obtain ⟨n, v⟩ := m
    have hmembers := hread (2 * (Utf8.encode (objectChars ((n, v) :: ms))).length + 1) [] (by
      rw [objectChars, List.cons_append, Utf8.encode_cons, Utf8.encode_append,
        List.length_append, List.length_append]
      omega)
    -- the first member starts with a quote, so the object is not taken for an empty one
    obtain ⟨u, hu⟩ : ∃ u, commaSeparated (memberChars ((n, v) :: ms)) = quote n ++ u := by
      cases ms with
      | nil => exact ⟨_, rfl⟩
      | cons m ms => exact ⟨_, List.append_assoc _ _ _⟩
    have hbytes : Utf8.encode (objectChars ((n, v) :: ms))
        = byte '{' :: (Utf8.encode (commaSeparated (memberChars ((n, v) :: ms)))
          ++ [byte '}']) := by
      rw [objectChars, List.cons_append, Utf8.encode_cons, Utf8.encode_append]
      rfl
    rw [Tree.read?, hbytes, readTree_brace]
    rw [hbytes] at hmembers
    rw [hu, Utf8.encode_append, List.append_assoc, encode_quote] at hmembers ⊢
    rw [skipBlank_cons (by decide), hmembers]
    rfl

end BearerBridge.Json
