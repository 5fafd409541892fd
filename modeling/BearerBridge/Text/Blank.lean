/-
# Blanks

A blank is a character with the Unicode property `White_Space`.  Settings, header values and
names are trimmed of blanks on both sides, and a text that holds nothing else counts as absent.

* `trim_trim` : trimming twice is trimming once;
* `isBlank_iff` : a text is blank exactly when trimming leaves nothing.
-/
namespace BearerBridge

/-! ## The character class -/

/-- The characters of Unicode's `White_Space`. -/
def Blank (c : Char) : Bool :=
  let n := c.toNat
  (0x09 ≤ n && n ≤ 0x0D) || n == 0x20 || n == 0x85 || n == 0xA0 || n == 0x1680
    || (0x2000 ≤ n && n ≤ 0x200A) || n == 0x2028 || n == 0x2029 || n == 0x202F || n == 0x205F
    || n == 0x3000

/-! ## Trimming -/

/-- A list of characters without the blanks at its end. -/
def trimEnd (cs : List Char) : List Char :=
  (cs.reverse.dropWhile Blank).reverse

/-- A list of characters without the blanks at its two ends. -/
def trimChars (cs : List Char) : List Char :=
  trimEnd (cs.dropWhile Blank)

/-- A text without the blanks at its two ends. -/
def trim (s : String) : String :=
  String.ofList (trimChars s.toList)

/-- A text of blanks only, the empty text included. -/
def isBlank (s : String) : Bool :=
  s.toList.all Blank

/-- A text trimmed, unless nothing is left of it. -/
def nonBlank? (s : String) : Option String :=
  if isBlank s then none else some (trim s)

/-! ## Laws -/

theorem dropWhile_eq_nil_iff_all {p : Char → Bool} {cs : List Char} :
    cs.dropWhile p = [] ↔ cs.all p := by
  induction cs with
  | nil => simp
  | cons c cs ih => by_cases h : p c <;> simp [h, ih]

theorem trimEnd_eq_nil {cs : List Char} : trimEnd cs = [] ↔ cs.all Blank := by
  rw [trimEnd, List.reverse_eq_nil_iff, dropWhile_eq_nil_iff_all, List.all_reverse]

theorem trimChars_eq_nil {cs : List Char} : trimChars cs = [] ↔ cs.all Blank := by
  rw [trimChars, trimEnd_eq_nil]
  induction cs with
  | nil => simp
  | cons c cs ih => by_cases h : Blank c <;> simp [h, ih]

/-- **A text is blank exactly when trimming leaves nothing.** -/
theorem isBlank_iff {s : String} : isBlank s ↔ trim s = "" := by
  rw [isBlank, trim, ← trimChars_eq_nil]
  exact ⟨fun h => by rw [h], fun h => by simpa using congrArg String.toList h⟩

/-- What trimming leaves starts with no blank. -/
theorem trimEnd_head {c : Char} {cs : List Char} (h : Blank c = false) :
    ∃ ds, trimEnd (c :: cs) = c :: ds := by
  have key : ∀ l : List Char, ∃ ds, (l ++ [c]).dropWhile Blank = ds ++ [c] := by
    intro l
    induction l with
    | nil => exact ⟨[], by simp [h]⟩
    | cons a l ih =>
      by_cases ha : Blank a
      · simpa [ha] using ih
      · exact ⟨a :: l, by simp [ha]⟩
  obtain ⟨ds, hd⟩ := key cs.reverse
  exact ⟨ds.reverse, by simp [trimEnd, hd]⟩

theorem dropWhile_blank_idem (cs : List Char) :
    (cs.dropWhile Blank).dropWhile Blank = cs.dropWhile Blank := by
  induction cs with
  | nil => rfl
  | cons c cs ih => by_cases h : Blank c <;> simp [h, ih]

theorem trimEnd_idem (cs : List Char) : trimEnd (trimEnd cs) = trimEnd cs := by
  simp [trimEnd, dropWhile_blank_idem]

theorem trimChars_idem (cs : List Char) : trimChars (trimChars cs) = trimChars cs := by
  unfold trimChars
  rcases hc : cs.dropWhile Blank with _ | ⟨c, ds⟩
  · rfl
  · have hb : Blank c = false := by
      have h := dropWhile_blank_idem cs
      rw [hc] at h
      by_cases hb : Blank c
      · have := congrArg List.length h
        have hle := (List.dropWhile_sublist Blank : (ds.dropWhile Blank).Sublist ds).length_le
        simp [hb] at this
        omega
      · simpa using hb
    obtain ⟨es, he⟩ := @trimEnd_head c ds hb
    rw [he]
    simp only [List.dropWhile_cons, hb]
    rw [← he]
    exact trimEnd_idem _

/-- **Trimming twice is trimming once.** -/
theorem trim_trim (s : String) : trim (trim s) = trim s := by
  simp [trim, trimChars_idem]

end BearerBridge
