/-
# What a summary shows

A summary lists the claims of a client in their order, each on a line.  Groups are there when they
are asked for, and claims of all other kinds always.  The lines stand in the text of the summary as
they are, but for the characters that are escaped.

* `ClaimSet.shown_eq_filter` : the claims that a summary shows;
* `Json.infix_objectChars` : the text of an object holds the texts of its members;
* `infix_summaryMembers` : the text of a summary holds the values of the claims that it shows.
-/
import BearerBridge.Summary

namespace BearerBridge

/-! ## Claims -/

/-- **The claims that a summary shows**, in their order: all but the groups, and the groups when
they are asked for. -/
theorem ClaimSet.shown_eq_filter (cs : ClaimSet) (keepGroups : Bool) :
    cs.shown keepGroups = cs.filter fun c => keepGroups || c.kind != Kind.group := by
  rw [shown]
  cases keepGroups with
  | true => exact (List.filter_eq_self.2 fun _ _ => rfl).symm
  | false => rfl

theorem ClaimSet.mem_shown_iff {cs : ClaimSet} {keepGroups : Bool} {c : Claim} :
    c ∈ cs.shown keepGroups ↔ c ∈ cs ∧ (keepGroups = true ∨ c.kind ≠ Kind.group) := by
  rw [shown_eq_filter, List.mem_filter, Bool.or_eq_true, bne_iff_ne]

/-! ## Parts of a text -/

namespace Json

/-- A character that is written as it is. -/
def IsUnescaped (c : Char) : Prop := c ≠ '"' ∧ c ≠ '\\' ∧ 0x20 ≤ c.toNat

theorem quoteChar_of_unescaped {c : Char} (h : IsUnescaped c) : quoteChar c = [c] := by
  obtain ⟨hquote, hslash, hlow⟩ := h
  have hne : ∀ d : Char, d.toNat < 0x20 → c ≠ d := by
    rintro d hd rfl
    omega
  simp [quoteChar, hquote, hslash, hne '\n' (by decide), hne '\r' (by decide),
    hne '\t' (by decide), hne '\x08' (by decide), hne '\x0c' (by decide), Nat.not_lt.2 hlow]

theorem flatMap_quoteChar {cs : List Char} (h : ∀ c ∈ cs, IsUnescaped c) :
    cs.flatMap quoteChar = cs := by
  induction cs with
  | nil => rfl
  | cons c cs ih =>
    rw [List.forall_mem_cons] at h
    rw [List.flatMap_cons, quoteChar_of_unescaped h.1, ih h.2, List.singleton_append]

/-- Such a part of a text stands inside its quotes as it is. -/
theorem infix_quote {cs : List Char} {s : String} (h : ∀ c ∈ cs, IsUnescaped c)
    (hheld : cs <:+: s.toList) : cs <:+: quote s := by
  obtain ⟨before, after, hs⟩ := hheld
  refine ⟨'"' :: before.flatMap quoteChar, after.flatMap quoteChar ++ ['"'], ?_⟩
  rw [quote, ← hs, List.flatMap_append, List.flatMap_append, flatMap_quoteChar h]
  simp

/-- A piece is part of what is joined with commas. -/
theorem infix_commaSeparated {x : List Char} {xs : List (List Char)} (h : x ∈ xs) :
    x <:+: commaSeparated xs := by
  fun_induction commaSeparated xs with
  | case1 => exact absurd h List.not_mem_nil
  | case2 y => exact List.mem_singleton.1 h ▸ List.infix_rfl
  | case3 y ys hne ih =>
    rcases List.mem_cons.1 h with rfl | h
    · exact (List.prefix_append x _).isInfix
    · exact (ih h).trans ((List.suffix_cons ',' _).trans (List.suffix_append y _)).isInfix

/-- An item is part of the text of an array. -/
theorem infix_chars_array {v : Value} {items : List Value} (h : v ∈ items) :
    v.chars <:+: (Value.array items).chars := by
  have hitem : v.chars ∈ itemChars items := by
    induction items with
    | nil => exact absurd h List.not_mem_nil
    | cons w ws ih =>
      rw [itemChars]
      rcases List.mem_cons.1 h with rfl | h
      · exact List.mem_cons_self
      · exact List.mem_cons_of_mem _ (ih h)
  rw [Value.chars]
  exact (infix_commaSeparated hitem).trans ⟨['['], [']'], rfl⟩

/-- A member is part of the text of an object. -/
theorem infix_objectChars {n : String} {v : Value} {members : List (String × Value)}
    (h : (n, v) ∈ members) : v.chars <:+: objectChars members := by
  have hmember : quote n ++ ':' :: v.chars ∈ memberChars members := by
    induction members with
    | nil => exact absurd h List.not_mem_nil
    | cons m ms ih =>
      rw [memberChars]
      rcases List.mem_cons.1 h with rfl | h
      · exact List.mem_cons_self
      · exact List.mem_cons_of_mem _ (ih h)
  have hvalue : v.chars <:+: quote n ++ ':' :: v.chars :=
    ((List.suffix_cons ':' _).trans (List.suffix_append (quote n) _)).isInfix
  rw [objectChars]
  exact hvalue.trans ((infix_commaSeparated hmember).trans ⟨['\x7b'], ['\x7d'], rfl⟩)

end Json

/-! ## Values in summaries -/

/-- **The text of a summary holds the values of the claims that it shows**, those that need no
escapes as they are. -/
theorem infix_summaryMembers (r : Http.Request) {client : Client} {keepGroups : Bool} {c : Claim}
    (hshown : c ∈ client.claims.shown keepGroups)
    (hplain : ∀ x ∈ c.value.toList, Json.IsUnescaped x) :
    c.value.toList <:+: Json.objectChars (summaryMembers r (some client) keepGroups) := by
  have hclaims : ("claims", Json.Value.array
      ((client.claims.shown keepGroups).map fun c => .text c.line))
        ∈ summaryMembers r (some client) keepGroups := by
    simp [summaryMembers]
  have hline : Json.Value.text c.line
      ∈ (client.claims.shown keepGroups).map fun c => .text c.line :=
    List.mem_map.2 ⟨c, hshown, rfl⟩
  have hvalue : c.value.toList <:+: c.line.toList := by
    rw [Claim.line, String.toList_append]
    exact (List.suffix_append _ _).isInfix
  have hquoted : c.value.toList <:+: (Json.Value.text c.line).chars := by
    rw [Json.Value.chars]
    exact Json.infix_quote hplain hvalue
  exact hquoted.trans ((Json.infix_chars_array hline).trans (Json.infix_objectChars hclaims))

end BearerBridge
