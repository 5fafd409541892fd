/-
# Pieces between separators

A setting or a header lists its entries between commas, with or without blanks around them.  The
pieces of such a text are fixed by two facts: joined by the separator they are the text, and none
of them holds a separator.  Of a piece only what trimming leaves counts, so blanks around the whole
text, which all go to its first and its last piece, count for nothing either.

* `trimChars_append` : blanks around a text do not change what trimming leaves;
* `splitAll_eq_iff` : the pieces of a text, and no others;
* `commaList_of_isPieces` : the entries of a list are its pieces, trimmed, blank ones left out;
* `commaList_trim` : blanks around a list do not change its entries.
-/
import BearerBridge.Text.Split

namespace BearerBridge

/-! ## Blanks around a text -/

/-- Trimming takes blanks away and nothing else. -/
theorem exists_eq_append_trimChars (cs : List Char) :
    ∃ before after, (∀ c ∈ before, Blank c) ∧ (∀ c ∈ after, Blank c)
      ∧ cs = before ++ (trimChars cs ++ after) := by
  -- what is dropped at one end: from the front, or from the front of the reversed text
  have hfront : ∀ cs : List Char, ∃ before, (∀ c ∈ before, Blank c)
      ∧ cs = before ++ cs.dropWhile Blank := by
    intro cs
    refine ⟨cs.takeWhile Blank, ?_, List.takeWhile_append_dropWhile.symm⟩
    intro c hc
    exact List.all_eq_true.1 List.all_takeWhile c hc
  obtain ⟨before, hbefore, hcs⟩ := hfront cs
  obtain ⟨after, hafter, hrest⟩ := hfront (cs.dropWhile Blank).reverse
  refine ⟨before, after.reverse, hbefore, ?_, ?_⟩
  · intro c hc
    exact hafter c (List.mem_reverse.1 hc)
  · have hback := congrArg List.reverse hrest
    rw [List.reverse_reverse, List.reverse_append] at hback
    rw [trimChars, trimEnd, ← hback]
    exact hcs

theorem trimEnd_append {cs after : List Char} (hafter : ∀ c ∈ after, Blank c) :
    trimEnd (cs ++ after) = trimEnd cs := by
  unfold trimEnd
  rw [List.reverse_append, List.dropWhile_append_of_pos]
  intro c hc
  exact hafter c (List.mem_reverse.1 hc)

/-- **Blanks around a text do not change what trimming leaves.** -/
theorem trimChars_append {before after : List Char} (hbefore : ∀ c ∈ before, Blank c)
    (hafter : ∀ c ∈ after, Blank c) (cs : List Char) :
    trimChars (before ++ (cs ++ after)) = trimChars cs := by
  unfold trimChars
  rw [List.dropWhile_append_of_pos hbefore, List.dropWhile_append]
  split
  · next hblank =>
    -- nothing but blanks, so nothing is left on either side
    rw [List.isEmpty_iff] at hblank
    rw [hblank, dropWhile_eq_nil_iff_all.2 (List.all_eq_true.2 hafter)]
  · exact trimEnd_append hafter

theorem nonBlank?_eq (s : String) : nonBlank? s = if trim s = "" then none else some (trim s) := by
  rw [nonBlank?]
  by_cases h : trim s = ""
  · rw [if_pos h, if_pos (isBlank_iff.2 h)]
  · rw [if_neg h, if_neg fun hb => h (isBlank_iff.1 hb)]

theorem nonBlank?_eq_some_iff {s t : String} : nonBlank? s = some t ↔ trim s ≠ "" ∧ t = trim s := by
  rw [nonBlank?_eq]
  by_cases h : trim s = "" <;> simp [h, eq_comm]

/-- A text that has been trimmed counts as it did before. -/
theorem nonBlank?_trim (s : String) : nonBlank? (trim s) = nonBlank? s := by
  rw [nonBlank?_eq, nonBlank?_eq, trim_trim]

theorem nonBlank?_append {before after : List Char} (hbefore : ∀ c ∈ before, Blank c)
    (hafter : ∀ c ∈ after, Blank c) (cs : List Char) :
    nonBlank? (String.ofList (before ++ (cs ++ after))) = nonBlank? (String.ofList cs) := by
  have htrim : trim (String.ofList (before ++ (cs ++ after))) = trim (String.ofList cs) := by
    simp only [trim, String.toList_ofList, trimChars_append hbefore hafter]
  rw [nonBlank?_eq, nonBlank?_eq, htrim]

/-! ## Pieces -/

theorem splitAll_ne_nil (sep : Char) (cs : List Char) : splitAll sep cs ≠ [] := by
  cases cs with
  | nil => simp [splitAll]
  | cons c cs =>
    rw [splitAll]
    split
    · simp
    · split <;> simp

/-- What a split says about the text: the first piece ends at the first separator. -/
theorem splitAll_eq_cons {sep : Char} {cs p : List Char} {ps : List (List Char)}
    (h : splitAll sep cs = p :: ps) :
    sep ∉ p ∧ ((ps = [] ∧ cs = p) ∨ ∃ rest, cs = p ++ sep :: rest ∧ splitAll sep rest = ps) := by
  -- over the text: a separator ends the first piece, any other character joins it
  induction cs generalizing p with
  | nil =>
    obtain ⟨rfl, rfl⟩ := List.cons.inj h
    exact ⟨List.not_mem_nil, Or.inl ⟨rfl, rfl⟩⟩
  | cons c cs ih =>
    rw [splitAll] at h
    split at h
    · next hc =>
      obtain ⟨rfl, rfl⟩ := List.cons.inj h
      exact ⟨List.not_mem_nil, Or.inr ⟨cs, by rw [hc]; rfl, rfl⟩⟩
    · next hc =>
      split at h
      · next q qs hq =>
        obtain ⟨rfl, rfl⟩ := List.cons.inj h
        obtain ⟨hmem, hcases⟩ := ih hq
        refine ⟨?_, ?_⟩
        · rw [List.mem_cons, not_or]
          exact ⟨fun e => hc e.symm, hmem⟩
        · rcases hcases with ⟨hps, hcs⟩ | ⟨rest, hcs, hps⟩
          · exact Or.inl ⟨hps, by rw [hcs]⟩
          · exact Or.inr ⟨rest, by rw [hcs]; rfl, hps⟩
      · next hq => exact absurd hq (splitAll_ne_nil sep cs)

/-- Three pieces are the text between its separators. -/
theorem splitAll_eq_three {sep : Char} {cs a b c : List Char} (h : splitAll sep cs = [a, b, c]) :
    cs = a ++ sep :: (b ++ sep :: c) ∧ sep ∉ a ∧ sep ∉ b ∧ sep ∉ c := by
  obtain ⟨ha, ⟨hnil, -⟩ | ⟨r, rfl, hr⟩⟩ := splitAll_eq_cons h
  · exact absurd hnil (by simp)
  obtain ⟨hb, ⟨hnil, -⟩ | ⟨r', rfl, hr'⟩⟩ := splitAll_eq_cons hr
  · exact absurd hnil (by simp)
  obtain ⟨hc, ⟨-, rfl⟩ | ⟨r'', rfl, hr''⟩⟩ := splitAll_eq_cons hr'
  · exact ⟨rfl, ha, hb, hc⟩
  · exact absurd hr'' (splitAll_ne_nil sep r'')

/-- **The pieces of a text, and no others**: joined by the separator they are the text, and none of
them holds a separator. -/
theorem splitAll_eq_iff {sep : Char} {cs : List Char} {ps : List (List Char)} :
    splitAll sep cs = ps ↔ ps ≠ [] ∧ [sep].intercalate ps = cs ∧ ∀ p ∈ ps, sep ∉ p := by
  constructor
  · -- over the pieces: behind the first one is a separator with a text that splits into the rest
    intro h
    induction ps generalizing cs with
    | nil => exact absurd h (splitAll_ne_nil sep cs)
    | cons p ps ih =>
      obtain ⟨hp, ⟨rfl, rfl⟩ | ⟨rest, rfl, hrest⟩⟩ := splitAll_eq_cons h
      · refine ⟨by simp, List.intercalate_singleton, ?_⟩
        intro q hq
        rw [List.mem_singleton.1 hq]
        exact hp
      · obtain ⟨hne, hjoined, hfree⟩ := ih hrest
        obtain ⟨q, qs, rfl⟩ := List.exists_cons_of_ne_nil hne
        refine ⟨by simp, ?_, ?_⟩
        · rw [List.intercalate_cons_cons, hjoined, List.append_assoc, List.singleton_append]
        · exact List.forall_mem_cons.2 ⟨hp, hfree⟩
  · rintro ⟨hne, rfl, hfree⟩
    induction ps with
    | nil => exact absurd rfl hne
    | cons p ps ih =>
      obtain ⟨hp, hps⟩ := List.forall_mem_cons.1 hfree
      cases ps with
      | nil => rw [List.intercalate_singleton, splitAll_of_not_mem hp]
      | cons q qs =>
        rw [List.intercalate_cons_cons, List.append_assoc, List.singleton_append,
          splitAll_append _ hp, ih (by simp) hps]

/-- The texts between the separators of a text. -/
structure IsPieces (sep : Char) (s : String) (ps : List String) : Prop where
  ne_nil : ps ≠ []
  /-- Joined by the separator they are the text. -/
  joined : (String.singleton sep).intercalate ps = s
  /-- None of them holds a separator. -/
  free : ∀ p ∈ ps, sep ∉ p.toList

theorem isPieces_iff {sep : Char} {s : String} {ps : List String} :
    IsPieces sep s ps ↔ splitAll sep s.toList = ps.map String.toList := by
  have hjoined : (String.singleton sep).intercalate ps = s
      ↔ [sep].intercalate (ps.map String.toList) = s.toList := by
    rw [← String.toList_inj, String.toList_intercalate, String.toList_singleton]
  rw [splitAll_eq_iff, ← hjoined]
  constructor
  · rintro ⟨hne, hj, hfree⟩
    exact ⟨by simpa using hne, hj, by simpa using hfree⟩
  · rintro ⟨hne, hj, hfree⟩
    exact ⟨by simpa using hne, hj, by simpa using hfree⟩

/-- Every text has pieces. -/
theorem exists_isPieces (sep : Char) (s : String) : ∃ ps, IsPieces sep s ps := by
  refine ⟨(splitAll sep s.toList).map String.ofList, isPieces_iff.2 ?_⟩
  rw [List.map_map]
  conv => lhs; rw [← List.map_id (splitAll sep s.toList)]
  apply List.map_congr_left
  intro p _
  exact String.toList_ofList.symm

/-! ## Entries between commas -/

/-- What counts of a list of pieces. -/
theorem filterMap_nonBlank? (ps : List String) :
    ps.filterMap nonBlank? = (ps.map trim).filter (· ≠ "") := by
  induction ps with
  | nil => rfl
  | cons p ps ih =>
    rw [List.filterMap_cons, List.map_cons, List.filter_cons, nonBlank?_eq, ih]
    by_cases h : trim p = "" <;> simp [h]

/-- **The entries of a list are its pieces, trimmed, blank ones left out.** -/
theorem commaList_of_isPieces {s : String} {ps : List String} (h : IsPieces ',' s ps) :
    commaList s = (ps.map trim).filter (· ≠ "") := by
  rw [commaList, isPieces_iff.1 h, List.filterMap_map, ← filterMap_nonBlank?]
  congr 1
  funext p
  exact congrArg nonBlank? String.ofList_toList

/-- What an entry is like: it is not empty, no blanks are around it, and it holds no comma. -/
theorem entry_of_mem_commaList {s entry : String} (h : entry ∈ commaList s) :
    entry ≠ "" ∧ trim entry = entry ∧ ',' ∉ entry.toList := by
  obtain ⟨ps, hps⟩ := exists_isPieces ',' s
  rw [commaList_of_isPieces hps, List.mem_filter, List.mem_map] at h
  obtain ⟨⟨p, hp, rfl⟩, hne⟩ := h
  refine ⟨by simpa using hne, trim_trim p, ?_⟩
  -- a comma between the blanks would be one of the piece
  intro hcomma
  obtain ⟨before, after, -, -, hchars⟩ := exists_eq_append_trimChars p.toList
  rw [trim, String.toList_ofList] at hcomma
  apply hps.free p hp
  rw [hchars, List.mem_append, List.mem_append]
  exact Or.inr (Or.inl hcomma)

/-- What stands before a text without a separator goes to its first piece. -/
theorem splitAll_append_left {sep : Char} {before : List Char} (h : sep ∉ before)
    (cs : List Char) :
    ∃ p ps, splitAll sep cs = p :: ps ∧ splitAll sep (before ++ cs) = (before ++ p) :: ps := by
  obtain ⟨p, ps, hps⟩ := List.exists_cons_of_ne_nil (splitAll_ne_nil sep cs)
  refine ⟨p, ps, hps, ?_⟩
  obtain ⟨hp, ⟨rfl, rfl⟩ | ⟨rest, rfl, hrest⟩⟩ := splitAll_eq_cons hps
  · rw [splitAll_of_not_mem]
    rw [List.mem_append, not_or]
    exact ⟨h, hp⟩
  · rw [← List.append_assoc, splitAll_append, hrest]
    rw [List.mem_append, not_or]
    exact ⟨h, hp⟩

/-- What stands behind a text without a separator goes to its last piece. -/
theorem splitAll_append_right {sep : Char} {after : List Char} (h : sep ∉ after)
    (cs : List Char) :
    ∃ ps p, splitAll sep cs = ps ++ [p] ∧ splitAll sep (cs ++ after) = ps ++ [p ++ after] := by
  -- over the pieces, the first one ending at a separator or at the end of the text
  generalize hps : splitAll sep cs = qs
  induction qs generalizing cs with
  | nil => exact absurd hps (splitAll_ne_nil sep cs)
  | cons q qs ih =>
    obtain ⟨hq, ⟨rfl, rfl⟩ | ⟨rest, rfl, hrest⟩⟩ := splitAll_eq_cons hps
    · refine ⟨[], cs, rfl, ?_⟩
      rw [splitAll_of_not_mem, List.nil_append]
      rw [List.mem_append, not_or]
      exact ⟨hq, h⟩
    · obtain ⟨ps, p, hpieces, happended⟩ := ih rest hrest
      refine ⟨q :: ps, p, ?_, ?_⟩
      · rw [hpieces, List.cons_append]
      · rw [List.append_assoc, List.cons_append, splitAll_append _ hq, happended,
          List.cons_append]

theorem comma_notMem_of_blank {cs : List Char} (h : ∀ c ∈ cs, Blank c) : ',' ∉ cs := by
  intro hmem
  have hcomma : Blank ',' = false := by decide
  rw [h ',' hmem] at hcomma
  exact absurd hcomma (by decide)

/-- **Blanks around a list do not change its entries.** -/
theorem commaList_trim (s : String) : commaList (trim s) = commaList s := by
  obtain ⟨before, after, hbefore, hafter, hchars⟩ := exists_eq_append_trimChars s.toList
  have hnone : ∀ c ∈ ([] : List Char), Blank c := fun c hc => absurd hc List.not_mem_nil
  let entries := fun cs : List Char =>
    (splitAll ',' cs).filterMap fun piece => nonBlank? (String.ofList piece)
  -- blanks behind the list go to its last piece
  have hback : ∀ cs : List Char, entries (cs ++ after) = entries cs := by
    intro cs
    obtain ⟨qs, q, hlast, hlast'⟩ := splitAll_append_right (comma_notMem_of_blank hafter) cs
    have hq := nonBlank?_append hnone hafter q
    rw [List.nil_append] at hq
    show List.filterMap _ _ = List.filterMap _ _
    rw [hlast, hlast', List.filterMap_append, List.filterMap_append, List.filterMap_cons,
      List.filterMap_cons, hq]
  -- blanks before it go to its first piece
  have hfront : ∀ cs : List Char, entries (before ++ cs) = entries cs := by
    intro cs
    obtain ⟨q, qs, hfirst, hfirst'⟩ := splitAll_append_left (comma_notMem_of_blank hbefore) cs
    have hq := nonBlank?_append hbefore hnone q
    rw [List.append_nil] at hq
    show List.filterMap _ _ = List.filterMap _ _
    rw [hfirst, hfirst', List.filterMap_cons, List.filterMap_cons, hq]
  calc commaList (trim s) = entries (trimChars s.toList) := by
        rw [commaList, trim, String.toList_ofList]
    _ = entries (before ++ (trimChars s.toList ++ after)) := by rw [hfront, hback]
    _ = commaList s := by rw [← hchars, commaList]

end BearerBridge
