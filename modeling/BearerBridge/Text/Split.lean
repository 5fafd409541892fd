/-
# Splitting texts

Splits at a separator: at every one, at the first, at the last.

* `splitAll_append` : a piece without separators, a separator and more split as they were joined;
* `atFirst?_append`, `atLast?_append` : splitting at the first or the last separator undoes joining
  a piece without any;
* `atLast?_eq_some_iff` : what stands before and after the last separator, and nothing else.
-/
import BearerBridge.Text.Blank

namespace BearerBridge

/-! ## At every separator -/

/-- The pieces of a list between separators, one more than there are separators. -/
def splitAll (sep : Char) : List Char → List (List Char)
  | [] => [[]]
  | c :: cs =>
    if c = sep then [] :: splitAll sep cs
    else
      match splitAll sep cs with
      | p :: ps => (c :: p) :: ps
      | [] => [[c]]

theorem splitAll_of_not_mem {sep : Char} {cs : List Char} (h : sep ∉ cs) :
    splitAll sep cs = [cs] := by
  induction cs with
  | nil => rfl
  | cons c cs ih =>
    simp only [List.mem_cons, not_or] at h
    rw [splitAll, if_neg (fun e => h.1 e.symm), ih h.2]

/-- **A piece without separators, a separator and more split as they were joined.** -/
theorem splitAll_append {sep : Char} {a : List Char} (b : List Char) (h : sep ∉ a) :
    splitAll sep (a ++ sep :: b) = a :: splitAll sep b := by
  induction a with
  | nil => rw [List.nil_append, splitAll, if_pos rfl]
  | cons c a ih =>
    simp only [List.mem_cons, not_or] at h
    rw [List.cons_append, splitAll, if_neg (fun e => h.1 e.symm), ih h.2]

/-- A piece begins as the list does, unless that is with a separator. -/
theorem exists_mem_splitAll {sep c : Char} (cs : List Char) (h : c ≠ sep) :
    ∃ p ∈ splitAll sep (c :: cs), p.head? = some c := by
  rw [splitAll, if_neg h]
  split
  · next p ps hpieces => exact ⟨c :: p, List.mem_cons_self, rfl⟩
  · exact ⟨[c], List.mem_singleton_self _, rfl⟩

/-- The pieces between commas, trimmed, blank ones left out. -/
def commaList (s : String) : List String :=
  (splitAll ',' s.toList).filterMap (fun piece => nonBlank? (String.ofList piece))

/-! ## At the first separator -/

/-- What stands before and after the first separator. -/
def atFirst? (sep : Char) : List Char → Option (List Char × List Char)
  | [] => none
  | c :: cs =>
    if c = sep then some ([], cs) else (atFirst? sep cs).map (fun r => (c :: r.1, r.2))

/-- **Splitting at the first separator undoes joining behind a piece without any.** -/
theorem atFirst?_append {sep : Char} {a : List Char} (b : List Char) (h : sep ∉ a) :
    atFirst? sep (a ++ sep :: b) = some (a, b) := by
  induction a with
  | nil => rw [List.nil_append, atFirst?, if_pos rfl]
  | cons c a ih =>
    simp only [List.mem_cons, not_or] at h
    rw [List.cons_append, atFirst?, if_neg (fun e => h.1 e.symm), ih h.2]
    rfl

/-- What stands before the first separator holds none. -/
theorem eq_append_of_atFirst? {sep : Char} {cs a b : List Char}
    (h : atFirst? sep cs = some (a, b)) : sep ∉ a ∧ cs = a ++ sep :: b := by
  induction cs generalizing a with
  | nil => exact absurd h (by simp [atFirst?])
  | cons c cs ih =>
    rw [atFirst?] at h
    split at h
    · next hsep =>
      obtain ⟨rfl, rfl⟩ := Prod.mk.inj (Option.some.inj h)
      exact ⟨List.not_mem_nil, by rw [hsep, List.nil_append]⟩
    · next hother =>
      obtain ⟨⟨a', b'⟩, hrest, hpair⟩ := Option.map_eq_some_iff.1 h
      obtain ⟨rfl, rfl⟩ := Prod.mk.inj hpair
      obtain ⟨hnone, rfl⟩ := ih hrest
      refine ⟨?_, rfl⟩
      rw [List.mem_cons, not_or]
      exact ⟨fun he => hother he.symm, hnone⟩

/-- What stands before and after the first separator, as texts. -/
def splitOnce? (sep : Char) (s : String) : Option (String × String) :=
  (atFirst? sep s.toList).map (fun r => (String.ofList r.1, String.ofList r.2))

/-- A text is split at its first separator as it was joined there. -/
theorem splitOnce?_eq_some_iff {sep : Char} {s a b : String} :
    splitOnce? sep s = some (a, b) ↔ sep ∉ a.toList ∧ s = a ++ String.ofList [sep] ++ b := by
  rw [splitOnce?]
  constructor
  · intro h
    obtain ⟨⟨cs, ds⟩, hfirst, hpair⟩ := Option.map_eq_some_iff.1 h
    obtain ⟨rfl, rfl⟩ := Prod.mk.inj hpair
    obtain ⟨hnone, hs⟩ := eq_append_of_atFirst? hfirst
    refine ⟨by rwa [String.toList_ofList], String.toList_inj.1 ?_⟩
    rw [hs, String.toList_append, String.toList_append, String.toList_ofList,
      String.toList_ofList, String.toList_ofList, List.append_assoc, List.singleton_append]
  · rintro ⟨hnone, rfl⟩
    rw [String.toList_append, String.toList_append, String.toList_ofList, List.append_assoc,
      List.singleton_append, atFirst?_append _ hnone, Option.map_some, String.ofList_toList,
      String.ofList_toList]

/-- Everything up to the first separator, and what follows it if there is one. -/
def upTo (sep : Char) (cs : List Char) : List Char × Option (List Char) :=
  match atFirst? sep cs with
  | some (a, b) => (a, some b)
  | none => (cs, none)

theorem upTo_of_not_mem {sep : Char} {cs : List Char} (h : sep ∉ cs) :
    upTo sep cs = (cs, none) := by
  rw [upTo]
  split
  · next a b hfirst =>
    obtain ⟨-, rfl⟩ := eq_append_of_atFirst? hfirst
    exact absurd (by simp) h
  · rfl

/-- A text with a separator is what stands before the first one, and what follows it. -/
theorem eq_append_of_upTo {sep : Char} {cs a b : List Char} (h : upTo sep cs = (a, some b)) :
    cs = a ++ sep :: b := by
  rw [upTo] at h
  split at h
  · next a' b' hfirst =>
    obtain ⟨rfl, hrest⟩ := Prod.mk.inj h
    obtain rfl := Option.some.inj hrest
    exact (eq_append_of_atFirst? hfirst).2
  · exact absurd (Prod.mk.inj h).2 (by simp)

/-- What stands before the first separator is the beginning of the text. -/
theorem prefix_upTo (sep : Char) (cs : List Char) : (upTo sep cs).1 <+: cs := by
  rw [upTo]
  split
  · next a b hfirst =>
    rw [(eq_append_of_atFirst? hfirst).2]
    exact List.prefix_append a _
  · exact List.prefix_rfl

/-! ## At the last separator -/

/-- What stands before and after the last separator. -/
def atLast? (sep : Char) : List Char → Option (List Char × List Char)
  | [] => none
  | c :: cs =>
    match atLast? sep cs with
    | some (a, b) => some (c :: a, b)
    | none => if c = sep then some ([], cs) else none

theorem atLast?_of_not_mem {sep : Char} {cs : List Char} (h : sep ∉ cs) :
    atLast? sep cs = none := by
  induction cs with
  | nil => rfl
  | cons c cs ih =>
    simp only [List.mem_cons, not_or] at h
    rw [atLast?, ih h.2]
    exact if_neg (fun e => h.1 e.symm)

/-- **Splitting at the last separator undoes joining to a piece without any.** -/
theorem atLast?_append {sep : Char} (a : List Char) {b : List Char} (h : sep ∉ b) :
    atLast? sep (a ++ sep :: b) = some (a, b) := by
  induction a with
  | nil =>
    rw [List.nil_append, atLast?, atLast?_of_not_mem h]
    exact if_pos rfl
  | cons c a ih => rw [List.cons_append, atLast?, ih]

theorem atLast?_eq_none_iff {sep : Char} {cs : List Char} : atLast? sep cs = none ↔ sep ∉ cs := by
  refine ⟨fun h => ?_, atLast?_of_not_mem⟩
  induction cs with
  | nil => exact List.not_mem_nil
  | cons c cs ih =>
    rw [atLast?] at h
    split at h
    · exact absurd h (by simp)
    · next hrest =>
      split at h
      · exact absurd h (by simp)
      · next hother =>
        rw [List.mem_cons, not_or]
        exact ⟨fun he => hother he.symm, ih hrest⟩

/-- What stands after the last separator holds none. -/
theorem eq_append_of_atLast? {sep : Char} {cs a b : List Char}
    (h : atLast? sep cs = some (a, b)) : sep ∉ b ∧ cs = a ++ sep :: b := by
  -- over the text: a separator is the last one when what follows it has none
  induction cs generalizing a with
  | nil => exact absurd h (by simp [atLast?])
  | cons c cs ih =>
    rw [atLast?] at h
    split at h
    · next a' b' hrest =>
      obtain ⟨rfl, rfl⟩ := Prod.mk.inj (Option.some.inj h)
      obtain ⟨hnone, rfl⟩ := ih hrest
      exact ⟨hnone, rfl⟩
    · next hrest =>
      obtain ⟨hsep, hpair⟩ := Option.ite_none_right_eq_some.1 h
      obtain ⟨rfl, rfl⟩ := Prod.mk.inj (Option.some.inj hpair)
      exact ⟨atLast?_eq_none_iff.1 hrest, by rw [hsep, List.nil_append]⟩

/-- **A text is split at its last separator as it was joined there.** -/
theorem atLast?_eq_some_iff {sep : Char} {cs a b : List Char} :
    atLast? sep cs = some (a, b) ↔ sep ∉ b ∧ cs = a ++ sep :: b := by
  refine ⟨eq_append_of_atLast?, ?_⟩
  rintro ⟨hnone, rfl⟩
  exact atLast?_append a hnone

end BearerBridge
