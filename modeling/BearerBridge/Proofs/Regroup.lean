/-
# Writing and reading a claim set

A claim set is written with one member for each kind.  Reading the members back loses no claim
and keeps the claims of each kind in order, but it brings the claims of one kind together.  That
is what `ClaimSet.regroup` does, and nothing else happens.

* `ofMembers_members` : the members of a claim set are read as its regrouping;
* `mem_regroup` : regrouping neither loses nor invents a claim;
* `regroup_concat` : a claim of a kind of its own at the end stays at the end;
* `regroup_append_of_single` : claims of one kind at the front stay at the front;
* `keepKinds_regroup`, `members_keepKinds` : leaving kinds out before writing or after reading
  comes to the same;
* `values_regroup` : the claims of one kind keep their order;
* `members_regroup` : what is regrouped is written like what it was before.
-/
import BearerBridge.Claim
import Mathlib.Data.List.Basic

namespace BearerBridge.ClaimSet

/-! ## Kinds in the order of their first appearance -/

theorem mem_distinct {k : String} {ks : List String} : k ∈ distinct ks ↔ k ∈ ks := by
  induction ks with
  | nil => exact Iff.rfl
  | cons a ks ih =>
    rw [distinct, List.mem_cons, List.mem_cons, List.mem_filter, ih]
    constructor
    · rintro (h | ⟨h, -⟩)
      · exact Or.inl h
      · exact Or.inr h
    · rintro (h | h)
      · exact Or.inl h
      · by_cases hk : k = a
        · exact Or.inl hk
        · exact Or.inr ⟨h, by simpa using hk⟩

/-- A text that is new comes last. -/
theorem distinct_concat {k : String} {ks : List String} (h : k ∉ ks) :
    distinct (ks ++ [k]) = distinct ks ++ [k] := by
  induction ks with
  | nil => rfl
  | cons a ks ih =>
    simp only [List.mem_cons, not_or] at h
    rw [List.cons_append, distinct, ih h.2, distinct, List.filter_append, List.cons_append]
    congr 2
    simpa using h.1

theorem mem_kinds {cs : ClaimSet} {k : String} : k ∈ cs.kinds ↔ ∃ c ∈ cs, c.kind = k := by
  rw [kinds, mem_distinct, List.mem_map]

/-! ## Regrouping -/

/-- **Regrouping neither loses nor invents a claim.** -/
theorem mem_regroup {cs : ClaimSet} {c : Claim} : c ∈ cs.regroup ↔ c ∈ cs := by
  rw [regroup, List.mem_flatMap]
  constructor
  · rintro ⟨k, -, hc⟩
    exact (List.mem_filter.1 hc).1
  · intro hc
    exact ⟨c.kind, mem_kinds.2 ⟨c, hc, rfl⟩, List.mem_filter.2 ⟨hc, beq_self_eq_true _⟩⟩

/-- **A claim of a new kind at the end stays at the end.** -/
theorem regroup_concat {cs : ClaimSet} {c : Claim} (h : ∀ x ∈ cs, x.kind ≠ c.kind) :
    (cs ++ [c]).regroup = cs.regroup ++ [c] := by
  have hnew : c.kind ∉ cs.map Claim.kind := by
    rw [List.mem_map]
    rintro ⟨x, hx, he⟩
    exact h x hx he
  have hkinds : (cs ++ [c]).kinds = cs.kinds ++ [c.kind] := by
    rw [kinds, List.map_append, List.map_singleton, distinct_concat hnew, kinds]
  rw [regroup, hkinds, List.flatMap_append, regroup]
  congr 1
  · apply List.flatMap_congr
    intro k hk
    obtain ⟨x, hx, rfl⟩ := mem_kinds.1 hk
    have hne : c.kind ≠ x.kind := (h x hx).symm
    simp [hne]
  · have hnone : cs.filter (·.kind == c.kind) = [] := by
      rw [List.filter_eq_nil_iff]
      intro x hx he
      exact h x hx (by simpa using he)
    simp [hnone]

/-! ## The values of a kind -/

theorem count_eq_length_values (cs : ClaimSet) (kind : String) :
    cs.count kind = (cs.values kind).length := by
  rw [count, values, List.length_map]

theorem values_append (cs cs' : ClaimSet) (kind : String) :
    values (cs ++ cs') kind = cs.values kind ++ values cs' kind := by
  rw [values, List.filter_append, List.map_append, values, values]

theorem first?_eq_head?_values (cs : ClaimSet) (kind : String) :
    cs.first? kind = (cs.values kind).head? := by
  rw [first?, values, List.head?_map, List.head?_filter]

/-- A kind has a single value when there is one claim of it and that is its first value. -/
theorem values_eq_singleton_iff {cs : ClaimSet} {kind v : String} :
    cs.values kind = [v] ↔ cs.count kind = 1 ∧ cs.first? kind = some v := by
  rw [count_eq_length_values, first?_eq_head?_values]
  constructor
  · intro h
    rw [h]
    exact ⟨rfl, rfl⟩
  · rintro ⟨hlength, hhead⟩
    obtain ⟨w, hw⟩ := List.length_eq_one_iff.1 hlength
    rw [hw] at hhead ⊢
    exact congrArg (fun x => [x]) (Option.some.inj hhead)

theorem count_eq_zero_iff {cs : ClaimSet} {kind : String} :
    cs.count kind = 0 ↔ ∀ x ∈ cs, x.kind ≠ kind := by
  rw [count, List.length_eq_zero_iff, List.filter_eq_nil_iff]
  simp only [beq_iff_eq, ne_eq]

/-! ## Some kinds only -/

/-- Leaving texts out does not change where the others appear first. -/
theorem distinct_filter (keep : String → Bool) (ks : List String) :
    distinct (ks.filter keep) = (distinct ks).filter keep := by
  induction ks with
  | nil => rfl
  | cons k ks ih =>
    rw [distinct]
    cases hk : keep k with
    | true =>
      rw [List.filter_cons_of_pos hk, List.filter_cons_of_pos hk, distinct, ih,
        List.filter_filter, List.filter_filter]
      simp only [Bool.and_comm]
    | false =>
      have hfalse : ¬ keep k = true := ne_true_of_eq_false hk
      -- what is left out for appearing again would have been left out anyway
      rw [List.filter_cons_of_neg hfalse, List.filter_cons_of_neg hfalse, ih,
        List.filter_filter]
      apply List.filter_congr
      intro x _
      by_cases hx : x = k
      · simp [hx, hk]
      · simp [hx]

theorem kinds_keepKinds (cs : ClaimSet) (keep : String → Bool) :
    (cs.keepKinds keep).kinds = cs.kinds.filter keep := by
  rw [kinds, keepKinds, kinds, ← distinct_filter, List.filter_map]
  rfl

/-- A kind that is kept keeps its claims. -/
theorem filter_kind_keepKinds (cs : ClaimSet) {keep : String → Bool} {kind : String}
    (h : keep kind = true) :
    (cs.keepKinds keep).filter (·.kind == kind) = cs.filter (·.kind == kind) := by
  rw [keepKinds, List.filter_filter]
  apply List.filter_congr
  intro x _
  by_cases hx : x.kind = kind
  · simp [hx, h]
  · simp [hx]

theorem values_keepKinds (cs : ClaimSet) {keep : String → Bool} {kind : String}
    (h : keep kind = true) : (cs.keepKinds keep).values kind = cs.values kind := by
  rw [values, filter_kind_keepKinds cs h, values]

/-- **Kinds can be left out after regrouping as well as before.** -/
theorem keepKinds_regroup (cs : ClaimSet) (keep : String → Bool) :
    cs.regroup.keepKinds keep = (cs.keepKinds keep).regroup := by
  rw [regroup, regroup, kinds_keepKinds, keepKinds, List.filter_flatMap]
  -- over the kinds: all claims of a group are kept, or none of them is
  induction cs.kinds with
  | nil => rfl
  | cons k ks ih =>
    rw [List.flatMap_cons, ih]
    cases hk : keep k with
    | true =>
      rw [List.filter_cons_of_pos hk, List.flatMap_cons, filter_kind_keepKinds cs hk]
      congr 1
      rw [List.filter_eq_self]
      intro x hx
      rw [eq_of_beq (List.mem_filter.1 hx).2, hk]
    | false =>
      rw [List.filter_cons_of_neg (ne_true_of_eq_false hk)]
      have hnone : (cs.filter (·.kind == k)).filter (keep ·.kind) = [] := by
        rw [List.filter_eq_nil_iff]
        intro x hx
        rw [eq_of_beq (List.mem_filter.1 hx).2, hk]
        exact Bool.false_ne_true
      rw [hnone, List.nil_append]

/-- The kind of claims that stand before claims of other kinds comes before the kinds of those. -/
theorem kinds_append_of_single {cs cs' : ClaimSet} {kind : String} (h : ∀ x ∈ cs, x.kind = kind)
    (hne : cs ≠ []) (hother : ∀ x ∈ cs', x.kind ≠ kind) :
    kinds (cs ++ cs') = kind :: cs'.kinds := by
  cases cs with
  | nil => exact absurd rfl hne
  | cons c cs =>
    obtain rfl := h c List.mem_cons_self
    have hfirst : (cs.map Claim.kind).filter (· != c.kind) = [] := by
      rw [List.filter_eq_nil_iff]
      intro k hk
      obtain ⟨x, hx, rfl⟩ := List.mem_map.1 hk
      simp [h x (List.mem_cons_of_mem _ hx)]
    have hrest : (cs'.map Claim.kind).filter (· != c.kind) = cs'.map Claim.kind := by
      rw [List.filter_eq_self]
      intro k hk
      obtain ⟨x, hx, rfl⟩ := List.mem_map.1 hk
      simpa using hother x hx
    rw [kinds, List.cons_append, List.map_cons, distinct, ← distinct_filter, List.map_append,
      List.filter_append, hfirst, hrest, List.nil_append, kinds]

theorem kinds_of_single {cs : ClaimSet} {kind : String} (h : ∀ x ∈ cs, x.kind = kind)
    (hne : cs ≠ []) : cs.kinds = [kind] := by
  have hother : ∀ x ∈ ([] : ClaimSet), x.kind ≠ kind := fun x hx => absurd hx List.not_mem_nil
  have hkinds := kinds_append_of_single h hne hother
  rwa [List.append_nil] at hkinds

/-- **Claims of a kind that stand before claims of other kinds stay in front.** -/
theorem regroup_append_of_single {cs cs' : ClaimSet} {kind : String}
    (h : ∀ x ∈ cs, x.kind = kind) (hother : ∀ x ∈ cs', x.kind ≠ kind) :
    regroup (cs ++ cs') = cs ++ cs'.regroup := by
  by_cases hne : cs = []
  · rw [hne, List.nil_append, List.nil_append]
  · have hall : cs.filter (·.kind == kind) = cs := by
      rw [List.filter_eq_self]
      exact fun x hx => beq_iff_eq.2 (h x hx)
    have hnone : cs'.filter (·.kind == kind) = [] := by
      rw [List.filter_eq_nil_iff]
      exact fun x hx he => hother x hx (eq_of_beq he)
    rw [regroup, kinds_append_of_single h hne hother, List.flatMap_cons, List.filter_append, hall,
      hnone, List.append_nil, regroup]
    congr 1
    -- in the groups of the other kinds the claims in front are not found
    apply List.flatMap_congr
    intro k hk
    obtain ⟨x, hx, rfl⟩ := mem_kinds.1 hk
    have hfront : cs.filter (·.kind == x.kind) = [] := by
      rw [List.filter_eq_nil_iff]
      intro y hy he
      exact hother x hx ((eq_of_beq he).symm.trans (h y hy))
    rw [List.filter_append, hfront, List.nil_append]

/-- A claim of a kind of its own at the front stays at the front. -/
theorem regroup_cons {cs : ClaimSet} {c : Claim} (h : ∀ x ∈ cs, x.kind ≠ c.kind) :
    regroup (c :: cs) = c :: cs.regroup := by
  have hsingle : ∀ x ∈ [c], x.kind = c.kind := by
    intro x hx
    rw [List.mem_singleton.1 hx]
  exact regroup_append_of_single hsingle h

/-- Claims of one kind are one group already. -/
theorem regroup_of_single {cs : ClaimSet} {kind : String} (h : ∀ x ∈ cs, x.kind = kind) :
    cs.regroup = cs := by
  by_cases hne : cs = []
  · rw [hne]
    rfl
  · rw [regroup, kinds_of_single h hne, List.flatMap_singleton, List.filter_eq_self]
    exact fun x hx => beq_iff_eq.2 (h x hx)

/-- The claims of one kind are the same after regrouping as before. -/
theorem filter_kind_regroup (cs : ClaimSet) (kind : String) :
    cs.regroup.filter (·.kind == kind) = cs.filter (·.kind == kind) := by
  have hsingle : ∀ x ∈ cs.keepKinds (· == kind), x.kind = kind :=
    fun x hx => eq_of_beq (List.mem_filter.1 hx).2
  exact (keepKinds_regroup cs (· == kind)).trans (regroup_of_single hsingle)

/-- **The claims of one kind keep their order.** -/
theorem values_regroup (cs : ClaimSet) (kind : String) :
    cs.regroup.values kind = cs.values kind := by
  rw [values, filter_kind_regroup, values]

/-! ## Regrouping twice -/

theorem nodup_distinct (ks : List String) : (distinct ks).Nodup := by
  induction ks with
  | nil => exact List.nodup_nil
  | cons k ks ih =>
    rw [distinct, List.nodup_cons]
    exact ⟨fun h => absurd (List.mem_filter.1 h).2 (by simp), ih.filter _⟩

/-- Groups have the kinds that they are the groups of. -/
theorem kinds_groups {cs : ClaimSet} {ks : List String} (hnodup : ks.Nodup)
    (hks : ∀ k ∈ ks, ∃ c ∈ cs, c.kind = k) :
    kinds (ks.flatMap fun k => cs.filter (·.kind == k)) = ks := by
  induction ks with
  | nil => rfl
  | cons k ks ih =>
    rw [List.nodup_cons] at hnodup
    obtain ⟨c, hc, hk⟩ := hks k List.mem_cons_self
    have hgroup : cs.filter (·.kind == k) ≠ [] :=
      List.ne_nil_of_mem (List.mem_filter.2 ⟨hc, beq_iff_eq.2 hk⟩)
    have hothers : ∀ x ∈ ks.flatMap (fun k => cs.filter (·.kind == k)), x.kind ≠ k := by
      intro x hx he
      obtain ⟨k', hk', hx'⟩ := List.mem_flatMap.1 hx
      obtain rfl : k' = k := (eq_of_beq (List.mem_filter.1 hx').2).symm.trans he
      exact hnodup.1 hk'
    rw [List.flatMap_cons, kinds_append_of_single
      (fun x hx => eq_of_beq (List.mem_filter.1 hx).2) hgroup hothers,
      ih hnodup.2 fun k' hk' => hks k' (List.mem_cons_of_mem _ hk')]

theorem kinds_regroup (cs : ClaimSet) : cs.regroup.kinds = cs.kinds :=
  kinds_groups (nodup_distinct _) fun _ hk => mem_kinds.1 hk

/-! ## A claim of a new kind -/

/-- The claim of a new kind is the first of its kind. -/
theorem first?_concat {cs : ClaimSet} {c : Claim} (h : ∀ x ∈ cs, x.kind ≠ c.kind) :
    (cs ++ [c]).first? c.kind = some c.value := by
  have hnone : cs.find? (·.kind == c.kind) = none := by
    rw [List.find?_eq_none]
    intro x hx he
    exact h x hx (by simpa using he)
  rw [first?, List.find?_append, hnone]
  simp

/-- Without its kind, the claim of a new kind is gone and nothing else is. -/
theorem withoutKind_concat {cs : ClaimSet} {c : Claim} (h : ∀ x ∈ cs, x.kind ≠ c.kind) :
    (cs ++ [c]).withoutKind c.kind = cs := by
  have hall : cs.filter (·.kind != c.kind) = cs := by
    rw [List.filter_eq_self]
    intro x hx
    simpa using h x hx
  rw [withoutKind, keepKinds, List.filter_append, hall]
  simp

/-! ## Members -/

/-- The values of a kind, written and read, are the claims of that kind. -/
theorem ofMember_wireValue (kind : String) (vs : List String) :
    ofMember (kind, wireValue vs) = vs.map (Claim.mk kind) := by
  unfold wireValue
  split
  · rfl
  · simp [ofMember, valueText]

theorem values_map_mk (vs : List String) (kind : String) :
    values (vs.map (Claim.mk kind)) kind = vs := by
  rw [values]
  simp [List.filter_map, Function.comp_def]

theorem map_values (cs : ClaimSet) (kind : String) :
    (cs.values kind).map (Claim.mk kind) = cs.filter (·.kind == kind) := by
  rw [values, List.map_map]
  conv =>
    rhs
    rw [← List.map_id (cs.filter (·.kind == kind))]
  apply List.map_congr_left
  intro c hc
  obtain rfl : c.kind = kind := by simpa using (List.mem_filter.1 hc).2
  rfl

theorem members_keepKinds (cs : ClaimSet) (keep : String → Bool) :
    (cs.keepKinds keep).members = cs.members.filter (keep ·.1) := by
  rw [members, kinds_keepKinds, members, List.filter_map]
  apply List.map_congr_left
  intro kind hkind
  rw [values_keepKinds cs (List.mem_filter.1 hkind).2]

/-- The member of a kind, if the claim set has claims of it. -/
theorem filter_members (cs : ClaimSet) (kind : String) :
    cs.members.filter (·.1 == kind)
      = if cs.count kind = 0 then [] else [(kind, wireValue (cs.values kind))] := by
  have hsingle : ∀ x ∈ cs.keepKinds (· == kind), x.kind = kind :=
    fun x hx => eq_of_beq (List.mem_filter.1 hx).2
  have hvalues : (cs.keepKinds (· == kind)).values kind = cs.values kind :=
    values_keepKinds cs (beq_self_eq_true kind)
  rw [← members_keepKinds cs (· == kind), members]
  split
  · next hcount =>
    have hnil : cs.keepKinds (· == kind) = [] := List.length_eq_zero_iff.1 hcount
    rw [hnil]
    rfl
  · next hcount =>
    have hne : cs.keepKinds (· == kind) ≠ [] := fun h => hcount (List.length_eq_zero_iff.2 h)
    rw [kinds_of_single hsingle hne, List.map_singleton, hvalues]

/-- **A claim set is written as its regrouping is.** -/
theorem members_regroup (cs : ClaimSet) : cs.regroup.members = cs.members := by
  rw [members, kinds_regroup, members]
  apply List.map_congr_left
  intro kind _
  rw [values_regroup]

/-- **The members of a claim set are read as its regrouping.** -/
theorem ofMembers_members (cs : ClaimSet) : ofMembers cs.members = cs.regroup := by
  rw [ofMembers, members, List.flatMap_map, regroup]
  congr 1
  funext kind
  rw [ofMember_wireValue, map_values]

end BearerBridge.ClaimSet
