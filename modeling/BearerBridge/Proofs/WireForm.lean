/-
# Claim sets on the wire

A claim set is written as an object with one member for each kind, the kinds in the order of
their first appearance.  Reading the object back brings the claims of each kind together; it loses
no claim, adds none and leaves the claims of each kind in their order.  So a claim set comes back
as it was exactly when the claims of each kind stood together already, and what was read once is
written the same from then on.

* `pairwise_distinct` : the distinct texts of a list stand as they first appear in it;
* `perm_regroup` : regrouping neither loses nor invents a claim, however often it occurs;
* `regroup_eq_self_iff` : which claim sets regrouping leaves alone;
* `reads_as_regrouped` : what a claim set is written as, and what that reads back as.
-/
import BearerBridge.Proofs.Token.Payload
import Mathlib.Data.List.Infix

namespace BearerBridge.ClaimSet

/-! ## The order of first appearance -/

/-- **The distinct texts of a list stand as they first appear in it.** -/
theorem pairwise_distinct (ks : List String) :
    (distinct ks).Pairwise fun k k' => ks.idxOf k < ks.idxOf k' := by
  induction ks with
  | nil => exact List.Pairwise.nil
  | cons k ks ih =>
    have hnext : ∀ k' ∈ (distinct ks).filter (· != k),
        (k :: ks).idxOf k' = ks.idxOf k' + 1 := by
      intro k' hk'
      have hne : k' ≠ k := by simpa using (List.mem_filter.1 hk').2
      exact List.idxOf_cons_ne ks hne.symm
    rw [distinct, List.pairwise_cons]
    constructor
    · intro k' hk'
      rw [List.idxOf_cons_self, hnext k' hk']
      omega
    · -- all others move one place back, so their order stays
      refine (ih.filter _).imp_of_mem ?_
      intro a b ha hb hlt
      rw [hnext a ha, hnext b hb]
      omega

/-! ## Claims of one kind together -/

/-- The claims of each kind stand together. -/
def Contiguous (cs : ClaimSet) : Prop :=
  ∀ kind ∈ cs.kinds, cs.filter (·.kind == kind) <:+: cs

instance (cs : ClaimSet) : Decidable cs.Contiguous :=
  inferInstanceAs (Decidable (∀ kind ∈ cs.kinds, cs.filter (·.kind == kind) <:+: cs))

/-- **Regrouping neither loses nor invents a claim**, however often it occurs. -/
theorem perm_regroup (cs : ClaimSet) : cs.regroup.Perm cs := by
  rw [List.perm_iff_count]
  intro c
  have hgroup : ∀ cs : List Claim,
      List.count c (cs.filter (·.kind == c.kind)) = List.count c cs :=
    fun cs => List.count_filter (beq_self_eq_true c.kind)
  rw [← hgroup cs.regroup, filter_kind_regroup, hgroup cs]

theorem contiguous_regroup (cs : ClaimSet) : cs.regroup.Contiguous := by
  intro kind hkind
  rw [kinds_regroup] at hkind
  rw [filter_kind_regroup, regroup, List.flatMap_def]
  exact List.infix_of_mem_flatten (List.mem_map_of_mem hkind)

/-- Leaving kinds out lets claims that stand together stand together. -/
theorem Contiguous.keepKinds {cs : ClaimSet} (h : cs.Contiguous) (keep : String → Bool) :
    (cs.keepKinds keep).Contiguous := by
  intro kind hkind
  rw [kinds_keepKinds, List.mem_filter] at hkind
  have hgroup := (h kind hkind.1).filter (keep ·.kind)
  have hkept : (cs.filter (·.kind == kind)).filter (keep ·.kind)
      = cs.filter (·.kind == kind) := by
    rw [List.filter_eq_self]
    intro x hx
    rw [eq_of_beq (List.mem_filter.1 hx).2, hkind.2]
  rw [hkept] at hgroup
  rw [filter_kind_keepKinds cs hkind.2]
  exact hgroup

theorem withoutKind_append_of_single {cs cs' : ClaimSet} {kind : String}
    (h : ∀ x ∈ cs, x.kind = kind) (hother : ∀ x ∈ cs', x.kind ≠ kind) :
    withoutKind (cs ++ cs') kind = cs' := by
  have hnone : cs.filter (·.kind != kind) = [] := by
    rw [List.filter_eq_nil_iff]
    intro x hx
    simpa using h x hx
  have hall : cs'.filter (·.kind != kind) = cs' := by
    rw [List.filter_eq_self]
    intro x hx
    simpa using hother x hx
  rw [withoutKind, keepKinds, List.filter_append, hnone, hall, List.nil_append]

/-- Where the claims of each kind stand together, those of the first kind stand in front of all
others. -/
theorem Contiguous.eq_append {c : Claim} {cs : ClaimSet} (h : Contiguous (c :: cs)) :
    c :: cs = (c :: cs).filter (·.kind == c.kind) ++ withoutKind (c :: cs) c.kind := by
  obtain ⟨before, after, hcs⟩ := h c.kind (mem_kinds.2 ⟨c, List.mem_cons_self, rfl⟩)
  -- the group holds all claims of its kind, so none of them stands before or after it
  have hlength := congrArg (fun l => (l.filter (·.kind == c.kind)).length) hcs
  simp only [List.filter_append, List.filter_filter, Bool.and_self, List.length_append]
    at hlength
  have hbefore : before.filter (·.kind == c.kind) = [] :=
    List.length_eq_zero_iff.1 (by omega)
  have hafter : after.filter (·.kind == c.kind) = [] := List.length_eq_zero_iff.1 (by omega)
  rw [List.filter_eq_nil_iff] at hbefore hafter
  cases before with
  | nil =>
    have hgroup : ∀ x ∈ (c :: cs).filter (·.kind == c.kind), x.kind = c.kind :=
      fun x hx => eq_of_beq (List.mem_filter.1 hx).2
    have hother : ∀ x ∈ after, x.kind ≠ c.kind := fun x hx he => hafter x hx (beq_iff_eq.2 he)
    have hrest : withoutKind (c :: cs) c.kind = after :=
      (congrArg (withoutKind · c.kind) hcs.symm).trans
        (withoutKind_append_of_single hgroup hother)
    rw [hrest]
    exact hcs.symm
  | cons b before =>
    -- what stands in front is the first claim, and that one is in the group
    obtain ⟨rfl, -⟩ := List.cons.inj hcs
    exact absurd (beq_self_eq_true b.kind) (hbefore b List.mem_cons_self)

/-- **Which claim sets regrouping leaves alone**: those where the claims of each kind stand
together. -/
theorem regroup_eq_self_iff {cs : ClaimSet} : cs.regroup = cs ↔ cs.Contiguous := by
  constructor
  · intro h
    rw [← h]
    exact contiguous_regroup cs
  · intro h
    -- over the claims: those of the first kind stand in front, and the others are fewer
    induction hlength : cs.length using Nat.strongRecOn generalizing cs with
    | _ n ih =>
      cases cs with
      | nil => rfl
      | cons c cs =>
        have hgroup : ∀ x ∈ (c :: cs).filter (·.kind == c.kind), x.kind = c.kind :=
          fun x hx => eq_of_beq (List.mem_filter.1 hx).2
        have hother : ∀ x ∈ withoutKind (c :: cs) c.kind, x.kind ≠ c.kind := by
          intro x hx
          simpa using (List.mem_filter.1 hx).2
        have hfewer : (withoutKind (c :: cs) c.kind).length < n := by
          rw [← hlength]
          exact List.length_filter_lt_length_iff_exists.2 ⟨c, List.mem_cons_self, by simp⟩
        have hrest : (withoutKind (c :: cs) c.kind).regroup = withoutKind (c :: cs) c.kind :=
          ih _ hfewer (h.keepKinds _) rfl
        calc regroup (c :: cs)
            = regroup ((c :: cs).filter (·.kind == c.kind) ++ withoutKind (c :: cs) c.kind) :=
              congrArg regroup h.eq_append
          _ = (c :: cs).filter (·.kind == c.kind) ++ withoutKind (c :: cs) c.kind := by
              rw [regroup_append_of_single hgroup hother, hrest]
          _ = c :: cs := h.eq_append.symm

/-! ## Written and read -/

theorem text_regroup (cs : ClaimSet) : cs.regroup.text = cs.text := by
  rw [text, members_regroup, text]

theorem members?_text (cs : ClaimSet) :
    Json.members? (Utf8.ofString cs.text) = some cs.members := by
  rw [text, Utf8.ofString, String.toList_ofList]
  exact Json.members?_objectChars fun m hm => isPlain_of_mem_members hm

/-- **A claim set reads back as its regrouping.** -/
theorem read?_text (cs : ClaimSet) : read? (Utf8.ofString cs.text) = some cs.regroup := by
  rw [read?_eq, members?_text, Option.map_some, ofMembers_members]

/-- **What a claim set is written as, and what that reads back as.**  The object has one member
for each kind, in the order in which the kinds first appear, so no name occurs twice.  It reads
back as the regrouped claims: the same claims as often, those of each kind together and in their
order.  So the claims themselves come back exactly when those of each kind stood together already.
And what any text reads as is written like what that reads back as. -/
theorem reads_as_regrouped (cs : ClaimSet) :
    (∃ ms, Json.members? (Utf8.ofString cs.text) = some ms ∧ ms.map Prod.fst = cs.kinds
        ∧ ∀ m ∈ ms, m.2 = wireValue (cs.values m.1))
      ∧ cs.kinds.Nodup
      ∧ (∀ kind, kind ∈ cs.kinds ↔ ∃ c ∈ cs, c.kind = kind)
      ∧ (cs.kinds.Pairwise fun k k' =>
          (cs.map Claim.kind).idxOf k < (cs.map Claim.kind).idxOf k')
      ∧ read? (Utf8.ofString cs.text) = some cs.regroup
      ∧ cs.regroup.Perm cs
      ∧ cs.regroup.Contiguous
      ∧ cs.regroup.kinds = cs.kinds
      ∧ (∀ kind, cs.regroup.values kind = cs.values kind)
      ∧ (read? (Utf8.ofString cs.text) = some cs ↔ cs.Contiguous)
      ∧ ∀ t cs', read? t = some cs' →
        (read? (Utf8.ofString cs'.text)).map text = some cs'.text := by
  refine ⟨⟨cs.members, members?_text cs, ?_, ?_⟩, nodup_distinct _, fun kind => mem_kinds,
    pairwise_distinct _, read?_text cs, perm_regroup cs, contiguous_regroup cs,
    kinds_regroup cs, values_regroup cs, ?_, fun t cs' _ => ?_⟩
  · rw [members, List.map_map]
    exact List.map_id cs.kinds
  · intro m hm
    obtain ⟨kind, -, rfl⟩ := List.mem_map.1 hm
    rfl
  · rw [read?_text, Option.some.injEq, regroup_eq_self_iff]
  · rw [read?_text, Option.map_some, text_regroup]

/-- Claims whose kinds are interleaved, one of them empty and one the name of an issuer. -/
def scattered : ClaimSet :=
  [⟨"group", "g1"⟩, ⟨"iss", "x"⟩, ⟨"group", ""⟩, ⟨"", "y"⟩, ⟨"group", "g1"⟩]

/-- A text that repeats a name, with an empty array, an array in an array and values that are no
texts. -/
def unkempt : String :=
  "\x7b\"a\":[1,[2],\"x\"],\"b\":[],\"a\":\x7b\"z\":true,\"y\":null\x7d,\"c\":1e3\x7d"

/-- The scattered claims come back in groups, and the unkempt text is written anew once and the
same from then on. -/
theorem reads_as_regrouped_scattered :
    read? (Utf8.ofString scattered.text)
        = some [⟨"group", "g1"⟩, ⟨"group", ""⟩, ⟨"group", "g1"⟩, ⟨"iss", "x"⟩, ⟨"", "y"⟩]
      ∧ read? (Utf8.ofString scattered.text) ≠ some scattered
      ∧ ∃ cs, read? (Utf8.ofString unkempt) = some cs ∧ cs.text ≠ unkempt
        ∧ (read? (Utf8.ofString cs.text)).map text = some cs.text := by
  obtain ⟨-, -, -, -, hread, -, -, -, -, hsame, hagain⟩ := reads_as_regrouped scattered
  have hregroup : scattered.regroup
      = [⟨"group", "g1"⟩, ⟨"group", ""⟩, ⟨"group", "g1"⟩, ⟨"iss", "x"⟩, ⟨"", "y"⟩] := by
    decide
  have hscattered : ¬ scattered.Contiguous := by decide
  have hunkempt : read? (Utf8.ofString unkempt)
      = some [⟨"a", "1"⟩, ⟨"a", "[2]"⟩, ⟨"a", "x"⟩, ⟨"a", "\x7b\"y\":null,\"z\":true\x7d"⟩,
        ⟨"c", "1000.0"⟩] := by
    decide +kernel
  rw [hregroup] at hread
  exact ⟨hread, fun h => hscattered (hsame.1 h), _, hunkempt, by decide +kernel,
    hagain _ _ hunkempt⟩

end BearerBridge.ClaimSet
