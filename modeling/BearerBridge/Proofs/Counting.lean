/-
# What the counters add up to

The counters are listed with one line for each series that was raised, and its number is how often
it was.  So the numbers of all lines of a kind add up to how often a series of that kind was raised,
and what is measured later is added on top.

* `nodup_growth` : no series is listed twice;
* `sumOf_growth` : what the numbers of some series add up to.
-/
import BearerBridge.Metrics
import Mathlib.Algebra.Order.Ring.Nat

namespace BearerBridge

/-! ## Tallies -/

/-- Series with different names are different. -/
theorem Series.beq_of_name_ne {s s' : Series} (h : ¬ s.name = s'.name) : (s == s') = false := by
  rw [beq_eq_false_iff_ne]
  rintro rfl
  exact h rfl

/-- A list of numbered series has nothing in it but the series. -/
theorem mem_of_mem_tally {ss : List Series} {g : Series × Nat} (h : g ∈ tally ss) : g.1 ∈ ss := by
  induction ss with
  | nil => exact absurd h (by simp [tally])
  | cons s ss ih =>
    rcases List.mem_cons.1 h with rfl | h
    · exact List.mem_cons_self
    · exact List.mem_cons_of_mem _ (ih (List.mem_filter.1 h).1)

/-- It has each of them once. -/
theorem nodup_tally (ss : List Series) : ((tally ss).map (·.1)).Nodup := by
  induction ss with
  | nil => exact List.nodup_nil
  | cons s ss ih =>
    rw [tally, List.map_cons, List.nodup_cons]
    constructor
    · intro hmem
      obtain ⟨g, hg, hname⟩ := List.mem_map.1 hmem
      exact of_decide_eq_true (List.mem_filter.1 hg).2 hname
    · exact ih.sublist (List.filter_sublist.map _)

/-- The numbers of the series that pass a test, added up. -/
def sumOf (test : Series → Bool) (gs : List (Series × Nat)) : Nat :=
  ((gs.filter (test ·.1)).map (·.2)).sum

theorem sumOf_append (test : Series → Bool) (gs gs' : List (Series × Nat)) :
    sumOf test (gs ++ gs') = sumOf test gs + sumOf test gs' := by
  rw [sumOf, List.filter_append, List.map_append, List.sum_append, sumOf, sumOf]

/-- A series among those that pass a test, apart from the others. -/
theorem countP_eq_add_count (test : Series → Bool) (s : Series) (ss : List Series) :
    ss.countP test
      = (ss.countP fun x => test x && decide (x ≠ s)) + if test s then ss.count s else 0 := by
  induction ss with
  | nil => simp
  | cons x ss ih =>
    rw [List.countP_cons, List.countP_cons, List.count_cons, ih]
    by_cases hx : x = s
    · rw [hx]
      cases test s <;> simp
      omega
    · have hne : (x == s) = false := beq_eq_false_iff_ne.2 hx
      rw [hne]
      cases test x <;> cases test s <;> simp [hx]
      omega

/-- **What the numbers of a tally add up to**: how often the series are there. -/
theorem sumOf_tally (test : Series → Bool) (ss : List Series) :
    sumOf test (tally ss) = ss.countP test := by
  induction ss generalizing test with
  | nil => rfl
  | cons s ss ih =>
    have hrest : sumOf test ((tally ss).filter (·.1 ≠ s))
        = ss.countP fun x => test x && decide (x ≠ s) := by
      rw [← ih, sumOf, List.filter_filter, sumOf]
    rw [List.countP_cons, countP_eq_add_count test s ss, ← hrest, tally, sumOf, List.filter_cons,
      sumOf]
    dsimp only
    cases test s with
    | true =>
      simp only [if_true, List.map_cons, List.sum_cons]
      omega
    | false => rfl

/-! ## All series -/

/-- The series that a measurement raises. -/
def Measurement.series (m : Measurement) : List Series :=
  m.counter :: m.buckets

/-- An issuance raises its counter and the number of durations, and buckets beside them. -/
theorem Measurement.countP_series_issuance {test : Series → Bool}
    (hbuckets : ∀ labels, test ⟨"bridge_token_issuance_duration_seconds_bucket", labels⟩ = false)
    (status : String) (micros : Nat) :
    (issuance status micros).series.countP test
      = (if test ⟨"bridge_token_issuance_total", [("status", status)]⟩ then 1 else 0)
        + if test ⟨"bridge_token_issuance_duration_seconds_count", [("status", status)]⟩
          then 1 else 0 := by
  have hnone : ∀ bounds : List String, (bounds.map fun le => (⟨
      "bridge_token_issuance_duration_seconds_bucket",
      [("status", status), ("le", le)]⟩ : Series)).countP test = 0 := by
    intro bounds
    rw [List.countP_map, List.countP_eq_zero]
    intro le _
    rw [Function.comp_apply, hbuckets]
    decide
  rw [series, List.countP_cons, counter, buckets, List.countP_append, hnone, List.countP_singleton]
  omega

/-- Counters and buckets have different names. -/
theorem Measurement.counter_notMem_buckets (m m' : Measurement) : m.counter ∉ m'.buckets := by
  have hname : m.counter.name ∈ ["bridge_handshake_total", "bridge_token_issuance_total",
      "bridge_token_validations_total"] := by
    cases m <;> simp [counter]
  intro hmem
  cases m' with
  | handshake status => exact absurd hmem (by simp [buckets])
  | validation status category => exact absurd hmem (by simp [buckets])
  | issuance status micros =>
    rcases List.mem_append.1 hmem with hbucket | hcount
    · obtain ⟨le, -, he⟩ := List.mem_map.1 hbucket
      rw [← he] at hname
      exact absurd hname (by simp)
    · rw [List.mem_singleton.1 hcount] at hname
      exact absurd hname (by simp)

/-- What is listed has been raised. -/
theorem mem_series_of_mem_growth {ms : List Measurement} {g : Series × Nat} (h : g ∈ growth ms) :
    ∃ m ∈ ms, g.1 ∈ m.series := by
  rcases List.mem_append.1 h with h | h
  · obtain ⟨m, hm, hcounter⟩ := List.mem_map.1 (mem_of_mem_tally h)
    exact ⟨m, hm, hcounter ▸ List.mem_cons_self⟩
  · obtain ⟨m, hm, hbucket⟩ := List.mem_flatMap.1 (mem_of_mem_tally h)
    exact ⟨m, hm, List.mem_cons_of_mem _ hbucket⟩

/-- **No series is listed twice.** -/
theorem nodup_growth (ms : List Measurement) : ((growth ms).map (·.1)).Nodup := by
  rw [growth, counterGrowth, List.map_append, List.nodup_append]
  refine ⟨nodup_tally _, nodup_tally _, ?_⟩
  intro s hs s' hs' he
  obtain ⟨g, hg, rfl⟩ := List.mem_map.1 hs
  obtain ⟨g', hg', rfl⟩ := List.mem_map.1 hs'
  obtain ⟨m, -, hcounter⟩ := List.mem_map.1 (mem_of_mem_tally hg)
  obtain ⟨m', -, hbucket⟩ := List.mem_flatMap.1 (mem_of_mem_tally hg')
  rw [← he, ← hcounter] at hbucket
  exact m.counter_notMem_buckets m' hbucket

/-- **What the numbers that are listed add up to**: how often the series were raised. -/
theorem sumOf_growth (test : Series → Bool) (ms : List Measurement) :
    sumOf test (growth ms) = (ms.flatMap Measurement.series).countP test := by
  rw [growth, counterGrowth, sumOf_append, sumOf_tally, sumOf_tally]
  induction ms with
  | nil => rfl
  | cons m ms ih =>
    simp only [List.map_cons, List.flatMap_cons, List.countP_cons, List.countP_append,
      Measurement.series] at ih ⊢
    omega

end BearerBridge
