/-
# What a run records of its fetches

The notices of a run tell who fetched and what was published, in order.  They are never taken
back: a transition leaves them as they are, or adds the start of a fetch or a credential.  So what
a run has to say about its fetches can be read off its notices and the instants of its calls.

* `Transition.record` : what a transition adds to the record of a run;
* `inFlight_advance` : what moving on does to the fetches in flight;
* `Frugal` : no fetch starts, and no credential is published, for a call that needs none.
-/
import BearerBridge.Proofs.Client.SingleFlight

namespace BearerBridge

/-! ## Fetches -/

namespace Stage

/-- Whether a call has started a fetch and has no answer yet. -/
def isFetching : Stage → Bool
  | fetching => true
  | _ => false

/-- How many fetches a call may have started by now. -/
def fetches : Stage → Nat
  | arriving => 0
  | asking => 0
  | waiting => 0
  | entering => 0
  | _ => 1

theorem isFetching_iff {stage : Stage} : stage.isFetching = true ↔ stage = .fetching := by
  cases stage <;> simp [isFetching]

theorem fetches_le_one (stage : Stage) : stage.fetches ≤ 1 := by
  cases stage <;> simp [fetches]

end Stage

/-- How many fetches start among some notices. -/
def fetchesStarted (notices : List Notice) : Nat :=
  notices.countP fun
    | .fetchStarted _ => true
    | .published _ => false

@[simp] theorem fetchesStarted_fetchStarted (notices : List Notice) (i : Nat) :
    fetchesStarted (notices ++ [.fetchStarted i]) = fetchesStarted notices + 1 := by
  simp [fetchesStarted]

@[simp] theorem fetchesStarted_published (notices : List Notice) (c : Credential) :
    fetchesStarted (notices ++ [.published c]) = fetchesStarted notices := by
  simp [fetchesStarted]

/-- A credential is no start of a fetch. -/
theorem count_fetchStarted_published (notices : List Notice) (c : Credential) (i : Nat) :
    (notices ++ [Notice.published c]).count (.fetchStarted i)
      = notices.count (.fetchStarted i) := by
  simp [List.count_append]

theorem count_fetchStarted_self (notices : List Notice) (i : Nat) :
    (notices ++ [Notice.fetchStarted i]).count (.fetchStarted i)
      = notices.count (.fetchStarted i) + 1 := by
  simp [List.count_append]

theorem count_fetchStarted_of_ne (notices : List Notice) {i j : Nat} (hne : j ≠ i) :
    (notices ++ [Notice.fetchStarted i]).count (.fetchStarted j)
      = notices.count (.fetchStarted j) := by
  simp [List.count_append, hne.symm]

namespace CredentialCache

/-- How many fetches are in flight. -/
def inFlight (s : CredentialCache) : Nat :=
  s.calls.countP (·.stage.isFetching)

/-- Whether a move ends a fetch that publishes nothing: its answer is of no use or takes too long,
or its call is cancelled. -/
def losesFetch (s : CredentialCache) : Move → Bool
  | .answer i token =>
    s.calls[i]?.any fun call => call.stage.isFetching && !(accept call.now token).isOk
  | .expire i => s.isFetching i
  | .cancel i => s.isFetching i
  | _ => false

/-- How many fetches fail or are cancelled in the course of some moves. -/
def lostFetches (s : CredentialCache) : List Move → Nat
  | [] => 0
  | m :: ms => (s.losesFetch m).toNat + ((s.step m).map (·.lostFetches ms)).getD 0

/-- The instants of the calls, in the order of their arrival. -/
def instants (s : CredentialCache) : List Int64 :=
  s.calls.map Call.now

variable {s t : CredentialCache} {m : Move} {ms : List Move}

theorem instants_getElem? {i : Nat} {call : Call} (h : s.calls[i]? = some call) :
    s.instants[i]? = some call.now := by
  rw [instants, List.getElem?_map, h]
  rfl

/-- Moving on does not change the instants of the calls. -/
@[simp] theorem instants_advance (s : CredentialCache) (i : Nat) (stage : Stage) :
    (s.advance i stage).instants = s.instants := by
  apply List.ext_getElem?
  intro j
  simp only [instants, advance, List.getElem?_map, List.getElem?_modify]
  cases s.calls[j]? with
  | none => rfl
  | some call => by_cases hj : i = j <;> simp [hj]

theorem isFetching_eq {i : Nat} {call : Call} (h : s.calls[i]? = some call) :
    s.isFetching i = call.stage.isFetching := by
  obtain ⟨target, now, stage⟩ := call
  rw [isFetching, stage?, h]
  cases stage <;> rfl

/-- A call that moves on counts as in flight at its new stage and no longer at the old one. -/
theorem inFlight_advance {i : Nat} {call : Call} (h : s.calls[i]? = some call) (stage : Stage) :
    (s.advance i stage).inFlight + call.stage.isFetching.toNat
      = s.inFlight + stage.isFetching.toNat := by
  obtain ⟨hi, hcall⟩ := List.getElem?_eq_some_iff.1 h
  obtain ⟨before, found, after, hcalls, hlength, hmodified⟩ :=
    List.exists_of_modify (fun c : Call => { c with stage }) hi
  obtain rfl : found = call := by
    rw [← hcall, ← Option.some_inj, ← List.getElem?_eq_getElem hi, hcalls, ← hlength]
    simp
  rw [inFlight, inFlight, advance, hmodified, hcalls]
  simp only [List.countP_append, List.countP_cons]
  cases found.stage.isFetching <;> cases stage.isFetching <;> simp <;> omega

/-! ## What a transition leaves in the record -/

/-- What a transition adds to the record of a run: no notice, the start of a fetch for which the
current credential will not do, or a credential that does. -/
inductive Record (s t : CredentialCache) : Prop where
  | nothing (hhistory : t.history = s.history) (hinstants : s.instants <+: t.instants)
  | fetch {i : Nat} {call : Call} (hcall : s.calls[i]? = some call)
      (hvalid : s.valid? call.now = none)
      (hhistory : t.history = s.history ++ [.fetchStarted i]) (hinstants : t.instants = s.instants)
  | publish {i : Nat} {call : Call} {c : Credential} (hcall : s.calls[i]? = some call)
      (hstage : call.stage = .fetching) (hgood : c.isExpired call.now = false)
      (hhistory : t.history = s.history ++ [.published c]) (hinstants : t.instants = s.instants)

theorem Transition.record (ht : Transition s m t) : Record s t := by
  have hsame (i : Nat) (stage : Stage) : s.instants <+: (s.advance i stage).instants := by
    simp only [instants_advance, List.prefix_refl]
  cases ht with
  | arrive target now looks =>
    refine .nothing rfl ?_
    rw [instants, instants, List.map_append]
    exact List.prefix_append ..
  | fetch hcall hstage hvalid => exact .fetch hcall hvalid rfl (instants_advance ..)
  | publish hcall hstage haccept =>
    obtain ⟨-, -, -, hgood⟩ := accept_eq_ok_iff.1 haccept
    exact .publish hcall hstage hgood rfl (instants_advance ..)
  | lookFound | lookNothing | queue | enter | lookAgainFound | fail | expire | leave | cancel =>
    exact .nothing rfl (hsame _ _)

/-- The notices of a run are never taken back. -/
theorem Record.history_prefix (h : Record s t) : s.history <+: t.history := by
  cases h with
  | nothing hhistory => simp only [hhistory, List.prefix_refl]
  | fetch _ _ hhistory | publish _ _ _ hhistory =>
    rw [hhistory]
    exact List.prefix_append ..

theorem Record.mem_published (h : Record s t) {c : Credential} (hc : c ∈ published s.history) :
    c ∈ published t.history := by
  obtain ⟨rest, hrest⟩ := h.history_prefix
  rw [← hrest, published, List.filterMap_append]
  exact List.mem_append_left _ hc

/-! ## The notices of a run -/

/-- Where something stands in a list that has grown at its end. -/
theorem eq_or_of_append_eq_concat {α : Type} {before after xs : List α} {a b : α}
    (h : before ++ a :: after = xs ++ [b]) :
    (before = xs ∧ a = b) ∨ ∃ rest, before ++ a :: rest = xs := by
  rcases List.eq_nil_or_concat after with rfl | ⟨rest, last, rfl⟩
  · obtain ⟨hbefore, hlast⟩ := List.append_inj' h rfl
    exact Or.inl ⟨hbefore, List.head_eq_of_cons_eq hlast⟩
  · rw [List.concat_eq_append, ← List.cons_append, ← List.append_assoc] at h
    exact Or.inr ⟨rest, (List.append_inj' h rfl).1⟩

/-- **What the notices of a run tell about its fetches**, given the instants of its calls. -/
structure Frugal (notices : List Notice) (instants : List Int64) : Prop where
  /-- Whoever fetches could not use any credential published before. -/
  justified : ∀ before i after, notices = before ++ .fetchStarted i :: after →
    ∃ now, instants[i]? = some now ∧ ∀ c ∈ published before, c.isExpired now = true
  /-- Each credential is good for some call. -/
  useful : ∀ c ∈ published notices, ∃ now ∈ instants, c.isExpired now = false
  /-- Of two credentials, some call could use the later one only. -/
  needed : (published notices).Pairwise fun c c' =>
    ∃ now ∈ instants, c.isExpired now = true ∧ c'.isExpired now = false

namespace Frugal

variable {notices : List Notice} {instants instants' : List Int64}

theorem nil (instants : List Int64) : Frugal [] instants where
  justified before i after h := absurd h (by simp)
  useful c hc := absurd hc List.not_mem_nil
  needed := List.Pairwise.nil

/-- New calls take nothing back. -/
theorem mono (h : Frugal notices instants) (hinstants : instants <+: instants') :
    Frugal notices instants' where
  justified before i after hsplit := by
    obtain ⟨now, hnow, hall⟩ := h.justified before i after hsplit
    obtain ⟨more, rfl⟩ := hinstants
    have hi : i < instants.length := (List.getElem?_eq_some_iff.1 hnow).1
    exact ⟨now, (List.getElem?_append_left hi).trans hnow, hall⟩
  useful c hc := by
    obtain ⟨now, hnow, hgood⟩ := h.useful c hc
    exact ⟨now, hinstants.subset hnow, hgood⟩
  needed := h.needed.imp fun ⟨now, hnow, huse⟩ => ⟨now, hinstants.subset hnow, huse⟩

/-- A fetch starts for a call that can use none of the credentials. -/
theorem fetch (h : Frugal notices instants) {i : Nat} {now : Int64}
    (hnow : instants[i]? = some now) (hall : ∀ c ∈ published notices, c.isExpired now = true) :
    Frugal (notices ++ [.fetchStarted i]) instants where
  justified before j after hsplit := by
    rcases eq_or_of_append_eq_concat hsplit.symm with ⟨rfl, hj⟩ | ⟨rest, hrest⟩
    · obtain rfl := Notice.fetchStarted.inj hj
      exact ⟨now, hnow, hall⟩
    · exact h.justified before j rest hrest.symm
  useful := by
    rw [published_fetchStarted]
    exact h.useful
  needed := by
    rw [published_fetchStarted]
    exact h.needed

/-- A credential is published for a call that can use none of the others. -/
theorem publish (h : Frugal notices instants) {c : Credential} {now : Int64}
    (hnow : now ∈ instants) (hall : ∀ c ∈ published notices, c.isExpired now = true)
    (hgood : c.isExpired now = false) : Frugal (notices ++ [.published c]) instants where
  justified before j after hsplit := by
    rcases eq_or_of_append_eq_concat hsplit.symm with ⟨-, hj⟩ | ⟨rest, hrest⟩
    · exact absurd hj (by simp)
    · exact h.justified before j rest hrest.symm
  useful c' hc' := by
    rw [published_published, List.mem_append, List.mem_singleton] at hc'
    rcases hc' with hc' | rfl
    · exact h.useful c' hc'
    · exact ⟨now, hnow, hgood⟩
  needed := by
    rw [published_published, List.pairwise_append]
    refine ⟨h.needed, List.pairwise_singleton _ c, fun a ha b hb => ?_⟩
    obtain rfl := List.mem_singleton.1 hb
    exact ⟨now, hnow, hall a ha, hgood⟩

/-- A number that no call has yet is the number of no fetch. -/
theorem count_fetchStarted (h : Frugal notices instants) {i : Nat} (hi : instants.length ≤ i) :
    notices.count (.fetchStarted i) = 0 := by
  rw [List.count_eq_zero]
  intro hmem
  obtain ⟨before, after, hsplit⟩ := List.append_of_mem hmem
  obtain ⟨now, hnow, -⟩ := h.justified before i after hsplit
  obtain ⟨hlt, -⟩ := List.getElem?_eq_some_iff.1 hnow
  omega

/-! ### Calls at one instant -/

variable {now : Int64}

/-- Every credential is good for calls at the one instant there is. -/
theorem isExpired_eq_false (h : Frugal notices instants) (hall : ∀ t ∈ instants, t = now)
    {c : Credential} (hc : c ∈ published notices) : c.isExpired now = false := by
  obtain ⟨t, ht, hgood⟩ := h.useful c hc
  rwa [hall t ht] at hgood

/-- One credential is enough for calls at one instant. -/
theorem length_published_le_one (h : Frugal notices instants) (hall : ∀ t ∈ instants, t = now) :
    (published notices).length ≤ 1 := by
  cases hpublished : published notices with
  | nil => exact Nat.zero_le 1
  | cons c rest =>
    cases rest with
    | nil => exact Nat.le_refl 1
    | cons c' rest =>
      -- some call could not use the first of the two, but it is good for all of them
      have hneeded := h.needed
      rw [hpublished, List.pairwise_cons] at hneeded
      obtain ⟨t, ht, hexpired, -⟩ := hneeded.1 c' (List.mem_cons_self ..)
      have hgood := h.isExpired_eq_false hall (c := c) (by simp [hpublished])
      rw [hall t ht] at hexpired
      exact absurd (hexpired.symm.trans hgood) (by simp)

/-- Once a credential is published, calls at the same instant fetch no more. -/
theorem notMem_of_published {before after : List Notice} {c : Credential}
    (h : Frugal notices instants) (hall : ∀ t ∈ instants, t = now)
    (hsplit : notices = before ++ .published c :: after) (i : Nat) :
    .fetchStarted i ∉ after := by
  intro hmem
  obtain ⟨between, rest, rfl⟩ := List.append_of_mem hmem
  have hearlier : notices = (before ++ .published c :: between) ++ .fetchStarted i :: rest := by
    rw [hsplit, List.append_assoc, List.cons_append]
  obtain ⟨t, ht, hexpired⟩ := h.justified _ i rest hearlier
  have hpublished : c ∈ published (before ++ .published c :: between) := by
    simp [published]
  have hgood := h.isExpired_eq_false hall (c := c) (by
    rw [hearlier, published, List.filterMap_append]
    exact List.mem_append_left _ hpublished)
  have hbad := hexpired c hpublished
  rw [hall t (List.mem_of_getElem? ht)] at hbad
  exact absurd (hbad.symm.trans hgood) (by simp)

end Frugal

end CredentialCache

end BearerBridge
