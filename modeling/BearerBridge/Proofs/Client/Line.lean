/-
# The line of calls

Whoever waits for the front place of the line or has it is in the line, once, and nobody else is.
So when nobody has the front place, the call at the front of the line is one that waits, and it may
enter: the place is not lost, whatever became of the call that had it last.

* `InOrder` : who is in the line;
* `InOrder.step`, `InOrder.run` : one transition keeps the line in order, and so does every run;
* `IsFree` : the front place is there for the next call;
* `isFree_of_nobody` : it is when nobody has it.
-/
import BearerBridge.Proofs.Client.SingleFlight

namespace BearerBridge

/-- Whether a call waits for the front place of the line or has it. -/
def Stage.InLine : Stage → Prop
  | waiting => True
  | entering => True
  | fetching => True
  | leaving _ => True
  | _ => False

/-- Who is in line and does not have the front place waits for it. -/
theorem Stage.InLine.waiting {stage : Stage} (h : stage.InLine) (hfront : ¬ stage.IsFront) :
    stage = .waiting := by
  cases stage with
  | waiting => rfl
  | entering | fetching | leaving => exact absurd trivial hfront
  | _ => exact h.elim

namespace CredentialCache

variable {s t : CredentialCache} {m : Move} {ms : List Move} {i j : Nat} {call : Call}

/-! ## Calls that have moved on -/

theorem calls_advance_self (h : s.calls[i]? = some call) (stage : Stage) :
    (s.advance i stage).calls[i]? = some { call with stage } := by
  simp [advance, h]

theorem calls_advance_of_ne (hne : j ≠ i) (stage : Stage) :
    (s.advance i stage).calls[j]? = s.calls[j]? := by
  simp [advance, hne.symm]

/-! ## Who is in the line -/

/-- **The line in order**: whoever waits for the front place or has it is in the line once, and
nobody else is. -/
structure InOrder (line : List Nat) (calls : List Call) : Prop where
  nodup : line.Nodup
  mem_iff : ∀ i, i ∈ line ↔ ∃ call, calls[i]? = some call ∧ call.stage.InLine

theorem InOrder.mem_iff_inLine (h : InOrder s.line s.calls) (hcall : s.calls[i]? = some call) :
    i ∈ s.line ↔ call.stage.InLine := by
  rw [h.mem_iff]
  constructor
  · rintro ⟨call', hcall', hin⟩
    obtain rfl := Option.some.inj (hcall.symm.trans hcall')
    exact hin
  · intro hin
    exact ⟨call, hcall, hin⟩

/-- A call moves on, and only its own place in the line changes with it. -/
theorem InOrder.advance (h : InOrder s.line s.calls) (hcall : s.calls[i]? = some call)
    {stage : Stage} {line : List Nat} (hnodup : line.Nodup)
    (hothers : ∀ j, j ≠ i → (j ∈ line ↔ j ∈ s.line)) (hone : i ∈ line ↔ stage.InLine) :
    InOrder line (s.advance i stage).calls where
  nodup := hnodup
  mem_iff j := by
    by_cases hj : j = i
    · subst hj
      rw [hone, calls_advance_self hcall]
      constructor
      · intro hin
        exact ⟨_, rfl, hin⟩
      · rintro ⟨call', hcall', hin⟩
        obtain rfl := Option.some.inj hcall'
        exact hin
    · rw [hothers j hj, h.mem_iff, calls_advance_of_ne hj]

/-- A call moves on and stays where it is in the line, or outside. -/
theorem InOrder.advance_of_iff (h : InOrder s.line s.calls) (hcall : s.calls[i]? = some call)
    {stage : Stage} (hsame : call.stage.InLine ↔ stage.InLine) :
    InOrder s.line (s.advance i stage).calls :=
  h.advance hcall h.nodup (fun _ _ => Iff.rfl) ((h.mem_iff_inLine hcall).trans hsame)

/-- A call moves on and gives up its place in the line, if it had one. -/
theorem InOrder.advance_erase (h : InOrder s.line s.calls) (hcall : s.calls[i]? = some call)
    {stage : Stage} (hout : ¬ stage.InLine) :
    InOrder (s.line.erase i) (s.advance i stage).calls := by
  refine h.advance hcall (h.nodup.erase i) (fun j hj => List.mem_erase_of_ne hj) ?_
  exact iff_of_false h.nodup.not_mem_erase hout

/-- **One transition keeps the line in order.** -/
theorem InOrder.step (h : InOrder s.line s.calls) (ht : Transition s m t) :
    InOrder t.line t.calls := by
  cases ht with
  | arrive target now looks =>
    refine ⟨h.nodup, fun i => ?_⟩
    -- the new call is not in the line yet
    have hnew : ¬ (Stage.InLine (if looks then .arriving else .asking)) := by
      cases looks <;> exact id
    rw [h.mem_iff]
    constructor
    · rintro ⟨call, hcall, hin⟩
      have hlt : i < s.calls.length := (List.getElem?_eq_some_iff.1 hcall).1
      exact ⟨call, (List.getElem?_append_left hlt).trans hcall, hin⟩
    · rintro ⟨call, hcall, hin⟩
      rw [List.getElem?_append] at hcall
      split at hcall
      · exact ⟨call, hcall, hin⟩
      · rw [List.getElem?_singleton] at hcall
        split at hcall
        · obtain rfl := Option.some.inj hcall
          exact absurd hin hnew
        · exact absurd hcall (by simp)
  | lookFound hcall hstage | lookNothing hcall hstage | enter hcall hstage
  | lookAgainFound hcall hstage | fetch hcall hstage | publish hcall hstage
  | fail hcall hstage | expire hcall hstage =>
    refine h.advance_of_iff hcall ?_
    rw [hstage]
    exact Iff.rfl
  | @queue i call hcall hstage =>
    have hnot : i ∉ s.line := by
      rw [h.mem_iff_inLine hcall, hstage]
      exact id
    have hnodup : (s.line ++ [i]).Nodup := by
      rw [List.nodup_append]
      refine ⟨h.nodup, List.pairwise_singleton .., fun a ha b hb e => ?_⟩
      rw [e, List.mem_singleton.1 hb] at ha
      exact hnot ha
    refine h.advance hcall hnodup (fun j hj => ?_) (iff_of_true (by simp) trivial)
    rw [List.mem_append, List.mem_singleton, or_iff_left hj]
  | leave hcall | cancel hcall => exact h.advance_erase hcall id

/-- **Every run keeps the line in order.** -/
theorem InOrder.run (h : InOrder s.line s.calls) (hrun : s.run? ms = some t) :
    InOrder t.line t.calls := by
  induction ms generalizing s with
  | nil =>
    obtain rfl := Option.some.inj hrun
    exact h
  | cons m ms ih =>
    rw [run?, Option.bind_eq_some_iff] at hrun
    obtain ⟨u, hstep, hrest⟩ := hrun
    exact ih (h.step (transition_of_step hstep)) hrest

theorem inOrder_of_run {timeout : Option Nat} (h : (empty timeout).run? ms = some s) :
    InOrder s.line s.calls := by
  have hempty : InOrder (empty timeout).line (empty timeout).calls := by
    refine ⟨List.nodup_nil, fun i => ?_⟩
    simp [empty]
  exact hempty.run h

/-! ## The front place -/

/-- **The front place is there for the next call.** -/
structure IsFree (s : CredentialCache) : Prop where
  /-- Nobody has it. -/
  nobody : EachCall s.calls fun _ call => ¬ call.stage.IsFront
  /-- The next call in line may enter. -/
  next : ∀ j, s.line.head? = some j → s.step (.enter j) = some (s.advance j .entering)
  /-- When the line is empty, a call that asks may enter as soon as it has queued. -/
  newcomer : s.line = [] → ∀ j, s.stage? j = some .asking →
    ∃ t, s.run? [.queue j, .enter j] = some t ∧ t.stage? j = some .entering

/-- Who waits at the front of the line may enter. -/
theorem step_enter (hstage : s.stage? j = some .waiting) (hhead : s.line.head? = some j) :
    s.step (.enter j) = some (s.advance j .entering) := by
  rw [step, hstage]
  exact if_pos hhead

theorem step_queue (hstage : s.stage? j = some .asking) :
    s.step (.queue j) = some { s.advance j .waiting with line := s.line ++ [j] } := by
  rw [step, hstage]

/-- The front place is there for the next call when nobody has it. -/
theorem isFree_of_nobody (h : InOrder s.line s.calls)
    (hnobody : EachCall s.calls fun _ call => ¬ call.stage.IsFront) : s.IsFree where
  nobody := hnobody
  next j hj := by
    obtain ⟨call, hcall, hin⟩ := (h.mem_iff j).1 (List.mem_of_head? hj)
    have hwaiting := hin.waiting (hnobody j call hcall)
    exact step_enter (stage?_eq_some_iff.2 ⟨call, hcall, hwaiting⟩) hj
  newcomer hline j hj := by
    obtain ⟨call, hcall, -⟩ := stage?_eq_some_iff.1 hj
    have hqueue := step_queue hj
    rw [hline, List.nil_append] at hqueue
    generalize hu : ({ s.advance j .waiting with line := [j] } : CredentialCache) = u at hqueue
    have hqueued : u.calls[j]? = some { call with stage := .waiting } := by
      rw [← hu]
      exact calls_advance_self hcall .waiting
    have hhead : u.line.head? = some j := by
      rw [← hu]
      rfl
    have henter := step_enter (stage?_eq_some_iff.2 ⟨_, hqueued, rfl⟩) hhead
    refine ⟨u.advance j .entering, ?_, ?_⟩
    · rw [run?, hqueue, Option.bind_some, run?, henter, Option.bind_some, run?]
    · exact stage?_eq_some_iff.2 ⟨_, calls_advance_self hqueued .entering, rfl⟩

end CredentialCache

end BearerBridge
