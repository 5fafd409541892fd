/-
# The course of a call

A call moves from stage to stage on a way without return, and only its own moves take it on.  So
what is true of a call once it is past a stage stays true of it in every run; and as only a call
whose fetch is served replaces the current credential, what a call did can be read off its stage.

* `Stage.Next` : the way from stage to stage;
* `Transition.course` : a move takes its own call on, and no other;
* `Transition.sameView_or` : who replaces the current credential;
* `exists_of_run` : what the way keeps stays true of a call;
* `unobtrusive_of_run` : who gets no credential changes nothing;
* `sameView_of_fetching` : nobody replaces it while a call fetches.
-/
import BearerBridge.Proofs.Client.Line

namespace BearerBridge

/-- **The way of a call** from stage to stage. -/
inductive Stage.Next : Stage → Stage → Prop where
  | found (c : Credential) : Next .arriving (.finished (.ok c))
  | asks : Next .arriving .asking
  | queues : Next .asking .waiting
  | enters : Next .waiting .entering
  | finds (c : Credential) : Next .entering (.leaving (.ok c))
  | fetches : Next .entering .fetching
  | ends (outcome : Except ClientFault Credential) : Next .fetching (.leaving outcome)
  | leaves (outcome : Except ClientFault Credential) :
    Next (.leaving outcome) (.finished outcome)
  | cancels {stage : Stage} (h : stage.IsOpen) : Next stage .cancelled

/-- Whether a call has come to an outcome, or will come to none. -/
def Stage.IsSettled : Stage → Prop
  | leaving _ => True
  | finished _ => True
  | cancelled => True
  | _ => False

/-- What is settled stays so. -/
theorem Stage.IsSettled.next (a b : Stage) (h : a.IsSettled) (hnext : a.Next b) : b.IsSettled := by
  cases hnext with
  | ends | leaves | cancels => trivial
  | _ => exact h.elim

/-- Whether a call needs nothing any more: it has got a credential, or it is cancelled. -/
def Stage.NeedsNothing : Stage → Prop
  | leaving (.ok _) => True
  | finished (.ok _) => True
  | cancelled => True
  | _ => False

theorem Stage.NeedsNothing.isSettled {stage : Stage} (h : stage.NeedsNothing) :
    stage.IsSettled := by
  cases stage with
  | leaving | finished | cancelled => trivial
  | _ => exact h.elim

/-- Who needs nothing will need nothing. -/
theorem Stage.NeedsNothing.next (a b : Stage) (h : a.NeedsNothing) (hnext : a.Next b) :
    b.NeedsNothing := by
  cases hnext with
  | found | finds | cancels => trivial
  | leaves outcome =>
    cases outcome with
    | ok c => trivial
    | error fault => exact h.elim
  | _ => exact h.elim

/-- The call that a move is of; an arrival is of none so far. -/
def Move.call? : Move → Option Nat
  | .arrive .. => none
  | .look i => some i
  | .queue i => some i
  | .enter i => some i
  | .lookAgain i => some i
  | .answer i _ => some i
  | .expire i => some i
  | .leave i => some i
  | .cancel i => some i

namespace CredentialCache

variable {s t : CredentialCache} {m : Move} {ms : List Move} {i : Nat} {call : Call}

/-! ## One move -/

/-- What a move means to a call: it stays at its stage, or moves on by a move of its own. -/
inductive Course (t : CredentialCache) (m : Move) (i : Nat) (call : Call) : Prop where
  | still (hm : m.call? ≠ some i) (h : t.calls[i]? = some call)
  | on {stage : Stage} (hm : m.call? = some i) (hnext : call.stage.Next stage)
      (h : t.calls[i]? = some { call with stage })

/-- What the advance of one call means to another one, or to itself. -/
theorem course_advance {k : Nat} {other : Call} {stage : Stage}
    (hother : s.calls[k]? = some other) (hnext : other.stage.Next stage) (hm : m.call? = some k)
    (hcalls : t.calls = (s.advance k stage).calls) (hcall : s.calls[i]? = some call) :
    Course t m i call := by
  by_cases hi : i = k
  · subst hi
    obtain rfl := Option.some.inj (hother.symm.trans hcall)
    exact .on hm hnext (by rw [hcalls, calls_advance_self hcall])
  · refine .still ?_ (by rw [hcalls, calls_advance_of_ne hi, hcall])
    rw [hm]
    exact fun e => hi (Option.some.inj e).symm

/-- **A move takes its own call on**, and no other. -/
theorem Transition.course (ht : Transition s m t) (hcall : s.calls[i]? = some call) :
    Course t m i call := by
  cases ht with
  | arrive target now looks =>
    have hlt : i < s.calls.length := (List.getElem?_eq_some_iff.1 hcall).1
    exact .still (by simp [Move.call?]) ((List.getElem?_append_left hlt).trans hcall)
  | lookFound hother hstage => exact course_advance hother (hstage ▸ .found _) rfl rfl hcall
  | lookNothing hother hstage => exact course_advance hother (hstage ▸ .asks) rfl rfl hcall
  | queue hother hstage => exact course_advance hother (hstage ▸ .queues) rfl rfl hcall
  | enter hother hstage => exact course_advance hother (hstage ▸ .enters) rfl rfl hcall
  | lookAgainFound hother hstage => exact course_advance hother (hstage ▸ .finds _) rfl rfl hcall
  | fetch hother hstage => exact course_advance hother (hstage ▸ .fetches) rfl rfl hcall
  | publish hother hstage => exact course_advance hother (hstage ▸ .ends _) rfl rfl hcall
  | fail hother hstage => exact course_advance hother (hstage ▸ .ends _) rfl rfl hcall
  | expire hother hstage => exact course_advance hother (hstage ▸ .ends _) rfl rfl hcall
  | leave hother hstage => exact course_advance hother (hstage ▸ .leaves _) rfl rfl hcall
  | cancel hother hopen => exact course_advance hother (.cancels hopen) rfl rfl hcall

/-- **Two states that subscribers cannot tell apart**: the same credential is current, and the same
ones are published. -/
structure SameView (s t : CredentialCache) : Prop where
  current : t.current = s.current
  shown : published t.history = published s.history

theorem SameView.refl (s : CredentialCache) : s.SameView s :=
  ⟨rfl, rfl⟩

theorem SameView.trans {u : CredentialCache} (h : s.SameView u) (h' : u.SameView t) :
    s.SameView t :=
  ⟨h'.current.trans h.current, h'.shown.trans h.shown⟩

/-- **Only a call whose fetch is served replaces the current credential**, and nobody else shows
subscribers anything new. -/
theorem Transition.sameView_or (ht : Transition s m t) :
    s.SameView t
      ∨ ∃ k call c, m.call? = some k ∧ s.calls[k]? = some call ∧ call.stage = .fetching
        ∧ t.calls[k]? = some { call with stage := .leaving (.ok c) } := by
  cases ht with
  | fetch => exact .inl ⟨rfl, published_fetchStarted ..⟩
  | publish hcall hstage =>
    exact .inr ⟨_, _, _, rfl, hcall, hstage, calls_advance_self hcall _⟩
  | _ => exact .inl ⟨rfl, rfl⟩

/-! ## Runs -/

/-- **What the way keeps stays true of a call.** -/
theorem exists_of_run {P : Stage → Prop} (hP : ∀ a b, P a → a.Next b → P b)
    (hrun : s.run? ms = some t) (hcall : s.calls[i]? = some call) (h : P call.stage) :
    ∃ call', t.calls[i]? = some call' ∧ P call'.stage := by
  induction ms generalizing s call with
  | nil =>
    obtain rfl := Option.some.inj hrun
    exact ⟨call, hcall, h⟩
  | cons m ms ih =>
    rw [run?, Option.bind_eq_some_iff] at hrun
    obtain ⟨u, hstep, hrest⟩ := hrun
    cases (transition_of_step hstep).course hcall with
    | still _ hcall' => exact ih hrest hcall' h
    | on _ hnext hcall' => exact ih hrest hcall' (hP _ _ h hnext)

variable {timeout : Option Nat} {done rest : List Move} {u : CredentialCache} {call' : Call}

/-- What is not true of a call in the end was not true of it before. -/
theorem not_of_run {P : Stage → Prop} (hP : ∀ a b, P a → a.Next b → P b)
    (hrun : s.run? ms = some t) (hcall : s.calls[i]? = some call)
    (hcall' : t.calls[i]? = some call') (h : ¬ P call'.stage) : ¬ P call.stage := by
  intro hbefore
  obtain ⟨found, hfound, hafter⟩ := exists_of_run hP hrun hcall hbefore
  obtain rfl := Option.some.inj (hcall'.symm.trans hfound)
  exact h hafter

/-- No move of a call, among those of a run, changes anything that subscribers see. -/
def Unobtrusive (timeout : Option Nat) (ms : List Move) (i : Nat) : Prop :=
  ∀ done n rest u v, ms = done ++ n :: rest → n.call? = some i →
    (empty timeout).run? done = some u → u.step n = some v → u.SameView v

/-- **Who gets no credential changes nothing** that subscribers see. -/
theorem unobtrusive_of_run (hrun : (empty timeout).run? ms = some s)
    (hcall : s.calls[i]? = some call) (h : ¬ call.stage.NeedsNothing) :
    Unobtrusive timeout ms i := by
  intro done n rest u v hms hn hdone hstep
  rw [hms, run?_append, hdone, Option.bind_some, run?, hstep, Option.bind_some] at hrun
  rcases (transition_of_step hstep).sameView_or with hsame | ⟨k, _, c, hk, -, -, hserved⟩
  · exact hsame
  · -- the call itself would have been served by then
    obtain rfl := Option.some.inj (hn.symm.trans hk)
    exact absurd trivial (not_of_run Stage.NeedsNothing.next hrun hserved hcall h)

/-- **Nobody changes what subscribers see while a call fetches.** -/
theorem sameView_of_fetching (hdone : (empty timeout).run? done = some u)
    (hrest : u.run? rest = some s) (hbefore : u.calls[i]? = some call')
    (hfetching : call'.stage = .fetching) (hcall : s.calls[i]? = some call)
    (h : ¬ call.stage.IsSettled) : u.SameView s := by
  -- over the moves to come; before each of them the call still fetches
  induction rest generalizing done u with
  | nil =>
    obtain rfl := Option.some.inj hrest
    exact .refl u
  | cons m ms ih =>
    rw [run?, Option.bind_eq_some_iff] at hrest
    obtain ⟨v, hstep, hrest⟩ := hrest
    have ht := transition_of_step hstep
    have hnext : (empty timeout).run? (done ++ [m]) = some v := by
      rw [run?_append, hdone, Option.bind_some, run?, hstep, Option.bind_some, run?]
    have hstill : v.calls[i]? = some call' := by
      cases ht.course hbefore with
      | still _ hafter => exact hafter
      | @on stage _ hway hafter =>
        have hopen := not_of_run Stage.IsSettled.next hrest hafter hcall h
        rw [hfetching] at hway
        cases hway with
        | ends | cancels => exact absurd trivial hopen
    refine SameView.trans ?_ (ih hnext hrest hstill)
    rcases ht.sameView_or with hsame | ⟨k, other, c, -, hother, hflying, hserved⟩
    · exact hsame
    · -- the one that is served has the front place, so it is the call itself
      have hi : i = k := by
        refine (sound_of_run hdone).front_unique hbefore hother ?_ ?_
        · rw [hfetching]
          trivial
        · rw [hflying]
          trivial
      subst hi
      exact absurd trivial (not_of_run Stage.IsSettled.next hrest hserved hcall h)

end CredentialCache

end BearerBridge
