/-
# One flight at a time

Only the call at the front of the line fetches, and it fetches because the current credential is
not good for it.  Nobody else replaces the credential meanwhile, so what it publishes expires
later than all that was published before, whatever the clocks of the calls say and however their
moves interleave.

* `Sound` : the invariant, which says of every call why it stands where it stands;
* `Sound.step`, `Sound.run` : one transition keeps it, and so does every run;
* `single_flight` : what holds in every state that a cache can reach.
-/
import BearerBridge.Proofs.Client.Transition

namespace BearerBridge

/-! ## What is published -/

/-- The credentials published among some notices, in order. -/
def published (notices : List Notice) : List Credential :=
  notices.filterMap fun
    | .published c => some c
    | .fetchStarted _ => none

@[simp] theorem published_fetchStarted (notices : List Notice) (i : Nat) :
    published (notices ++ [.fetchStarted i]) = published notices := by
  simp [published]

@[simp] theorem published_published (notices : List Notice) (c : Credential) :
    published (notices ++ [.published c]) = published notices ++ [c] := by
  simp [published]

/-- A later expiry than the last one is later than all of them. -/
theorem pairwise_concat_of_last {cs : List Credential} {c : Credential}
    (h : cs.Pairwise (·.expiresAt < ·.expiresAt))
    (hlast : ∀ l, cs.getLast? = some l → l.expiresAt < c.expiresAt) :
    (cs ++ [c]).Pairwise (·.expiresAt < ·.expiresAt) := by
  rw [List.pairwise_append]
  refine ⟨h, List.pairwise_singleton _ c, ?_⟩
  intro a ha b hb
  obtain rfl := List.mem_singleton.1 hb
  cases hcs : cs.getLast? with
  | none =>
    rw [List.getLast?_eq_none_iff] at hcs
    subst hcs
    exact absurd ha List.not_mem_nil
  | some l =>
    have hl := hlast l hcs
    obtain ⟨front, rfl⟩ := List.getLast?_eq_some_iff.1 hcs
    rcases List.mem_append.1 ha with ha | ha
    · rw [List.pairwise_append] at h
      have hal : a.expiresAt < l.expiresAt := h.2.2 a ha l (List.mem_singleton_self l)
      rw [Int64.lt_iff_toInt_lt] at hal hl ⊢
      omega
    · rw [List.mem_singleton.1 ha]
      exact hl

namespace CredentialCache

/-! ## Looking and accepting -/

theorem valid?_eq_some_iff {s : CredentialCache} {now : Int64} {c : Credential} :
    s.valid? now = some c ↔ s.current = some c ∧ c.isExpired now = false := by
  rw [valid?, Option.filter_eq_some_iff, Bool.not_eq_true']

/-- A look that finds nothing finds at most an expired credential. -/
theorem le_of_valid?_eq_none {s : CredentialCache} {now : Int64} {c : Credential}
    (h : s.valid? now = none) (hc : s.current = some c) : c.expiresAt ≤ now := by
  rw [valid?, hc, Option.filter_eq_none_iff] at h
  have hexpired := h c rfl
  simpa [Credential.isExpired] using hexpired

/-- A fetch is accepted when its token makes a credential that is good at the instant of the
call. -/
theorem accept_eq_ok_iff {now : Int64} {token : Except ClientFault String} {c : Credential} :
    accept now token = .ok c
      ↔ ∃ text, token = .ok text ∧ Credential.ofToken text = .ok c
        ∧ c.isExpired now = false := by
  cases token with
  | error why => simp [accept, bind, Except.bind]
  | ok text =>
    cases hc : Credential.ofToken text with
    | error why => simp [accept, bind, Except.bind, hc]
    | ok found =>
      cases hexpired : found.isExpired now with
      | true =>
        simp only [accept, bind, Except.bind, hc, hexpired, if_true, throw, throwThe,
          MonadExceptOf.throw]
        constructor
        · intro h
          exact absurd h (by simp)
        · rintro ⟨text', htext, hfound, hgood⟩
          obtain rfl := Except.ok.inj htext
          obtain rfl := Except.ok.inj (hc.symm.trans hfound)
          exact absurd (hexpired.symm.trans hgood) (by simp)
      | false =>
        simp only [accept, bind, Except.bind, hc, hexpired, Bool.false_eq_true, if_false, pure,
          Except.pure]
        constructor
        · intro h
          obtain rfl := Except.ok.inj h
          exact ⟨text, rfl, hc, hexpired⟩
        · rintro ⟨text', htext, hfound, -⟩
          obtain rfl := Except.ok.inj htext
          exact hc.symm.trans hfound

/-! ## The invariant -/

/-- **The invariant of a run**; `saw i c` says that call `i` has had `c` as the current
credential at some moment. -/
structure Sound (s : CredentialCache) (saw : Nat → Credential → Prop) : Prop where
  /-- Whoever has the front place of the line is at its front. -/
  front : EachCall s.calls fun i call => call.stage.IsFront → s.line.head? = some i
  /-- Whoever fetches has no use for the current credential. -/
  needy : EachCall s.calls fun _ call => call.stage = .fetching → s.valid? call.now = none
  /-- Each credential expires later than the ones published before it. -/
  growing : (published s.history).Pairwise (·.expiresAt < ·.expiresAt)
  /-- The current credential is the last one published. -/
  last : s.current = (published s.history).getLast?
  /-- Whoever gets a credential has seen it, and it is good for the call. -/
  served : EachCall s.calls fun i call => ∀ c, call.stage.outcome? = some (.ok c) →
    c.isExpired call.now = false ∧ saw i c

variable {s t : CredentialCache} {m : Move} {saw saw' : Nat → Credential → Prop}

theorem sound_empty (timeout : Option Nat) : (empty timeout).Sound saw where
  front i call h := absurd h (by simp [empty])
  needy i call h := absurd h (by simp [empty])
  growing := List.Pairwise.nil
  last := rfl
  served i call h := absurd h (by simp [empty])

/-- At most one call has the front place. -/
theorem Sound.front_unique (h : s.Sound saw) {i j : Nat} {call call' : Call}
    (hi : s.calls[i]? = some call) (hj : s.calls[j]? = some call') (hfront : call.stage.IsFront)
    (hfront' : call'.stage.IsFront) : i = j :=
  Option.some.inj ((h.front i call hi hfront).symm.trans (h.front j call' hj hfront'))

/-! ## One transition -/

/-- The front of a line stays in front when somebody else leaves. -/
theorem head?_erase_of_ne {line : List Nat} {i j : Nat} (hne : j ≠ i)
    (h : line.head? = some j) : (line.erase i).head? = some j := by
  obtain ⟨rest, rfl⟩ := List.head?_eq_some_iff.1 h
  rw [List.erase_cons_tail (by simpa using hne)]
  rfl

/-- The front place stays with whoever has it, and only the front of the line gets it. -/
theorem Sound.front_step (h : s.Sound saw) (ht : Transition s m t) :
    EachCall t.calls fun i call => call.stage.IsFront → t.line.head? = some i := by
  cases ht with
  | arrive target now looks =>
    refine h.front.arrive fun j hfront => ?_
    cases looks <;> exact hfront.elim
  | lookFound | lookNothing =>
    exact h.front.advance_of_stage (fun _ _ hfront => hfront.elim)
  | queue =>
    refine EachCall.advance (fun j call hj _ hfront => ?_) (fun _ _ hfront => hfront.elim)
    rw [List.head?_append, h.front j call hj hfront]
    rfl
  | enter _ _ hhead =>
    exact h.front.advance_of_stage (fun _ _ _ => hhead)
  | lookAgainFound hcall hstage | fetch hcall hstage | publish hcall hstage
  | fail hcall hstage | expire hcall hstage =>
    -- the call had the front place before
    refine h.front.advance_of_stage (fun _ _ _ => h.front _ _ hcall ?_)
    rw [hstage]
    trivial
  | leave | cancel =>
    refine EachCall.advance (fun j call hj hne hfront => ?_) (fun _ _ hfront => hfront.elim)
    exact head?_erase_of_ne hne (h.front j call hj hfront)

/-- While a call fetches, nobody replaces the credential that is not good for it. -/
theorem Sound.needy_step (h : s.Sound saw) (ht : Transition s m t) :
    EachCall t.calls fun _ call => call.stage = .fetching → t.valid? call.now = none := by
  cases ht with
  | arrive target now looks =>
    refine h.needy.arrive fun j hfetching => ?_
    cases looks <;> exact absurd hfetching (by simp)
  | lookFound | lookNothing | queue | enter | lookAgainFound | fail | expire | leave | cancel =>
    exact h.needy.advance_of_stage (fun _ _ hfetching => absurd hfetching (by simp))
  | fetch hcall hstage hvalid =>
    refine h.needy.advance_of_stage (fun before hbefore _ => ?_)
    rw [← Option.some.inj (hcall.symm.trans hbefore)]
    exact hvalid
  | publish hcall hstage haccept =>
    refine EachCall.advance (fun j call hj hne hfetching => ?_)
      (fun _ _ hfetching => absurd hfetching (by simp))
    -- the one that publishes has the front place, so no other call fetches
    refine absurd (h.front_unique hj hcall ?_ ?_) hne
    · rw [hfetching]
      trivial
    · rw [hstage]
      trivial

/-- What is published expires later than all that was published before. -/
theorem Sound.history_step (h : s.Sound saw) (ht : Transition s m t) :
    (published t.history).Pairwise (·.expiresAt < ·.expiresAt)
      ∧ t.current = (published t.history).getLast? := by
  cases ht with
  | fetch =>
    simp only [advance, note, published_fetchStarted]
    exact ⟨h.growing, h.last⟩
  | publish hcall hstage haccept =>
    simp only [advance, note, published_published]
    refine ⟨pairwise_concat_of_last h.growing fun l hl => ?_, by simp⟩
    -- the last one was of no use to the call, and the new one is
    have hold : l.expiresAt ≤ _ :=
      le_of_valid?_eq_none (h.needy _ _ hcall hstage) (h.last.trans hl)
    obtain ⟨-, -, -, hnew⟩ := accept_eq_ok_iff.1 haccept
    rw [Credential.isExpired, decide_eq_false_iff_not, Int64.not_le] at hnew
    exact Int64.lt_of_le_of_lt hold hnew
  | _ => exact ⟨h.growing, h.last⟩

/-- Whoever gets a credential has it from the cache as it is, or from an earlier moment. -/
theorem Sound.served_step (h : s.Sound saw) (ht : Transition s m t)
    (hmono : ∀ i c, saw i c → saw' i c)
    (hbefore : EachCall s.calls fun i call => call.stage.IsOpen → ∀ c, s.current = some c →
      saw' i c)
    (hafter : EachCall t.calls fun i call => call.stage.IsOpen → ∀ c, t.current = some c →
      saw' i c) :
    EachCall t.calls fun i call => ∀ c, call.stage.outcome? = some (.ok c) →
      c.isExpired call.now = false ∧ saw' i c := by
  have hserved : EachCall s.calls fun i call => ∀ c, call.stage.outcome? = some (.ok c) →
      c.isExpired call.now = false ∧ saw' i c := by
    intro j call hj c hc
    obtain ⟨hgood, hsaw⟩ := h.served j call hj c hc
    exact ⟨hgood, hmono j c hsaw⟩
  cases ht with
  | arrive target now looks =>
    refine hserved.arrive fun j c hc => ?_
    cases looks <;> exact absurd hc (by simp [Stage.outcome?])
  | lookNothing | queue | enter | fetch | fail | expire | cancel =>
    exact hserved.advance_of_stage (fun _ _ c hc => absurd hc (by simp [Stage.outcome?]))
  | lookFound hcall hstage hvalid | lookAgainFound hcall hstage hvalid =>
    refine hserved.advance_of_stage (fun call' hcall' c hc => ?_)
    obtain rfl := Option.some.inj (hcall.symm.trans hcall')
    obtain rfl := Except.ok.inj (Option.some.inj hc)
    obtain ⟨hcurrent, hgood⟩ := valid?_eq_some_iff.1 hvalid
    refine ⟨hgood, hbefore _ _ hcall ?_ _ hcurrent⟩
    rw [hstage]
    trivial
  | @publish i call token c hcall hstage haccept =>
    refine hserved.advance_of_stage (fun call' hcall' c' hc => ?_)
    obtain rfl := Option.some.inj (hcall.symm.trans hcall')
    obtain rfl := Except.ok.inj (Option.some.inj hc)
    obtain ⟨-, -, -, hgood⟩ := accept_eq_ok_iff.1 haccept
    refine ⟨hgood, ?_⟩
    refine hafter i { call with stage := .leaving (.ok c) } ?_ trivial c rfl
    simp [advance, note, hcall]
  | leave hcall hstage =>
    refine hserved.advance_of_stage (fun call' hcall' c hc => ?_)
    obtain rfl := Option.some.inj (hcall.symm.trans hcall')
    refine hserved _ _ hcall c ?_
    rw [hstage]
    exact hc

/-- **One transition keeps the invariant.** -/
theorem Sound.step (h : s.Sound saw) (ht : Transition s m t)
    (hmono : ∀ i c, saw i c → saw' i c)
    (hbefore : EachCall s.calls fun i call => call.stage.IsOpen → ∀ c, s.current = some c →
      saw' i c)
    (hafter : EachCall t.calls fun i call => call.stage.IsOpen → ∀ c, t.current = some c →
      saw' i c) : t.Sound saw' where
  front := h.front_step ht
  needy := h.needy_step ht
  growing := (h.history_step ht).1
  last := (h.history_step ht).2
  served := h.served_step ht hmono hbefore hafter

/-! ## Runs -/

/-- A credential was the current one at some moment of a call: after some of the moves of a run,
while the call was open. -/
def WasCurrentFor (timeout : Option Nat) (ms : List Move) (i : Nat) (c : Credential) : Prop :=
  ∃ done s call, done <+: ms ∧ (empty timeout).run? done = some s ∧ s.current = some c
    ∧ s.calls[i]? = some call ∧ call.stage.IsOpen

/-- **Every run keeps the invariant.** -/
theorem Sound.run {timeout : Option Nat} {done ms : List Move}
    (hdone : (empty timeout).run? done = some s) (h : s.Sound (WasCurrentFor timeout done))
    (hrun : s.run? ms = some t) : t.Sound (WasCurrentFor timeout (done ++ ms)) := by
  -- over the moves to come; those done are the ones whose moments the calls may have seen
  induction ms generalizing done s with
  | nil =>
    obtain rfl := Option.some.inj hrun
    rw [List.append_nil]
    exact h
  | cons m ms ih =>
    rw [run?, Option.bind_eq_some_iff] at hrun
    obtain ⟨u, hstep, hrest⟩ := hrun
    have hnext : (empty timeout).run? (done ++ [m]) = some u := by
      rw [run?_append, hdone]
      simp [run?, hstep]
    have hu : u.Sound (WasCurrentFor timeout (done ++ [m])) := by
      refine h.step (transition_of_step hstep) ?_ ?_ ?_
      · rintro i c ⟨before, v, call, hbefore, hv⟩
        exact ⟨before, v, call, hbefore.trans (List.prefix_append ..), hv⟩
      · intro i call hcall hopen c hcurrent
        exact ⟨done, s, call, List.prefix_append .., hdone, hcurrent, hcall, hopen⟩
      · intro i call hcall hopen c hcurrent
        exact ⟨done ++ [m], u, call, List.prefix_refl _, hnext, hcurrent, hcall, hopen⟩
    have hend := ih hnext hu hrest
    rwa [List.append_assoc] at hend

theorem sound_of_run {timeout : Option Nat} {ms : List Move}
    (h : (empty timeout).run? ms = some s) : s.Sound (WasCurrentFor timeout ms) := by
  have hnone : (empty timeout).run? [] = some (empty timeout) := rfl
  exact Sound.run hnone (sound_empty timeout) h

/-- **What holds in every state that a cache can reach**, however the moves of its calls
interleave: at most one fetch is in flight; the credentials published expire later and later, and
the current one is the last of them; and a call that is over with a credential got one that was
current at some moment of the call, and that is good at the instant of the call. -/
theorem single_flight {timeout : Option Nat} {ms : List Move}
    (h : (empty timeout).run? ms = some s) :
    (∀ i j, s.isFetching i = true → s.isFetching j = true → i = j)
      ∧ (published s.history).Pairwise (·.expiresAt < ·.expiresAt)
      ∧ s.current = (published s.history).getLast?
      ∧ ∀ (i : Nat) (call : Call) c, s.calls[i]? = some call →
        call.stage = .finished (.ok c) →
        c.isExpired call.now = false ∧ WasCurrentFor timeout ms i c := by
  have hsound := sound_of_run h
  refine ⟨fun i j hi hj => ?_, hsound.growing, hsound.last, fun i call c hcall hstage => ?_⟩
  · obtain ⟨call, hcall, hfetching⟩ := exists_of_isFetching hi
    obtain ⟨call', hcall', hfetching'⟩ := exists_of_isFetching hj
    refine hsound.front_unique hcall hcall' ?_ ?_
    · rw [hfetching]
      trivial
    · rw [hfetching']
      trivial
  · refine hsound.served i call hcall c ?_
    rw [hstage]
    rfl

/-! ## Two calls and one fetch -/

/-- A token of which a client reads no more than that it expires at instant 10. -/
def sharedToken : String := "e.eyJleHAiOjEwfQ."

/-- The credential of that token. -/
def sharedCredential : Credential := ⟨⟨sharedToken⟩, 10⟩

/-- The target of two requests. -/
def sharedTarget : Url :=
  { scheme := "data", username := "", password := "", host := none, port := none
    path := .literal "", query := none, fragment := none }

/-- Two calls that look and queue together; the first one fetches, the second one waits. -/
def twoCalls : List Move :=
  [.arrive sharedTarget 5 true, .arrive sharedTarget 7 true, .look 0, .look 1, .queue 0, .queue 1,
    .enter 0, .lookAgain 0, .answer 0 (.ok sharedToken), .leave 0, .enter 1, .lookAgain 1,
    .leave 1]

theorem ofToken_sharedToken : Credential.ofToken sharedToken = .ok sharedCredential := by
  have hread : (Token.expiry sharedToken).toOption = some 10 := by decide +kernel
  have hvalue : (Utf8.ofString (Credential.headerOf sharedToken)).all Http.isValueByte = true := by
    decide +kernel
  rw [Credential.ofToken]
  cases hexpiry : Token.expiry sharedToken with
  | error fault =>
    rw [hexpiry] at hread
    exact absurd hread (by simp [Except.toOption])
  | ok expiresAt =>
    rw [hexpiry] at hread
    obtain rfl : expiresAt = 10 := Option.some.inj hread
    exact if_pos hvalue

/-- The second call gets what the first one fetched. -/
theorem single_flight_twoCalls :
    ∃ s, (empty none).run? twoCalls = some s
      ∧ s.history = [.fetchStarted 0, .published sharedCredential]
      ∧ s.current = some sharedCredential
      ∧ sharedCredential.isExpired 7 = false
      ∧ WasCurrentFor none twoCalls 1 sharedCredential := by
  have haccept : accept 5 (.ok sharedToken) = .ok sharedCredential :=
    accept_eq_ok_iff.2 ⟨sharedToken, rfl, ofToken_sharedToken, by decide⟩
  have hgood : sharedCredential.isExpired 7 = false := by decide
  have hrun : (empty none).run? twoCalls = some ⟨none, some sharedCredential, [],
      [⟨sharedTarget, 5, .finished (.ok sharedCredential)⟩,
        ⟨sharedTarget, 7, .finished (.ok sharedCredential)⟩],
      [.fetchStarted 0, .published sharedCredential]⟩ := by
    simp [twoCalls, run?, step, empty, advance, note, stage?, valid?, settle, haccept,
      Option.filter_some, hgood]
  obtain ⟨-, -, hcurrent, hserved⟩ := single_flight hrun
  obtain ⟨-, hsaw⟩ := hserved 1 _ sharedCredential rfl rfl
  exact ⟨_, hrun, rfl, hcurrent, hgood, hsaw⟩

end CredentialCache

end BearerBridge
