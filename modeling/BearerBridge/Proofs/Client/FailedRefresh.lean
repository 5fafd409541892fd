/-
# Refreshes that fail

A call fails when the answer to its fetch is of no use, when its fetch takes too long, or when it
is cancelled before it comes to an outcome.  Then it gives up its place in the line and is over,
and nothing else changes: subscribers see what they saw, the other calls stand where they stood,
the next one in line may enter, and the request of the call keeps the headers it was made with.

* `Fails` : the moves by which a call fails;
* `exists_fails_of_run` : there are no others;
* `Fails.run?`, `Fails.harmless` : the state in which a failure ends;
* `headersOf_of_served` : the one header that a call adds to its request;
* `fails_without_trace` : what a failure leaves behind.
-/
import BearerBridge.Proofs.Client.Answer
import BearerBridge.Proofs.Client.Course
import BearerBridge.Proofs.Client.SharedFetch

namespace BearerBridge.CredentialCache

variable {s t u : CredentialCache} {m : Move} {ms : List Move} {i : Nat} {call : Call}

/-! ## The ways to fail -/

/-- **A move by which a call fails**, and the fault that it comes to; a call that is cancelled
comes to none. -/
inductive Fails (s : CredentialCache) (i : Nat) : Move → Option ClientFault → Prop where
  /-- The answer to its fetch is of no use. -/
  | answer {call : Call} {token : Except ClientFault String} {fault : ClientFault}
      (hcall : s.calls[i]? = some call) (hstage : call.stage = .fetching)
      (huseless : Useless call.now token fault) : Fails s i (.answer i token) (some fault)
  /-- Its fetch takes too long. -/
  | expire {call : Call} {millis : Nat} (hcall : s.calls[i]? = some call)
      (hstage : call.stage = .fetching) (htimeout : s.timeout = some millis) :
    Fails s i (.expire i) (some (.timedOut millis))
  /-- It is cancelled before it comes to an outcome. -/
  | cancel {call : Call} (hcall : s.calls[i]? = some call) (hopen : ¬ call.stage.IsSettled) :
    Fails s i (.cancel i) none

/-- The moves by which a call is over: it fails, and if there is a fault to report, it gives up the
place at the front after that. -/
def endingMoves (m : Move) (i : Nat) : Option ClientFault → List Move
  | some _ => [m, .leave i]
  | none => [m]

/-- Where a call stands that has failed. -/
def failedStage : Option ClientFault → Stage
  | some fault => .finished (.error fault)
  | none => .cancelled

/-- The state after a call is over, without its place in the line. -/
def ended (s : CredentialCache) (i : Nat) (stage : Stage) : CredentialCache :=
  { s.advance i stage with line := s.line.erase i }

variable {why : Option ClientFault} {fault : ClientFault}

/-- Who fails has not come to an outcome before. -/
theorem Fails.exists_call (h : s.Fails i m why) :
    ∃ call, s.calls[i]? = some call ∧ ¬ call.stage.IsSettled := by
  cases h with
  | answer hcall hstage | expire hcall hstage =>
    refine ⟨_, hcall, ?_⟩
    rw [hstage]
    exact id
  | cancel hcall hopen => exact ⟨_, hcall, hopen⟩

/-- Who fetches fails on whatever a token page answers that gives out no token. -/
theorem fails_of_location {transport : Location.Transport} {location : Location}
    (hcall : s.calls[i]? = some call) (hstage : call.stage = .fetching)
    (h : location.Fails transport call.target fault) :
    s.Fails i (.answer i (location.fetch transport call.target)) (some fault) := by
  rw [Location.fetch_eq_error_iff.2 h]
  exact .answer hcall hstage (.fault fault)

/-! ### No other ways -/

/-- Who has come to a fault after a move has come to it before, or fails by the move. -/
theorem Transition.fails_or (ht : Transition s m t) :
    EachCall t.calls fun i call => call.stage.outcome? = some (.error fault) →
      s.Fails i m (some fault)
        ∨ ∃ before, s.calls[i]? = some before ∧ before.stage.outcome? = some (.error fault) := by
  have hsame : EachCall s.calls fun i call => call.stage.outcome? = some (.error fault) →
      s.Fails i m (some fault)
        ∨ ∃ before, s.calls[i]? = some before
          ∧ before.stage.outcome? = some (.error fault) :=
    fun i call hcall h => .inr ⟨call, hcall, h⟩
  cases ht with
  | arrive target now looks =>
    refine hsame.arrive fun j h => ?_
    cases looks <;> exact absurd h (by simp [Stage.outcome?])
  | lookFound | lookNothing | queue | enter | lookAgainFound | fetch | publish | cancel =>
    exact hsame.advance_of_stage fun _ _ h => absurd h (by simp [Stage.outcome?])
  | fail hcall hstage haccept =>
    refine hsame.advance_of_stage fun _ _ h => .inl ?_
    obtain rfl := Except.error.inj (Option.some.inj h)
    exact .answer hcall hstage (accept_eq_error_iff.1 haccept)
  | expire hcall hstage htimeout =>
    refine hsame.advance_of_stage fun _ _ h => .inl ?_
    obtain rfl := Except.error.inj (Option.some.inj h)
    exact .expire hcall hstage htimeout
  | leave hcall hstage =>
    refine hsame.advance_of_stage fun _ _ h => .inr ⟨_, hcall, ?_⟩
    rw [hstage]
    exact h

/-- **Whoever comes to a fault in a run fails** by some move of it. -/
theorem exists_fails_of_run (hrun : s.run? ms = some t) (hcall : t.calls[i]? = some call)
    (h : call.stage.outcome? = some (.error fault)) :
    (∃ before, s.calls[i]? = some before ∧ before.stage.outcome? = some (.error fault))
      ∨ ∃ done m rest u, ms = done ++ m :: rest ∧ s.run? done = some u
        ∧ u.Fails i m (some fault) := by
  induction ms generalizing s with
  | nil =>
    obtain rfl := Option.some.inj hrun
    exact .inl ⟨call, hcall, h⟩
  | cons m ms ih =>
    rw [run?, Option.bind_eq_some_iff] at hrun
    obtain ⟨u, hstep, hrest⟩ := hrun
    rcases ih hrest with ⟨before, hbefore, hfault⟩ | ⟨done, n, rest, v, rfl, hdone, hfails⟩
    · rcases (transition_of_step hstep).fails_or i before hbefore hfault with hfails | hearlier
      · exact .inr ⟨[], m, ms, s, rfl, rfl, hfails⟩
      · exact .inl hearlier
    · refine .inr ⟨m :: done, n, rest, v, rfl, ?_, hfails⟩
      rw [run?, hstep, Option.bind_some, hdone]

/-! ## The state after a failure -/

theorem advance_advance (s : CredentialCache) (i : Nat) (stage stage' : Stage) :
    (s.advance i stage).advance i stage' = s.advance i stage' := by
  simp only [advance, List.modify_modify_eq]
  rfl

/-- Who has come to an outcome gives up the place at the front. -/
theorem run?_leave {outcome : Except ClientFault Credential} (hcall : s.calls[i]? = some call)
    (hstep : s.step m = some (s.advance i (.leaving outcome))) :
    s.run? [m, .leave i] = some (s.ended i (.finished outcome)) := by
  have hstage : (s.advance i (.leaving outcome)).stage? i = some (.leaving outcome) :=
    stage?_eq_some_iff.2 ⟨_, calls_advance_self hcall _, rfl⟩
  rw [run?, hstep, Option.bind_some, run?, step, hstage]
  dsimp only
  rw [advance_advance, Option.bind_some, run?]
  rfl

theorem step_cancel (hcall : s.calls[i]? = some call) (hopen : ¬ call.stage.IsSettled) :
    s.step (.cancel i) = some (s.ended i .cancelled) := by
  obtain ⟨target, now, stage⟩ := call
  rw [step, stage?, hcall]
  cases stage with
  | leaving | finished | cancelled => exact absurd trivial hopen
  | _ => rfl

/-- **The state in which a failure ends.** -/
theorem Fails.run? (h : s.Fails i m why) :
    s.run? (endingMoves m i why) = some (s.ended i (failedStage why)) := by
  cases h with
  | @answer call token fault hcall hstage huseless =>
    refine run?_leave hcall ?_
    obtain ⟨target, now, stage⟩ := call
    subst hstage
    rw [step, hcall]
    dsimp only
    rw [accept_eq_error_iff.2 huseless]
    rfl
  | expire hcall hstage htimeout =>
    refine run?_leave hcall ?_
    rw [step, stage?_eq_some_iff.2 ⟨_, hcall, hstage⟩, htimeout]
    rfl
  | cancel hcall hopen =>
    rw [endingMoves, CredentialCache.run?, step_cancel hcall hopen]
    rfl

/-- Where a failed call stands, nobody stands in the line. -/
theorem failedStage_not_inLine : ¬ (failedStage why).InLine := by
  cases why <;> exact id

/-- Once a call has given up the front place and nobody else has it, it is free. -/
theorem isFree_ended {timeout : Option Nat} {stage : Stage}
    (hrun : (empty timeout).run? ms = some s) (hcall : s.calls[i]? = some call)
    (hout : ¬ stage.InLine)
    (hothers : EachCall s.calls fun j call => j ≠ i → ¬ call.stage.IsFront) :
    (s.ended i stage).IsFree := by
  have hnot : ¬ stage.IsFront := by
    cases stage with
    | entering | fetching | leaving => exact absurd trivial hout
    | _ => exact id
  have horder : InOrder (s.ended i stage).line (s.ended i stage).calls :=
    (inOrder_of_run hrun).advance_erase hcall hout
  exact isFree_of_nobody horder (EachCall.advance hothers fun _ _ => hnot)

/-- Who has failed stays so. -/
theorem stage?_of_failed (hrun : t.run? ms = some u)
    (hstage : t.stage? i = some (failedStage why)) : u.stage? i = some (failedStage why) := by
  have hlast : ∀ a b : Stage, a = failedStage why → a.Next b → b = failedStage why := by
    intro a b ha hnext
    subst ha
    cases why <;> cases hnext with
    | cancels hopen => exact hopen.elim
  obtain ⟨call, hcall, hfailed⟩ := stage?_eq_some_iff.1 hstage
  exact stage?_eq_some_iff.2 (exists_of_run hlast hrun hcall hfailed)

/-! ## The request of a call -/

/-- The headers of a call's request, given the headers it was made with. -/
def headersOf (s : CredentialCache) (i : Nat) (hs : Http.Headers) : Http.Headers :=
  (s.outcome? i).elim hs (Credential.headersAfter · hs)

/-- A call that has failed leaves its request as it was made. -/
theorem headersOf_of_failed (hstage : s.stage? i = some (failedStage why)) (hs : Http.Headers) :
    s.headersOf i hs = hs := by
  rw [headersOf, CredentialCache.outcome?, hstage]
  cases why <;> rfl

/-- **The one header that a call adds to its request**, if there is none of that name. -/
theorem headersOf_of_served {c : Credential} (h : s.outcome? i = some (.ok c))
    (hs : Http.Headers) :
    s.headersOf i hs = if hs.values "authorization" = []
      then hs ++ [("authorization", Utf8.ofString c.header)] else hs := by
  have hnone : hs.values "authorization" = [] ↔ hs.get? "authorization" = none := by
    rw [Http.Headers.values, List.map_eq_nil_iff, List.filter_eq_nil_iff, Http.Headers.get?,
      Option.map_eq_none_iff, List.find?_eq_none]
  rw [headersOf, h, Option.elim_some, Credential.headersAfter, Credential.attach]
  cases hfound : hs.get? "authorization" with
  | none => rw [if_pos (hnone.2 hfound)]
  | some value => rw [if_neg (by simp [hnone, hfound])]

/-! ## What a failure leaves behind -/

/-- **A failure leaves everything but its call as it was**, and the front place to the others. -/
structure Harmless (s t : CredentialCache) (i : Nat) (why : Option ClientFault) : Prop where
  /-- The current credential is the same. -/
  current : t.current = s.current
  /-- There is nothing new to watch. -/
  history : t.history = s.history
  /-- The other calls stand where they stood. -/
  others : ∀ j, j ≠ i → t.calls[j]? = s.calls[j]?
  line : t.line = s.line.erase i
  /-- Who had the front place gives it up for the next call. -/
  freed : (∃ call, s.calls[i]? = some call ∧ call.stage.IsFront) → t.IsFree
  /-- Who did not have it does not take it away. -/
  free : (EachCall s.calls fun _ call => ¬ call.stage.IsFront) → t.IsFree
  /-- The call is over for good, with its fault if there is one, and its request is as it was. -/
  lasting : ∀ ms u, t.run? ms = some u →
    u.stage? i = some (failedStage why) ∧ ∀ hs, u.headersOf i hs = hs

/-- **A failure is harmless** in every state that a cache can reach. -/
theorem Fails.harmless {timeout : Option Nat} (hrun : (empty timeout).run? ms = some s)
    (h : s.Fails i m why) : s.Harmless (s.ended i (failedStage why)) i why where
  current := rfl
  history := rfl
  others j hj := calls_advance_of_ne hj _
  line := rfl
  freed := by
    rintro ⟨call, hcall, hfront⟩
    refine isFree_ended hrun hcall failedStage_not_inLine ?_
    intro j other hother hj hfront'
    exact hj ((sound_of_run hrun).front_unique hother hcall hfront' hfront)
  free hnobody := by
    obtain ⟨call, hcall, -⟩ := h.exists_call
    exact isFree_ended hrun hcall failedStage_not_inLine
      fun j other hother _ => hnobody j other hother
  lasting ms u hafter := by
    obtain ⟨call, hcall, -⟩ := h.exists_call
    have hstage : (s.ended i (failedStage why)).stage? i = some (failedStage why) :=
      stage?_eq_some_iff.2 ⟨_, calls_advance_self hcall _, rfl⟩
    have hstays := stage?_of_failed hafter hstage
    exact ⟨hstays, headersOf_of_failed hstays⟩

/-- **What a failed refresh leaves behind**, in every state that a cache can reach.  Whichever way
a call fails, it is over with its fault, everything else is as it was, and the front place is
there for the next call.  Up to then, no move of the call changed anything that subscribers see,
and nobody changed it while the call was fetching.  A call that is over with a fault has failed in
one of these ways, and changed nothing however its moves interleaved with others; the faults of
the token page are among the ways.  The front place is never lost: when nobody has it, it is free.
A call that is over with a credential has added one header to its request, or none when the
request had one of that name. -/
theorem fails_without_trace {timeout : Option Nat} (hrun : (empty timeout).run? ms = some s) :
    (∀ i m why, s.Fails i m why →
      (∃ t, s.run? (endingMoves m i why) = some t ∧ s.Harmless t i why)
        ∧ Unobtrusive timeout ms i
        ∧ ∀ done rest u, ms = done ++ rest → (empty timeout).run? done = some u →
          u.isFetching i = true → u.SameView s)
      ∧ (∀ i fault, s.outcome? i = some (.error fault) →
        (∃ done m rest u, ms = done ++ m :: rest ∧ (empty timeout).run? done = some u
          ∧ u.Fails i m (some fault))
        ∧ Unobtrusive timeout ms i)
      ∧ (∀ (i : Nat) call transport (location : Location) fault, s.calls[i]? = some call →
        call.stage = .fetching → location.Fails transport call.target fault →
        s.Fails i (.answer i (location.fetch transport call.target)) (some fault))
      ∧ ((EachCall s.calls fun _ call => ¬ call.stage.IsFront) → s.IsFree)
      ∧ ∀ i c, s.outcome? i = some (.ok c) → ∀ hs : Http.Headers,
        s.headersOf i hs = if hs.values "authorization" = []
          then hs ++ [("authorization", Utf8.ofString c.header)] else hs := by
  refine ⟨fun i m why h => ?_, fun i fault houtcome => ?_, ?_, ?_, ?_⟩
  · obtain ⟨call, hcall, hopen⟩ := h.exists_call
    refine ⟨⟨_, h.run?, h.harmless hrun⟩, ?_, fun done rest u hms hdone hfetching => ?_⟩
    · exact unobtrusive_of_run hrun hcall fun hnothing => hopen hnothing.isSettled
    · obtain ⟨before, hbefore, hstage⟩ := exists_of_isFetching hfetching
      rw [hms, run?_append, hdone, Option.bind_some] at hrun
      exact sameView_of_fetching hdone hrun hbefore hstage hcall hopen
  · obtain ⟨call, hcall, hstage⟩ := exists_of_outcome? houtcome
    have hfault : call.stage.outcome? = some (.error fault) := by
      rw [hstage]
      rfl
    have hneedy : ¬ call.stage.NeedsNothing := by
      rw [hstage]
      exact id
    refine ⟨?_, unobtrusive_of_run hrun hcall hneedy⟩
    rcases exists_fails_of_run hrun hcall hfault with ⟨before, hbefore, -⟩ | hfails
    · exact absurd hbefore (by simp [empty])
    · exact hfails
  · intro i call transport location fault hcall hstage h
    exact fails_of_location hcall hstage h
  · intro hnobody
    exact isFree_of_nobody (inOrder_of_run hrun) hnobody
  · intro i c houtcome hs
    exact headersOf_of_served houtcome hs

/-! ## A refresh in vain -/

/-- One call fetches a credential. -/
def firstRefresh : List Move :=
  [.arrive sharedTarget 5 true, .look 0, .queue 0, .enter 0, .lookAgain 0,
    .answer 0 (.ok sharedToken), .leave 0]

/-- When the credential has expired, a second call fetches again, and a third one waits for it. -/
def secondRefresh : List Move :=
  [.arrive sharedTarget 12 true, .arrive sharedTarget 12 true, .look 1, .look 2, .queue 1,
    .queue 2, .enter 1, .lookAgain 1]

/-- The cache after the first call. -/
def refreshed : CredentialCache where
  timeout := some 50
  current := some sharedCredential
  line := []
  calls := [⟨sharedTarget, 5, .finished (.ok sharedCredential)⟩]
  history := [.fetchStarted 0, .published sharedCredential]

/-- The cache while the second call fetches. -/
def refreshing : CredentialCache where
  timeout := some 50
  current := some sharedCredential
  line := [1, 2]
  calls := [⟨sharedTarget, 5, .finished (.ok sharedCredential)⟩, ⟨sharedTarget, 12, .fetching⟩,
    ⟨sharedTarget, 12, .waiting⟩]
  history := [.fetchStarted 0, .published sharedCredential, .fetchStarted 1]

theorem run?_firstRefresh : (empty (some 50)).run? firstRefresh = some refreshed := by
  have haccept : accept 5 (.ok sharedToken) = .ok sharedCredential :=
    accept_eq_ok_iff.2 ⟨sharedToken, rfl, ofToken_sharedToken, by decide⟩
  simp [firstRefresh, run?, step, empty, advance, note, stage?, valid?, settle, haccept,
    refreshed]

theorem run?_secondRefresh : refreshed.run? secondRefresh = some refreshing := by
  have hexpired : sharedCredential.isExpired 12 = true := by decide
  simp [secondRefresh, refreshed, run?, step, advance, note, stage?, valid?, Option.filter_some,
    hexpired, refreshing]

/-- The second fetch takes too long: the expired credential stays, and the third call may enter. -/
theorem fails_without_trace_secondRefresh :
    (empty (some 50)).run? (firstRefresh ++ secondRefresh) = some refreshing
      ∧ refreshing.Fails 1 (.expire 1) (some (.timedOut 50))
      ∧ (∃ t, refreshing.run? [.expire 1, .leave 1] = some t
        ∧ t.current = some sharedCredential
        ∧ t.history = refreshing.history
        ∧ t.outcome? 1 = some (.error (.timedOut 50))
        ∧ t.step (.enter 2) = some (t.advance 2 .entering)
        ∧ ∀ hs, t.headersOf 1 hs = hs)
      ∧ refreshing.headersOf 0 []
        = [("authorization", Utf8.ofString sharedCredential.header)] := by
  have hrun : (empty (some 50)).run? (firstRefresh ++ secondRefresh) = some refreshing := by
    rw [run?_append, run?_firstRefresh, Option.bind_some, run?_secondRefresh]
  obtain ⟨hharmless, -, -, -, hserved⟩ := fails_without_trace hrun
  have hfails : refreshing.Fails 1 (.expire 1) (some (.timedOut 50)) := .expire rfl rfl rfl
  obtain ⟨⟨t, ht, hsame⟩, -, -⟩ := hharmless 1 _ _ hfails
  have hfree : t.IsFree := hsame.freed ⟨_, rfl, trivial⟩
  have hline : t.line = [2] := hsame.line.trans (by decide)
  obtain ⟨hstage, hrequest⟩ := hsame.lasting [] t rfl
  refine ⟨hrun, hfails, ⟨t, ht, hsame.current, hsame.history, ?_, ?_, hrequest⟩, ?_⟩
  · rw [CredentialCache.outcome?, hstage]
    rfl
  · exact hfree.next 2 (by rw [hline]; rfl)
  · exact hserved 0 sharedCredential rfl []

end BearerBridge.CredentialCache
