/-
# No fetch without need

A call fetches only when nothing that any call has published would do for it.  Its second look
sees no more than the current credential, but of all that was published that one expires last:
when it will not do, none will.  So calls at one and the same instant share one credential, and
all fetches beside the one that brought it come to nothing.

* `Sound.all_expired` : when the current credential will not do, none will;
* `Thrifty.step`, `Thrifty.run` : one transition keeps the invariant, and so does every run;
* `shared_fetch` : what the calls of a run fetch, and what calls at the same instant share.
-/
import BearerBridge.Proofs.Client.FetchRecord

namespace BearerBridge.CredentialCache

variable {s t : CredentialCache} {m : Move} {ms : List Move}

/-! ## The invariant -/

/-- Of credentials that expire later and later, the last one expires last. -/
theorem expiresAt_le_getLast? {cs : List Credential} {l c : Credential}
    (h : cs.Pairwise (·.expiresAt < ·.expiresAt)) (hl : cs.getLast? = some l) (hc : c ∈ cs) :
    c.expiresAt ≤ l.expiresAt := by
  obtain ⟨front, rfl⟩ := List.getLast?_eq_some_iff.1 hl
  rw [List.pairwise_append] at h
  rcases List.mem_append.1 hc with hc | hc
  · exact Int64.le_of_lt (h.2.2 c hc l (List.mem_singleton_self l))
  · rw [List.mem_singleton.1 hc]
    exact Int64.le_refl _

/-- **When the current credential will not do, none of those published will.** -/
theorem Sound.all_expired {saw : Nat → Credential → Prop} (h : s.Sound saw) {now : Int64}
    (hvalid : s.valid? now = none) {c : Credential} (hc : c ∈ published s.history) :
    c.isExpired now = true := by
  cases hlast : (published s.history).getLast? with
  | none =>
    rw [List.getLast?_eq_none_iff] at hlast
    exact absurd hc (by simp [hlast])
  | some l =>
    have hold : l.expiresAt ≤ now := le_of_valid?_eq_none hvalid (h.last.trans hlast)
    have hle := expiresAt_le_getLast? h.growing hlast hc
    rw [Credential.isExpired, decide_eq_true_eq]
    exact Int64.le_trans hle hold

/-- **The invariant of a run** in which some fetches have come to nothing. -/
structure Thrifty (s : CredentialCache) (lost : Nat) : Prop where
  sound : s.Sound fun _ c => c ∈ published s.history
  frugal : Frugal s.history s.instants
  /-- A call starts no fetch before it has looked twice, and then at most one. -/
  once : EachCall s.calls fun i call =>
    s.history.count (.fetchStarted i) ≤ call.stage.fetches
  /-- A fetch that has started publishes a credential, comes to nothing or is in flight. -/
  balance : fetchesStarted s.history = (published s.history).length + lost + s.inFlight

variable {lost : Nat}

theorem thrifty_empty (timeout : Option Nat) : (empty timeout).Thrifty 0 where
  sound := sound_empty timeout
  frugal := Frugal.nil _
  once i call h := absurd h (by simp [empty])
  balance := rfl

/-! ## One transition -/

theorem Thrifty.sound_step (h : s.Thrifty lost) (ht : Transition s m t) :
    t.Sound fun _ c => c ∈ published t.history := by
  refine h.sound.step ht (fun _ c hc => ht.record.mem_published hc) ?_ ?_
  · intro i call hcall hopen c hcurrent
    exact ht.record.mem_published (List.mem_of_getLast? (h.sound.last.symm.trans hcurrent))
  · intro i call hcall hopen c hcurrent
    exact List.mem_of_getLast? ((h.sound.history_step ht).2.symm.trans hcurrent)

theorem Thrifty.frugal_step (h : s.Thrifty lost) (ht : Transition s m t) :
    Frugal t.history t.instants := by
  cases ht.record with
  | nothing hhistory hinstants =>
    rw [hhistory]
    exact h.frugal.mono hinstants
  | fetch hcall hvalid hhistory hinstants =>
    rw [hhistory, hinstants]
    exact h.frugal.fetch (instants_getElem? hcall) fun c hc => h.sound.all_expired hvalid hc
  | publish hcall hstage hgood hhistory hinstants =>
    rw [hhistory, hinstants]
    have hvalid := h.sound.needy _ _ hcall hstage
    exact h.frugal.publish (List.mem_of_getElem? (instants_getElem? hcall))
      (fun c hc => h.sound.all_expired hvalid hc) hgood

/-- A call that moves on without a fetch has started no more of them. -/
theorem Thrifty.once_advance (h : s.Thrifty lost) {i : Nat} {call : Call}
    (hcall : s.calls[i]? = some call) (stage : Stage)
    (hle : call.stage.fetches ≤ stage.fetches) :
    EachCall (s.advance i stage).calls fun j call =>
      s.history.count (.fetchStarted j) ≤ call.stage.fetches := by
  refine h.once.advance_of_stage (fun call' hcall' => ?_)
  obtain rfl := Option.some.inj (hcall.symm.trans hcall')
  exact Nat.le_trans (h.once i call hcall) hle

theorem Thrifty.once_step (h : s.Thrifty lost) (ht : Transition s m t) :
    EachCall t.calls fun i call => t.history.count (.fetchStarted i) ≤ call.stage.fetches := by
  cases ht with
  | arrive target now looks =>
    refine h.once.concat ?_
    rw [h.frugal.count_fetchStarted (by simp [instants])]
    exact Nat.zero_le _
  | lookNothing hcall hstage | queue hcall hstage | enter hcall hstage =>
    refine h.once_advance hcall _ ?_
    rw [hstage]
    exact Nat.le_refl _
  | lookFound hcall | lookAgainFound hcall | fail hcall | expire hcall | leave hcall
  | cancel hcall =>
    exact h.once_advance hcall _ (Stage.fetches_le_one _)
  | @fetch i call hcall hstage hvalid =>
    have hnone : s.history.count (.fetchStarted i) ≤ call.stage.fetches := h.once i call hcall
    rw [hstage] at hnone
    refine EachCall.advance (fun j call' hj hne => ?_) (fun call' hcall' => ?_)
    · exact Nat.le_trans (Nat.le_of_eq (count_fetchStarted_of_ne _ hne)) (h.once j call' hj)
    · exact Nat.le_trans (Nat.le_of_eq (count_fetchStarted_self _ i)) (Nat.succ_le_succ hnone)
  | @publish i call token c hcall hstage haccept =>
    intro j call' hj
    refine Nat.le_trans (Nat.le_of_eq (count_fetchStarted_published _ c j)) ?_
    exact h.once_advance hcall (.leaving (.ok c)) (Stage.fetches_le_one _) j call' hj

/-- A call that neither starts nor ends a fetch leaves the balance as it is. -/
theorem Thrifty.balance_advance (h : s.Thrifty lost) {i : Nat} {call : Call}
    (hcall : s.calls[i]? = some call) (stage : Stage)
    (hsame : call.stage.isFetching = stage.isFetching) :
    fetchesStarted s.history
      = (published s.history).length + lost + (s.advance i stage).inFlight := by
  have hflight := inFlight_advance hcall stage
  rw [hsame] at hflight
  rw [h.balance]
  omega

/-- A fetch that ends without a credential is lost. -/
theorem Thrifty.balance_lose (h : s.Thrifty lost) {i : Nat} {call : Call}
    (hcall : s.calls[i]? = some call) (hfetching : call.stage.isFetching = true) (stage : Stage)
    (hends : stage.isFetching = false) :
    fetchesStarted s.history
      = (published s.history).length + (lost + 1) + (s.advance i stage).inFlight := by
  have hflight := inFlight_advance hcall stage
  rw [hfetching, hends, Bool.toNat_true, Bool.toNat_false] at hflight
  rw [h.balance]
  omega

/-- **The balance of fetches** holds after every transition. -/
theorem Thrifty.balance_step (h : s.Thrifty lost) (ht : Transition s m t) :
    fetchesStarted t.history
      = (published t.history).length + (lost + (s.losesFetch m).toNat) + t.inFlight := by
  cases ht with
  | arrive target now looks =>
    have hnew : (Stage.isFetching (if looks then .arriving else .asking)) = false := by
      cases looks <;> rfl
    have hflight : inFlight { s with
        calls := s.calls ++ [⟨target, now, if looks then .arriving else .asking⟩] }
          = s.inFlight := by
      simp [inFlight, hnew]
    rw [hflight]
    exact h.balance
  | lookFound hcall hstage | lookNothing hcall hstage | queue hcall hstage | enter hcall hstage
  | lookAgainFound hcall hstage | leave hcall hstage =>
    refine h.balance_advance hcall _ ?_
    rw [hstage]
    rfl
  | @fetch i call hcall hstage =>
    have hflight : ((s.note (.fetchStarted i)).advance i .fetching).inFlight = s.inFlight + 1 := by
      have hadvance := inFlight_advance (s := s.note (.fetchStarted i)) hcall .fetching
      rw [hstage] at hadvance
      exact hadvance
    show fetchesStarted (s.history ++ [.fetchStarted i])
      = (published (s.history ++ [.fetchStarted i])).length + lost + _
    rw [fetchesStarted_fetchStarted, published_fetchStarted, h.balance, hflight]
    omega
  | @publish i call token c hcall hstage haccept =>
    have hflight : (s.advance i (.leaving (.ok c))).inFlight + 1 = s.inFlight := by
      have hadvance := inFlight_advance hcall (.leaving (.ok c))
      rw [hstage] at hadvance
      exact hadvance
    have hloses : s.losesFetch (.answer i token) = false := by
      simp [losesFetch, hcall, haccept, Except.isOk, Except.toBool]
    rw [hloses]
    show fetchesStarted (s.history ++ [.published c])
      = (published (s.history ++ [.published c])).length + lost
        + (s.advance i (.leaving (.ok c))).inFlight
    rw [fetchesStarted_published, published_published, List.length_append, List.length_singleton,
      h.balance]
    omega
  | @fail i call token why hcall hstage haccept =>
    have hloses : s.losesFetch (.answer i token) = true := by
      simp [losesFetch, hcall, hstage, haccept, Stage.isFetching, Except.isOk, Except.toBool]
    rw [hloses]
    exact h.balance_lose hcall (by rw [hstage]; rfl) _ rfl
  | @expire i call millis hcall hstage =>
    have hloses : s.losesFetch (.expire i) = true := by
      rw [losesFetch, isFetching_eq hcall, hstage]
      rfl
    rw [hloses]
    exact h.balance_lose hcall (by rw [hstage]; rfl) _ rfl
  | @cancel i call hcall =>
    have hloses : s.losesFetch (.cancel i) = call.stage.isFetching := isFetching_eq hcall
    rw [hloses]
    cases hfetching : call.stage.isFetching with
    | true => exact h.balance_lose hcall hfetching _ rfl
    | false => exact h.balance_advance hcall _ hfetching

/-- **One transition keeps the invariant.** -/
theorem Thrifty.step (h : s.Thrifty lost) (hstep : s.step m = some t) :
    t.Thrifty (lost + (s.losesFetch m).toNat) where
  sound := h.sound_step (transition_of_step hstep)
  frugal := h.frugal_step (transition_of_step hstep)
  once := h.once_step (transition_of_step hstep)
  balance := h.balance_step (transition_of_step hstep)

/-! ## What is in flight -/

theorem countP_le_one {α : Type} {p : α → Bool} {xs : List α}
    (h : ∀ (i j : Nat) a b, xs[i]? = some a → xs[j]? = some b → p a = true → p b = true →
      i = j) :
    xs.countP p ≤ 1 := by
  induction xs with
  | nil => exact Nat.zero_le 1
  | cons x xs ih =>
    by_cases hx : p x = true
    · have hnone : xs.countP p = 0 := by
        rw [List.countP_eq_zero]
        intro y hy hpy
        obtain ⟨j, hj⟩ := List.mem_iff_getElem?.1 hy
        exact absurd (h 0 (j + 1) x y rfl hj hx hpy) (by omega)
      rw [List.countP_cons_of_pos hx]
      omega
    · rw [List.countP_cons_of_neg hx]
      refine ih fun i j a b ha hb hpa hpb => ?_
      have hij := h (i + 1) (j + 1) a b ha hb hpa hpb
      omega

theorem Sound.inFlight_le_one {saw : Nat → Credential → Prop} (h : s.Sound saw) :
    s.inFlight ≤ 1 := by
  refine countP_le_one fun i j call call' hcall hcall' hfetching hfetching' => ?_
  refine h.front_unique hcall hcall' ?_ ?_
  · rw [Stage.isFetching_iff.1 hfetching]
    trivial
  · rw [Stage.isFetching_iff.1 hfetching']
    trivial

/-! ## Runs -/

/-- **Every run keeps the invariant.** -/
theorem Thrifty.run (h : s.Thrifty lost) (hrun : s.run? ms = some t) :
    t.Thrifty (lost + s.lostFetches ms) := by
  induction ms generalizing s lost with
  | nil =>
    obtain rfl := Option.some.inj hrun
    exact h
  | cons m ms ih =>
    rw [run?, Option.bind_eq_some_iff] at hrun
    obtain ⟨u, hstep, hrest⟩ := hrun
    have hend := ih (h.step hstep) hrest
    rw [Nat.add_assoc] at hend
    rw [lostFetches, hstep]
    exact hend

theorem thrifty_of_run {timeout : Option Nat} (h : (empty timeout).run? ms = some s) :
    s.Thrifty ((empty timeout).lostFetches ms) := by
  have hend := (thrifty_empty timeout).run h
  rwa [Nat.zero_add] at hend

/-! ## Calls at one instant -/

section Simultaneous

variable {now : Int64}

/-- While a call fetches that could use it, no credential is there. -/
theorem Thrifty.inFlight_eq_zero (h : s.Thrifty lost) (hall : ∀ t ∈ s.instants, t = now)
    {c : Credential} (hc : c ∈ published s.history) : s.inFlight = 0 := by
  rw [inFlight, List.countP_eq_zero]
  intro call hmem hfetching
  obtain ⟨i, hcall⟩ := List.mem_iff_getElem?.1 hmem
  have hvalid := h.sound.needy i call hcall (Stage.isFetching_iff.1 hfetching)
  have hexpired := h.sound.all_expired hvalid hc
  rw [hall call.now (List.mem_map_of_mem hmem), h.frugal.isExpired_eq_false hall hc] at hexpired
  exact absurd hexpired (by simp)

/-- Calls at one instant start at most one fetch that does not come to nothing. -/
theorem Thrifty.fetchesStarted_le (h : s.Thrifty lost) (hall : ∀ t ∈ s.instants, t = now) :
    fetchesStarted s.history ≤ 1 + lost := by
  have hone := h.frugal.length_published_le_one hall
  have hflight := h.sound.inFlight_le_one
  rw [h.balance]
  cases hpublished : published s.history with
  | nil =>
    rw [List.length_nil]
    omega
  | cons c rest =>
    have hnone := h.inFlight_eq_zero hall (c := c) (by simp [hpublished])
    rw [hpublished] at hone
    omega

/-- A call that is over with a credential got the one that was published. -/
theorem Thrifty.published_eq (h : s.Thrifty lost) (hall : ∀ t ∈ s.instants, t = now) {i : Nat}
    {c : Credential} (hi : s.outcome? i = some (.ok c)) : published s.history = [c] := by
  obtain ⟨call, hcall, hstage⟩ := exists_of_outcome? hi
  have hmem : c ∈ published s.history := by
    refine (h.sound.served i call hcall c ?_).2
    rw [hstage]
    rfl
  have hone := h.frugal.length_published_le_one hall
  obtain ⟨before, after, hsplit⟩ := List.append_of_mem hmem
  rw [hsplit, List.length_append, List.length_cons] at hone
  obtain rfl := List.eq_nil_of_length_eq_zero (show before.length = 0 by omega)
  obtain rfl := List.eq_nil_of_length_eq_zero (show after.length = 0 by omega)
  exact hsplit

end Simultaneous

/-! ## What calls share -/

/-- **What the calls of a run fetch**, however their moves interleave and whatever the token page
answers.  A call starts at most one fetch, and only when every credential published before has
expired at its instant; a fetch that has started publishes a credential, comes to nothing or is
in flight.  Calls that are all made at one instant publish at most one credential; no fetch starts
after it, every call that is over with a credential has this one, and of all fetches at most one
does not come to nothing. -/
theorem shared_fetch {timeout : Option Nat} (h : (empty timeout).run? ms = some s) :
    (∀ i, s.history.count (.fetchStarted i) ≤ 1)
      ∧ (∀ before i after, s.history = before ++ .fetchStarted i :: after →
        ∃ call, s.calls[i]? = some call ∧ ∀ c ∈ published before, c.isExpired call.now = true)
      ∧ fetchesStarted s.history
        = (published s.history).length + (empty timeout).lostFetches ms + s.inFlight
      ∧ ∀ now, (∀ call ∈ s.calls, call.now = now) →
        (published s.history).length ≤ 1
        ∧ (∀ before c after, s.history = before ++ .published c :: after →
          ∀ i, .fetchStarted i ∉ after)
        ∧ (∀ i c, s.outcome? i = some (.ok c) → published s.history = [c])
        ∧ fetchesStarted s.history ≤ 1 + (empty timeout).lostFetches ms := by
  have hthrifty := thrifty_of_run h
  refine ⟨fun i => ?_, fun before i after hsplit => ?_, hthrifty.balance, fun now hnow => ?_⟩
  · cases hi : s.calls[i]? with
    | some call => exact Nat.le_trans (hthrifty.once i call hi) (Stage.fetches_le_one _)
    | none =>
      have hlength : s.instants.length ≤ i := by
        rw [instants, List.length_map]
        exact List.getElem?_eq_none_iff.1 hi
      rw [hthrifty.frugal.count_fetchStarted hlength]
      exact Nat.zero_le 1
  · obtain ⟨now, hi, hexpired⟩ := hthrifty.frugal.justified before i after hsplit
    rw [instants, List.getElem?_map, Option.map_eq_some_iff] at hi
    obtain ⟨call, hcall, rfl⟩ := hi
    exact ⟨call, hcall, hexpired⟩
  · have hall : ∀ t ∈ s.instants, t = now := by
      intro t ht
      obtain ⟨call, hcall, rfl⟩ := List.mem_map.1 ht
      exact hnow call hcall
    exact ⟨hthrifty.frugal.length_published_le_one hall,
      fun before c after hsplit => hthrifty.frugal.notMem_of_published hall hsplit,
      fun i c hi => hthrifty.published_eq hall hi, hthrifty.fetchesStarted_le hall⟩

/-! ## Three calls and two fetches -/

/-- Three calls at one instant, of which the first one fetches in vain. -/
def failingCall : List Move :=
  [.arrive sharedTarget 5 true, .arrive sharedTarget 5 true, .arrive sharedTarget 5 false,
    .look 0, .look 1, .queue 0, .queue 1, .queue 2, .enter 0, .lookAgain 0,
    .answer 0 (.error (.rejected 401)), .leave 0]

/-- The second call fetches again, and the third one shares what that brought. -/
def sharingCalls : List Move :=
  [.enter 1, .lookAgain 1, .answer 1 (.ok sharedToken), .leave 1, .enter 2, .lookAgain 2, .leave 2]

/-- The cache after the fetch in vain. -/
def afterFailure : CredentialCache where
  timeout := none
  current := none
  line := [1, 2]
  calls := [⟨sharedTarget, 5, .finished (.error (.rejected 401))⟩, ⟨sharedTarget, 5, .waiting⟩,
    ⟨sharedTarget, 5, .waiting⟩]
  history := [.fetchStarted 0]

/-- The cache after all three calls. -/
def afterSharing : CredentialCache where
  timeout := none
  current := some sharedCredential
  line := []
  calls := [⟨sharedTarget, 5, .finished (.error (.rejected 401))⟩,
    ⟨sharedTarget, 5, .finished (.ok sharedCredential)⟩,
    ⟨sharedTarget, 5, .finished (.ok sharedCredential)⟩]
  history := [.fetchStarted 0, .fetchStarted 1, .published sharedCredential]

theorem run?_failingCall : (empty none).run? failingCall = some afterFailure := by
  have hfault : accept 5 (.error (.rejected 401)) = .error (.rejected 401) := rfl
  simp [failingCall, run?, step, empty, advance, note, stage?, valid?, settle, hfault,
    afterFailure]

theorem run?_sharingCalls : afterFailure.run? sharingCalls = some afterSharing := by
  have haccept : accept 5 (.ok sharedToken) = .ok sharedCredential :=
    accept_eq_ok_iff.2 ⟨sharedToken, rfl, ofToken_sharedToken, by decide⟩
  have hgood : sharedCredential.isExpired 5 = false := by decide
  simp [sharingCalls, afterFailure, run?, step, advance, note, stage?, valid?, settle, haccept,
    Option.filter_some, hgood, afterSharing]

/-- Of the two fetches of three calls one is lost, and two calls share what the other brought. -/
theorem shared_fetch_threeCalls :
    (empty none).run? (failingCall ++ sharingCalls) = some afterSharing
      ∧ (∀ call ∈ afterSharing.calls, call.now = 5)
      ∧ afterSharing.outcome? 0 = some (.error (.rejected 401))
      ∧ afterSharing.outcome? 2 = some (.ok sharedCredential)
      ∧ published afterSharing.history = [sharedCredential]
      ∧ fetchesStarted afterSharing.history
        ≤ 1 + (empty none).lostFetches (failingCall ++ sharingCalls) := by
  have hrun : (empty none).run? (failingCall ++ sharingCalls) = some afterSharing := by
    rw [run?_append, run?_failingCall, Option.bind_some, run?_sharingCalls]
  have hnow : ∀ call ∈ afterSharing.calls, call.now = 5 := by
    simp [afterSharing]
  obtain ⟨-, -, -, hshared⟩ := shared_fetch hrun
  obtain ⟨-, -, hsame, hfetches⟩ := hshared 5 hnow
  exact ⟨hrun, hnow, rfl, rfl, hsame 2 sharedCredential rfl, hfetches⟩

end BearerBridge.CredentialCache
