/-
# The moves of the credential cache

Every move but an arrival takes one call from a stage to another, and few of them touch anything
else: the line when a call joins or leaves it, the current credential when one is published.
Whatever is claimed about a run of the cache is claimed about one of these transitions first.

* `Transition` : what a move does, one case for each way it can go;
* `transition_of_step` : a move that is possible is such a transition;
* `EachCall.arrive`, `EachCall.advance` : what holds of each call after a transition.
-/
import BearerBridge.Client.Cache

namespace BearerBridge

/-! ## Stages -/

namespace Stage

/-- Whether a call goes on. -/
def IsOpen : Stage → Prop
  | finished _ => False
  | cancelled => False
  | _ => True

/-- Whether a call has the front place of the line to itself. -/
def IsFront : Stage → Prop
  | entering => True
  | fetching => True
  | leaving _ => True
  | _ => False

/-- The outcome of a call, once it is known. -/
def outcome? : Stage → Option (Except ClientFault Credential)
  | leaving outcome => some outcome
  | finished outcome => some outcome
  | _ => none

end Stage

namespace CredentialCache

/-! ## Transitions -/

/-- What a move does, one case for each way it can go. -/
inductive Transition (s : CredentialCache) : Move → CredentialCache → Prop where
  | arrive (target : Url) (now : Int64) (looks : Bool) :
    Transition s (.arrive target now looks)
      { s with calls := s.calls ++ [⟨target, now, if looks then .arriving else .asking⟩] }
  | lookFound {i : Nat} {call : Call} {c : Credential} (hcall : s.calls[i]? = some call)
      (hstage : call.stage = .arriving) (hvalid : s.valid? call.now = some c) :
    Transition s (.look i) (s.advance i (.finished (.ok c)))
  | lookNothing {i : Nat} {call : Call} (hcall : s.calls[i]? = some call)
      (hstage : call.stage = .arriving) (hvalid : s.valid? call.now = none) :
    Transition s (.look i) (s.advance i .asking)
  | queue {i : Nat} {call : Call} (hcall : s.calls[i]? = some call)
      (hstage : call.stage = .asking) :
    Transition s (.queue i) { s.advance i .waiting with line := s.line ++ [i] }
  | enter {i : Nat} {call : Call} (hcall : s.calls[i]? = some call)
      (hstage : call.stage = .waiting) (hfront : s.line.head? = some i) :
    Transition s (.enter i) (s.advance i .entering)
  | lookAgainFound {i : Nat} {call : Call} {c : Credential} (hcall : s.calls[i]? = some call)
      (hstage : call.stage = .entering) (hvalid : s.valid? call.now = some c) :
    Transition s (.lookAgain i) (s.advance i (.leaving (.ok c)))
  | fetch {i : Nat} {call : Call} (hcall : s.calls[i]? = some call)
      (hstage : call.stage = .entering) (hvalid : s.valid? call.now = none) :
    Transition s (.lookAgain i) ((s.note (.fetchStarted i)).advance i .fetching)
  | publish {i : Nat} {call : Call} {token : Except ClientFault String} {c : Credential}
      (hcall : s.calls[i]? = some call) (hstage : call.stage = .fetching)
      (haccept : accept call.now token = .ok c) :
    Transition s (.answer i token)
      { (s.note (.published c)).advance i (.leaving (.ok c)) with current := some c }
  | fail {i : Nat} {call : Call} {token : Except ClientFault String} {why : ClientFault}
      (hcall : s.calls[i]? = some call) (hstage : call.stage = .fetching)
      (haccept : accept call.now token = .error why) :
    Transition s (.answer i token) (s.advance i (.leaving (.error why)))
  | expire {i : Nat} {call : Call} {millis : Nat} (hcall : s.calls[i]? = some call)
      (hstage : call.stage = .fetching) (htimeout : s.timeout = some millis) :
    Transition s (.expire i) (s.advance i (.leaving (.error (.timedOut millis))))
  | leave {i : Nat} {call : Call} {outcome : Except ClientFault Credential}
      (hcall : s.calls[i]? = some call) (hstage : call.stage = .leaving outcome) :
    Transition s (.leave i) { s.advance i (.finished outcome) with line := s.line.erase i }
  | cancel {i : Nat} {call : Call} (hcall : s.calls[i]? = some call)
      (hopen : call.stage.IsOpen) :
    Transition s (.cancel i) { s.advance i .cancelled with line := s.line.erase i }

variable {s t : CredentialCache} {m : Move}

theorem stage?_eq_some_iff {i : Nat} {stage : Stage} :
    s.stage? i = some stage ↔ ∃ call, s.calls[i]? = some call ∧ call.stage = stage := by
  rw [stage?, Option.map_eq_some_iff]

theorem exists_of_isFetching {i : Nat} (h : s.isFetching i = true) :
    ∃ call, s.calls[i]? = some call ∧ call.stage = .fetching := by
  rw [isFetching] at h
  split at h
  · next hstage => exact stage?_eq_some_iff.1 hstage
  · exact absurd h (by decide)

theorem exists_of_outcome? {i : Nat} {outcome : Except ClientFault Credential}
    (h : s.outcome? i = some outcome) :
    ∃ call, s.calls[i]? = some call ∧ call.stage = .finished outcome := by
  rw [CredentialCache.outcome?] at h
  split at h
  · next found hstage =>
    obtain rfl := Option.some.inj h
    exact stage?_eq_some_iff.1 hstage
  · exact absurd h (by simp)

/-- **A move that is possible is a transition.** -/
theorem transition_of_step (h : s.step m = some t) : Transition s m t := by
  cases m with
  | arrive target now looks =>
    obtain rfl := Option.some.inj h
    exact .arrive target now looks
  | look i =>
    rw [step] at h
    split at h
    · next hcall =>
      split at h
      · next c hvalid =>
        obtain rfl := Option.some.inj h
        exact .lookFound hcall rfl hvalid
      · next hvalid =>
        obtain rfl := Option.some.inj h
        exact .lookNothing hcall rfl hvalid
    · exact absurd h (by simp)
  | queue i =>
    rw [step] at h
    split at h
    · next hstage =>
      obtain ⟨call, hcall, hasking⟩ := stage?_eq_some_iff.1 hstage
      obtain rfl := Option.some.inj h
      exact .queue hcall hasking
    · exact absurd h (by simp)
  | enter i =>
    rw [step] at h
    split at h
    · next hstage =>
      obtain ⟨call, hcall, hwaiting⟩ := stage?_eq_some_iff.1 hstage
      split at h
      · next hfront =>
        obtain rfl := Option.some.inj h
        exact .enter hcall hwaiting hfront
      · exact absurd h (by simp)
    · exact absurd h (by simp)
  | lookAgain i =>
    rw [step] at h
    split at h
    · next hcall =>
      split at h
      · next c hvalid =>
        obtain rfl := Option.some.inj h
        exact .lookAgainFound hcall rfl hvalid
      · next hvalid =>
        obtain rfl := Option.some.inj h
        exact .fetch hcall rfl hvalid
    · exact absurd h (by simp)
  | answer i token =>
    rw [step] at h
    split at h
    · next now hcall =>
      obtain rfl := Option.some.inj h
      cases haccept : accept now token with
      | ok c => exact .publish hcall rfl haccept
      | error why => exact .fail hcall rfl haccept
    · exact absurd h (by simp)
  | expire i =>
    rw [step] at h
    split at h
    · next hstage htimeout =>
      obtain ⟨call, hcall, hfetching⟩ := stage?_eq_some_iff.1 hstage
      obtain rfl := Option.some.inj h
      exact .expire hcall hfetching htimeout
    · exact absurd h (by simp)
  | leave i =>
    rw [step] at h
    split at h
    · next outcome hstage =>
      obtain ⟨call, hcall, hleaving⟩ := stage?_eq_some_iff.1 hstage
      obtain rfl := Option.some.inj h
      exact .leave hcall hleaving
    · exact absurd h (by simp)
  | cancel i =>
    rw [step] at h
    split at h
    · exact absurd h (by simp)
    · exact absurd h (by simp)
    · next stage hfinished hcancelled hstage =>
      obtain ⟨call, hcall, rfl⟩ := stage?_eq_some_iff.1 hstage
      obtain rfl := Option.some.inj h
      -- the two stages of a call that is over are the ones excluded before
      refine .cancel hcall ?_
      cases hcase : call.stage with
      | finished outcome => exact absurd hcase (hfinished outcome)
      | cancelled => exact absurd hcase hcancelled
      | _ => trivial
    · exact absurd h (by simp)

/-! ## All calls after a transition -/

/-- Something holds of each call, which may depend on its number. -/
def EachCall (calls : List Call) (P : Nat → Call → Prop) : Prop :=
  ∀ (i : Nat) (call : Call), calls[i]? = some call → P i call

variable {P : Nat → Call → Prop}

/-- What holds of each call, and of a new one under its number, holds of each call after its
arrival. -/
theorem EachCall.concat {calls : List Call} {new : Call} (h : EachCall calls P)
    (hnew : P calls.length new) : EachCall (calls ++ [new]) P := by
  intro j call hcall
  rw [List.getElem?_append] at hcall
  split at hcall
  · exact h j call hcall
  · next hj =>
    obtain ⟨hlt, rfl⟩ := List.getElem?_eq_some_iff.1 hcall
    rw [List.length_singleton] at hlt
    obtain rfl : j = calls.length := by omega
    rw [List.getElem_singleton]
    exact hnew

/-- What holds of each call and of a new one holds of each call after its arrival. -/
theorem EachCall.arrive {calls : List Call} {new : Call} (h : EachCall calls P)
    (hnew : ∀ j, P j new) : EachCall (calls ++ [new]) P :=
  h.concat (hnew _)

/-- What holds of the other calls, and of one call at its new stage, holds of each call after the
one has advanced. -/
theorem EachCall.advance {i : Nat} {stage : Stage}
    (hothers : EachCall s.calls fun j call => j ≠ i → P j call)
    (hone : ∀ call, s.calls[i]? = some call → P i { call with stage }) :
    EachCall (s.advance i stage).calls P := by
  intro j call hcall
  rw [CredentialCache.advance, List.getElem?_modify, Option.map_eq_map,
    Option.map_eq_some_iff] at hcall
  obtain ⟨before, hbefore, rfl⟩ := hcall
  by_cases hj : i = j
  · subst hj
    rw [if_pos rfl]
    exact hone before hbefore
  · rw [if_neg hj]
    exact hothers j before hbefore (Ne.symm hj)

/-- What holds of each call holds of each call after one has advanced to a stage where it is
true. -/
theorem EachCall.advance_of_stage {i : Nat} {stage : Stage} (h : EachCall s.calls P)
    (hone : ∀ call, s.calls[i]? = some call → P i { call with stage }) :
    EachCall (s.advance i stage).calls P :=
  EachCall.advance (fun j call hcall _ => h j call hcall) hone

end CredentialCache

end BearerBridge
