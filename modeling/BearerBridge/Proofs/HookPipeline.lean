/-
# Hooks behind validation

A validator hands the identity of an accepted token to its hooks, one after the other, each of them
on what the one before it left.  Suppose that each hook either refuses what it is handed or adds
claims to it.  Then the outcome is the refusal of the first hook that refuses, or the identity that
the token states with all added claims in the order of the hooks.  A token that the policy rejects
comes to no hook at all.

* `Hook.Extends` : hooks that add claims or refuse;
* `Adds` : what hooks add that refuse nothing;
* `validate_eq` : hooks come after what a validator without them does;
* `runHooks_eq_ok_iff`, `runHooks_eq_error_iff` : when hooks come to an identity, and when to a
  refusal;
* `SettledBy` : the hooks that have no say;
* `settledBy_zero`, `settledBy_refusal` : hooks have none about a rejected token, nor behind a hook
  that refuses;
* `pipeline` : all of it about a validator.
-/
import BearerBridge.Proofs.Bearer

namespace BearerBridge

/-! ## Adding claims -/

namespace Identity

/-- The identity with more claims, one after the other. -/
def addClaims (i : Identity) (cs : ClaimSet) : Identity :=
  cs.foldl addClaim i

/-- Added claims come behind those that are there, and nothing else changes. -/
theorem addClaims_eq (i : Identity) (cs : ClaimSet) :
    i.addClaims cs = { i with claims := i.claims ++ cs } := by
  induction cs generalizing i with
  | nil => rw [List.append_nil, addClaims, List.foldl_nil]
  | cons c cs ih =>
    show (i.addClaim c).addClaims cs = _
    rw [ih, addClaim, List.append_assoc, List.singleton_append]

theorem addClaims_addClaims (i : Identity) (cs cs' : ClaimSet) :
    (i.addClaims cs).addClaims cs' = i.addClaims (cs ++ cs') :=
  List.foldl_append.symm

end Identity

namespace Validator

/-! ## Hooks that add claims or refuse -/

/-- A hook that refuses an identity or adds claims to it; which of them, and which claims, may
depend on the identity. -/
def Hook.Extends (hook : Hook) : Prop :=
  ∀ i, (∃ f, hook i = .error f) ∨ ∃ cs, hook i = .ok (i.addClaims cs)

/-- The claims that hooks add, hook by hook, each of them handed what the ones before it left. -/
inductive Adds : List Hook → Identity → List ClaimSet → Prop where
  | nil (i : Identity) : Adds [] i []
  | cons {hook : Hook} {hooks : List Hook} {i : Identity} {cs : ClaimSet} {added : List ClaimSet}
      (hhook : hook i = .ok (i.addClaims cs)) (hrest : Adds hooks (i.addClaims cs) added) :
      Adds (hook :: hooks) i (cs :: added)

variable {hook : Hook} {hooks more : List Hook} {i j : Identity} {f : Failure}

theorem runHooks_cons :
    runHooks (hook :: hooks) i = hook i >>= runHooks hooks :=
  rfl

/-- **Hooks in two lists run one list after the other.** -/
theorem runHooks_append (hooks more : List Hook) (i : Identity) :
    runHooks (hooks ++ more) i = runHooks hooks i >>= runHooks more :=
  List.foldlM_append

/-- Hooks that refuse nothing come to the identity with all that they add. -/
theorem Adds.runHooks_eq {added : List ClaimSet} (h : Adds hooks i added) :
    runHooks hooks i = .ok (i.addClaims added.flatten) := by
  induction h with
  | nil i => rfl
  | cons hhook hrest ih =>
    rw [runHooks_cons, hhook, List.flatten_cons, ← Identity.addClaims_addClaims]
    exact ih

/-- Hooks that come to an identity have added claims and nothing else. -/
theorem exists_adds_of_runHooks (hextends : ∀ hook ∈ hooks, hook.Extends)
    (h : runHooks hooks i = .ok j) : ∃ added, Adds hooks i added := by
  induction hooks generalizing i with
  | nil => exact ⟨[], .nil i⟩
  | cons hook hooks ih =>
    obtain ⟨hhook, hhooks⟩ := List.forall_mem_cons.1 hextends
    rw [runHooks_cons] at h
    obtain ⟨i', hi', hrest⟩ := bind_eq_ok_iff.1 h
    rcases hhook i with ⟨f, hf⟩ | ⟨cs, hcs⟩
    · rw [hf] at hi'
      exact absurd hi' (by simp)
    · obtain rfl : i.addClaims cs = i' := Except.ok.inj (hcs.symm.trans hi')
      obtain ⟨added, hadded⟩ := ih hhooks hrest
      exact ⟨cs :: added, .cons hcs hadded⟩

/-- **When hooks come to an identity**: when none of them refuses, and then it is the one that they
were handed with all that they add, in their order. -/
theorem runHooks_eq_ok_iff (hextends : ∀ hook ∈ hooks, hook.Extends) :
    runHooks hooks i = .ok j
      ↔ ∃ added, Adds hooks i added ∧ j = { i with claims := i.claims ++ added.flatten } := by
  constructor
  · intro h
    obtain ⟨added, hadded⟩ := exists_adds_of_runHooks hextends h
    rw [hadded.runHooks_eq, Identity.addClaims_eq] at h
    exact ⟨added, hadded, (Except.ok.inj h).symm⟩
  · rintro ⟨added, hadded, rfl⟩
    rw [hadded.runHooks_eq, Identity.addClaims_eq]

/-- **When hooks come to a refusal**: when one of them refuses what those before it left. -/
theorem runHooks_eq_error_iff (hextends : ∀ hook ∈ hooks, hook.Extends) :
    runHooks hooks i = .error f
      ↔ ∃ before hook after added, hooks = before ++ hook :: after ∧ Adds before i added
        ∧ hook { i with claims := i.claims ++ added.flatten } = .error f := by
  constructor
  · intro h
    induction hooks generalizing i with
    | nil => exact absurd h (by simp [runHooks, pure, Except.pure])
    | cons hook hooks ih =>
      obtain ⟨hhook, hhooks⟩ := List.forall_mem_cons.1 hextends
      rcases hhook i with ⟨f', hf'⟩ | ⟨cs, hcs⟩
      · -- the first hook refuses
        rw [runHooks_cons, hf'] at h
        obtain rfl : f' = f := Except.error.inj h
        refine ⟨[], hook, hooks, [], rfl, .nil i, ?_⟩
        rw [List.flatten_nil, List.append_nil]
        exact hf'
      · -- the refusal is further on, about what the first hook left
        rw [runHooks_cons, hcs] at h
        obtain ⟨before, refuser, after, added, rfl, hadded, hrefuses⟩ := ih hhooks h
        refine ⟨hook :: before, refuser, after, cs :: added, rfl, .cons hcs hadded, ?_⟩
        rw [Identity.addClaims_eq, List.append_assoc] at hrefuses
        exact hrefuses
  · rintro ⟨before, refuser, after, added, rfl, hadded, hrefuses⟩
    rw [runHooks_append, hadded.runHooks_eq, Identity.addClaims_eq]
    show runHooks (refuser :: after) _ = _
    rw [runHooks_cons, hrefuses]
    rfl

/-! ## Validators -/

variable {v : Validator} {token : String} {now : Int64}

/-- **Hooks come after what a validator without them does**, and they report nothing. -/
theorem validate_eq (v : Validator) (token : String) (now : Int64) :
    v.validate token now
      = (· >>= runHooks v.hooks) <$> (ofPolicy v.policy).validate token now := by
  rw [validate, validate, map_bind]
  refine Traced.bind_congr ?_
  show _ = (· >>= runHooks v.hooks) <$> _
  cases (v.policy.check token now).value <;> rfl

theorem value_validate (v : Validator) (token : String) (now : Int64) :
    (v.validate token now).value
      = (v.policy.identify token now).mapError .invalidToken >>= runHooks v.hooks := by
  rw [validate_eq, Traced.value_map, value_validate_ofPolicy]

/-- A validator with more hooks hands them what it comes to without them. -/
theorem validate_append (v : Validator) (more : List Hook) (token : String) (now : Int64) :
    (Validator.mk v.policy (v.hooks ++ more)).validate token now
      = (· >>= runHooks more) <$> v.validate token now := by
  rw [validate_eq, validate_eq v, Functor.map_map]
  refine congrArg (· <$> _) (funext fun result => ?_)
  cases result with
  | error f => rfl
  | ok i => exact runHooks_append v.hooks more i

/-- Hooks can be exchanged for others that do the same with the identity that the token states. -/
theorem validate_congr
    (h : ∀ i, v.policy.identify token now = .ok i → runHooks hooks i = runHooks v.hooks i) :
    (Validator.mk v.policy hooks).validate token now = v.validate token now := by
  rw [validate_eq, validate_eq v, map_eq_pure_bind, map_eq_pure_bind]
  refine Traced.bind_congr (congrArg pure ?_)
  show ((ofPolicy v.policy).validate token now).value >>= runHooks hooks
    = ((ofPolicy v.policy).validate token now).value >>= runHooks v.hooks
  rw [value_validate_ofPolicy]
  cases hidentify : v.policy.identify token now with
  | error why => rfl
  | ok i => exact h i hidentify

/-! ## Hooks without a say -/

/-- A token is settled by the first hooks of a validator, if those behind them have no say: whatever
hooks stand there instead, the outcome and the reports are the same. -/
def SettledBy (v : Validator) (token : String) (now : Int64) (n : Nat) : Prop :=
  ∀ hooks : List Hook, hooks.take n = v.hooks.take n →
    (Validator.mk v.policy hooks).validate token now = v.validate token now

/-- **No hook has a say about a rejected token.** -/
theorem settledBy_zero {why : Rejection} (h : v.policy.identify token now = .error why) :
    v.SettledBy token now 0 := by
  intro hooks _
  refine validate_congr fun i hi => ?_
  rw [h] at hi
  exact absurd hi (by simp)

/-- A token is rejected when its validator rejects it whatever hooks it has. -/
theorem identify_eq_error_iff {why : Rejection} :
    v.policy.identify token now = .error why
      ↔ (v.validate token now).value = .error (.invalidToken why) ∧ v.SettledBy token now 0 := by
  constructor
  · intro h
    refine ⟨?_, settledBy_zero h⟩
    rw [value_validate, h]
    rfl
  · rintro ⟨hvalue, hsettled⟩
    rw [← hsettled [] rfl] at hvalue
    obtain ⟨why', hwhy', hinvalid⟩ := value_validate_eq_error_iff.1 hvalue
    rw [hwhy', Failure.invalidToken.inj hinvalid]

/-- **No hook behind the one that refuses has a say.** -/
theorem settledBy_refusal {before after : List Hook} {i' : Identity}
    (hidentify : v.policy.identify token now = .ok i) (hhooks : v.hooks = before ++ hook :: after)
    (hbefore : runHooks before i = .ok i') (hrefuses : hook i' = .error f) :
    v.SettledBy token now (before.length + 1) := by
  have hcomes : ∀ rest, runHooks ((before ++ [hook]) ++ rest) i = .error f := by
    intro rest
    rw [runHooks_append, runHooks_append, hbefore]
    show (runHooks [hook] i' >>= runHooks rest) = _
    rw [runHooks_cons, hrefuses]
    rfl
  intro hooks htake
  refine validate_congr fun j hj => ?_
  obtain rfl : i = j := Except.ok.inj (hidentify.symm.trans hj)
  have hfirst : v.hooks.take (before.length + 1) = before ++ [hook] := by
    rw [hhooks, List.take_length_add_append, List.take_succ_cons, List.take_zero]
  have hsplit : v.hooks = (before ++ [hook]) ++ after := by
    rw [hhooks, List.append_assoc, List.singleton_append]
  rw [hsplit, hcomes, ← List.take_append_drop (before.length + 1) hooks, htake, hfirst, hcomes]

/-! ## The pipeline -/

/-- **What a validator with hooks does with a token.**  A token that the policy rejects is rejected
for the same reason, and no hook has a say.  Take hooks that add claims or refuse, and a token that
states an identity.  If no hook refuses, the outcome is that identity with all that they add behind
its claims, in their order.  If one does, the outcome is its refusal, and the hooks behind it have
no say.  More hooks are handed what a validator comes to without them. -/
theorem pipeline (v : Validator) (token : String) (now : Int64) :
    (∀ why, v.policy.identify token now = .error why
      ↔ (v.validate token now).value = .error (.invalidToken why) ∧ v.SettledBy token now 0)
    ∧ (∀ i, v.policy.identify token now = .ok i → (∀ hook ∈ v.hooks, hook.Extends) →
      (∀ j, (v.validate token now).value = .ok j
        ↔ ∃ added, Adds v.hooks i added ∧ j = { i with claims := i.claims ++ added.flatten })
      ∧ ∀ f, (v.validate token now).value = .error f
        ↔ ∃ before hook after added, v.hooks = before ++ hook :: after ∧ Adds before i added
          ∧ hook { i with claims := i.claims ++ added.flatten } = .error f
          ∧ v.SettledBy token now (before.length + 1))
    ∧ ∀ more, (Validator.mk v.policy (v.hooks ++ more)).validate token now
        = (· >>= runHooks more) <$> v.validate token now := by
  refine ⟨fun why => identify_eq_error_iff, ?_, fun more => validate_append v more token now⟩
  intro i hidentify hextends
  have hvalue : (v.validate token now).value = runHooks v.hooks i := by
    rw [value_validate, hidentify]
    rfl
  refine ⟨fun j => ?_, fun f => ?_⟩
  · rw [hvalue]
    exact runHooks_eq_ok_iff hextends
  · rw [hvalue, runHooks_eq_error_iff hextends]
    constructor
    · rintro ⟨before, hook, after, added, hhooks, hadded, hrefuses⟩
      have hbefore := hadded.runHooks_eq
      rw [Identity.addClaims_eq] at hbefore
      exact ⟨before, hook, after, added, hhooks, hadded, hrefuses,
        settledBy_refusal hidentify hhooks hbefore hrefuses⟩
    · rintro ⟨before, hook, after, added, hhooks, hadded, hrefuses, -⟩
      exact ⟨before, hook, after, added, hhooks, hadded, hrefuses⟩

/-- A hook that numbers the steps on an identity. -/
def countStep : Hook := fun i =>
  .ok (i.addClaim ⟨"step", toString (i.claims.values "step").length⟩)

/-- A hook that refuses identities with more than one step. -/
def refuseSecondStep : Hook := fun i =>
  if 1 < (i.claims.values "step").length then .error (.forbidden "second step") else .ok i

theorem extends_countStep : Hook.Extends countStep := by
  intro i
  exact Or.inr ⟨[⟨"step", toString (i.claims.values "step").length⟩], rfl⟩

/-- The identity in a token that the signing policy of the fixtures issues. -/
def bearer : Identity :=
  Fixture.policy.identityFor (Fixture.principal "BRIDGE\\alice") 1000
    (Instant.after 1000 Fixture.policy.lifetime)

theorem exists_identify_bearer :
    ∃ token, Fixture.policy.identify token 1500 = .ok bearer := by
  have hissue : Fixture.policy.issue (Fixture.principal "BRIDGE\\alice") 1000
      = .ok (Fixture.policy.encode
        (Fixture.policy.statedClaims (Fixture.principal "BRIDGE\\alice") 1000)) :=
    Policy.issue_eq_ok_iff.2 ⟨by decide +kernel, by decide +kernel, rfl⟩
  have hidentify :=
    Policy.identify_issued hissue (Policy.length_encode_le_max (by decide +kernel)) 1500
  rw [if_neg (by decide +kernel), if_neg (by decide)] at hidentify
  exact ⟨_, hidentify⟩

/-- A validator that makes two steps. -/
def stepping : Validator := ⟨Fixture.policy, [countStep, countStep]⟩

/-- The validator that makes two steps, allows one, and would make a third one. -/
def gated : Validator := ⟨stepping.policy, stepping.hooks ++ [refuseSecondStep, countStep]⟩

/-- Two steps on the bearer of an issued token are numbered in order.  A hook behind them that
allows only one of them refuses, and the hook behind that one has no say. -/
theorem pipeline_steps :
    ∃ token, Fixture.policy.identify token 1500 = .ok bearer
      ∧ (stepping.validate token 1500).value
        = .ok { bearer with claims := bearer.claims ++ [⟨"step", "0"⟩, ⟨"step", "1"⟩] }
      ∧ (gated.validate token 1500).value = .error (.forbidden "second step")
      ∧ gated.SettledBy token 1500 3 := by
  obtain ⟨token, htoken⟩ := exists_identify_bearer
  have hextends : ∀ hook ∈ stepping.hooks, Hook.Extends hook := by
    simp [stepping, extends_countStep]
  have hsteps : Adds stepping.hooks bearer [[⟨"step", "0"⟩], [⟨"step", "1"⟩]] :=
    .cons rfl (.cons rfl (.nil _))
  have hbefore : runHooks stepping.hooks bearer
      = .ok (bearer.addClaims [⟨"step", "0"⟩, ⟨"step", "1"⟩]) := hsteps.runHooks_eq
  have hrefuses : refuseSecondStep (bearer.addClaims [⟨"step", "0"⟩, ⟨"step", "1"⟩])
      = .error (.forbidden "second step") :=
    if_pos (by decide +kernel)
  have hrest : runHooks [refuseSecondStep, countStep]
      (bearer.addClaims [⟨"step", "0"⟩, ⟨"step", "1"⟩]) = .error (.forbidden "second step") := by
    rw [runHooks_cons, hrefuses]
    rfl
  obtain ⟨-, hadds, happend⟩ := pipeline stepping token 1500
  have hvalue : (stepping.validate token 1500).value
      = .ok { bearer with claims := bearer.claims ++ [⟨"step", "0"⟩, ⟨"step", "1"⟩] } :=
    ((hadds bearer htoken hextends).1 _).2 ⟨_, hsteps, rfl⟩
  have hidentify : gated.policy.identify token 1500 = .ok bearer := htoken
  have hhooks : gated.hooks = stepping.hooks ++ refuseSecondStep :: [countStep] := rfl
  have hsettled := settledBy_refusal hidentify hhooks hbefore hrefuses
  refine ⟨token, htoken, hvalue, ?_, hsettled⟩
  rw [gated, happend, Traced.value_map, hvalue, ← Identity.addClaims_eq]
  exact hrest

end Validator

end BearerBridge
