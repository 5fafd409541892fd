/-
# Outcomes

A reader or an issuer that consists of steps comes to a result exactly when every step does.
-/
namespace BearerBridge

variable {ε α β : Type}

/-- **Two steps come to a result when both do.** -/
theorem bind_eq_ok_iff {x : Except ε α} {f : α → Except ε β} {b : β} :
    x >>= f = .ok b ↔ ∃ a, x = .ok a ∧ f a = .ok b := by
  cases x <;> simp [bind, Except.bind]

theorem throw_ne_ok {e : ε} {a : α} : (throw e : Except ε α) ≠ .ok a := by
  intro h
  cases h

/-- Nothing comes of what follows a fault. -/
theorem throw_bind_ne_ok {e : ε} {f : α → Except ε β} {b : β} :
    (throw e >>= f : Except ε β) ≠ .ok b := by
  intro h
  obtain ⟨a, ha, -⟩ := bind_eq_ok_iff.1 h
  exact throw_ne_ok ha

/-- A check passes when its condition holds. -/
theorem ite_eq_ok_iff {p : Prop} [Decidable p] {e : ε} {a : α} :
    (if p then .ok a else .error e : Except ε α) = .ok a ↔ p := by
  split <;> simp [*]

/-- What is required first has to hold before the rest counts. -/
theorem unless_eq_ok_iff {p : Prop} [Decidable p] {e : ε} {rest : Except ε α} {a : α} :
    (do unless p do throw e
        rest) = .ok a ↔ p ∧ rest = .ok a := by
  by_cases h : p
  · rw [if_pos h, and_iff_right h]
  · rw [if_neg h]
    exact iff_of_false throw_bind_ne_ok (fun hp => h hp.1)

theorem toOption_eq_some_iff {x : Except ε α} {a : α} : x.toOption = some a ↔ x = .ok a := by
  cases x <;> simp [Except.toOption]

end BearerBridge
