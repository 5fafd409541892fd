/-
# The expiry that a client reads

The bridge gives a meaning to every member of a payload; a client resolves the names and looks at
one member only.  The client is content with more payloads than the bridge is, but where the
bridge reads claims at all, the client finds the same expiry.

* `forall₂_of_memberValues?` : members that have values have names, in the same order;
* `unique?_of_forall₂` : a name that is there once is found once by both readers;
* `readExpiry?_of_read?` : a client finds the expiry of the claims that the bridge reads.
-/
import BearerBridge.Proofs.Token.Payload
import BearerBridge.Token.Signature
import Mathlib.Data.List.Forall2

namespace BearerBridge

namespace Json

/-! ## Members with and without their values -/

/-- A member as a client sees it and as the bridge does: the name is resolved by both, the value
is looked at by the bridge only. -/
def SameMember (depth : Nat) (seen : String × Tree) (read : String × Value) : Prop :=
  seen.1 = read.1 ∧ seen.2.value? depth = some read.2

/-- **Members that have values have names**, in the same order. -/
theorem forall₂_of_memberValues? {depth : Nat} {members : List (List UInt8 × Tree)}
    {vs : List (String × Value)} (h : memberValues? depth members = some vs) :
    ∃ ns, named? members = some ns ∧ List.Forall₂ (SameMember depth) ns vs := by
  -- over the members: each is looked at apart from the others
  induction members generalizing vs with
  | nil =>
    obtain rfl := Option.some.inj h
    exact ⟨[], rfl, .nil⟩
  | cons m members ih =>
    obtain ⟨body, t⟩ := m
    rw [memberValues?] at h
    split at h
    · next n v rest hname hvalue hrest =>
      obtain rfl := Option.some.inj h
      obtain ⟨ns, hns, hsame⟩ := ih hrest
      exact ⟨(n, t) :: ns, by rw [named?, hname, hns], .cons ⟨rfl, hvalue⟩ hsame⟩
    · exact absurd h (by simp)

/-- **A name that is there once is found once by both readers.** -/
theorem unique?_of_forall₂ {depth : Nat} {ns : List (String × Tree)} {vs : List (String × Value)}
    (h : List.Forall₂ (SameMember depth) ns vs) {name : String} {v : Value}
    (hv : unique? name vs = some (some v)) :
    ∃ t, unique? name ns = some (some t) ∧ t.value? depth = some v := by
  have hfound : List.Forall₂ (SameMember depth) (ns.filter (·.1 == name))
      (vs.filter (·.1 == name)) := by
    refine List.rel_filter (fun seen read hsame => ?_) h
    show (seen.1 == name) = true ↔ (read.1 == name) = true
    rw [hsame.1]
  rw [unique?] at hv
  split at hv
  · exact absurd hv (by simp)
  · next m hone =>
    obtain rfl := Option.some.inj (Option.some.inj hv)
    rw [hone, List.forall₂_cons_right_iff] at hfound
    obtain ⟨seen, rest, hsame, hrest, hseen⟩ := hfound
    obtain rfl := List.forall₂_nil_right_iff.1 hrest
    exact ⟨seen.2, by rw [unique?, hseen], hsame.2⟩
  · exact absurd hv (by simp)

/-- A tree that means a number is a number, and both readers take the same integer from it. -/
theorem Tree.int64?_of_value? {depth : Nat} {t : Tree} {n : Number}
    (h : t.value? depth = some (.number n)) : t.int64? = n.int64? := by
  cases t with
  | number m =>
    rw [Tree.value?, Option.map_eq_some_iff] at h
    obtain ⟨n', hn', hsame⟩ := h
    obtain rfl := Value.number.inj hsame
    rw [Tree.int64?, hn', Option.bind_some]
  | null => exact absurd h (by simp [Tree.value?])
  | boolean b => exact absurd h (by simp [Tree.value?])
  | text body => exact absurd h (by simp [Tree.value?])
  | array items =>
    rw [Tree.value?] at h
    split at h <;> exact absurd h (by simp)
  | object members =>
    rw [Tree.value?] at h
    split at h <;> exact absurd h (by simp)

end Json

/-! ## Two readers of a payload -/

namespace TokenClaims

/-- **A client finds the expiry of the claims that the bridge reads.** -/
theorem readExpiry?_of_read? {bs : List UInt8} {c : TokenClaims} (h : read? bs = some c) :
    readExpiry? bs = some c.expiry := by
  rw [read?] at h
  split at h
  · next members ht =>
    obtain ⟨vs, hvs, hclaims⟩ := Option.bind_eq_some_iff.1 h
    obtain ⟨ns, hns, hsame⟩ := Json.forall₂_of_memberValues? hvs
    obtain ⟨-, -, -, -, -, hinstant, -⟩ := ofMembers?_eq_some_iff.1 hclaims
    rw [instant?] at hinstant
    split at hinstant
    · next n hunique =>
      obtain ⟨t, ht', hvalue⟩ := Json.unique?_of_forall₂ hsame hunique
      have hparts : Json.Tree.parts? ["exp"] (.object members) = some [some t] := by
        rw [Json.Tree.parts?, hns, Option.bind_some]
        simp [ht']
      rw [readExpiry?, ht, Option.bind_some, hparts]
      dsimp only
      rw [Json.Tree.int64?_of_value? hvalue, hinstant]
    · exact absurd hinstant (by simp)
  · exact absurd h (by simp)

end TokenClaims

/-- What a client makes of a token that splits. -/
theorem Token.expiry_of_split {token : String} {s : Segments} (hs : Segments.split token = .ok s) :
    expiry token = match (segmentBytes? s.payload).bind TokenClaims.readExpiry? with
      | some t => .ok t
      | none => .error .malformed := by
  rw [expiry, hs]
  rfl

end BearerBridge
