/-
# The payload of a token reads back

The payload is one object: the members that belong to the token itself, then one member for
each kind of its claim set.  A claim may have the name of one of the token's own members, and
then it stands where that member does.  Such a payload is read only if no name of an own member
has two values, and a claim that stands alone for an absent member is read as that member.

* `TokenClaims.Unambiguous` : no name of an own member has two values;
* `TokenClaims.absorbed` : the claims with those that stand for a member taken for it;
* `TokenClaims.read?_chars_iff` : which written claims read back, and as what;
* `TokenClaims.read?_chars_regroup_iff` : when they come back with their claim set regrouped and
  nothing else changed.
-/
import BearerBridge.Proofs.Json.Members
import BearerBridge.Proofs.Regroup

namespace BearerBridge

theorem ClaimSet.isPlain_of_mem_members {cs : ClaimSet} {m : String × Json.Value}
    (hm : m ∈ cs.members) : m.2.IsPlain := by
  obtain ⟨k, -, rfl⟩ := List.mem_map.1 hm
  change (wireValue (cs.values k)).IsPlain
  unfold wireValue
  split
  · exact .text _
  · exact .texts _

namespace TokenClaims

/-! ## The token's own members -/

theorem isPlain_of_mem_ownMembers {c : TokenClaims} {m : String × Json.Value}
    (hm : m ∈ c.ownMembers) : m.2.IsPlain := by
  have hoptional : ∀ name text, ∀ m ∈ optionalMember name text, m.2.IsPlain := by
    intro name text m hm
    cases text with
    | none => exact absurd hm (by simp [optionalMember])
    | some s =>
      obtain rfl := List.mem_singleton.1 hm
      exact .text s
  simp only [ownMembers, List.mem_append, List.mem_cons, List.not_mem_nil, or_false] at hm
  obtain (hm | hm) | rfl | rfl | rfl | rfl := hm
  · exact hoptional _ _ m hm
  · exact hoptional _ _ m hm
  · exact .text _
  · exact .integer _
  · exact .integer _
  · exact .integer _

theorem mem_ownNames_of_mem_ownMembers {c : TokenClaims} {m : String × Json.Value}
    (hm : m ∈ c.ownMembers) : m.1 ∈ ownNames := by
  obtain ⟨issuer, audience, subject, notBefore, issuedAt, expiry, claims⟩ := c
  have key : ∀ m ∈ ownMembers ⟨issuer, audience, subject, notBefore, issuedAt, expiry, claims⟩,
      m.1 ∈ ownNames := by
    cases issuer <;> cases audience <;> simp [ownMembers, optionalMember, ownNames]
  exact key m hm

/-- Each of the token's own members stands once under its name. -/
theorem filter_ownMembers (c : TokenClaims) :
    c.ownMembers.filter (·.1 == "iss") = optionalMember "iss" c.issuer
      ∧ c.ownMembers.filter (·.1 == "aud") = optionalMember "aud" c.audience
      ∧ c.ownMembers.filter (·.1 == "sub") = [("sub", .text c.subject)]
      ∧ c.ownMembers.filter (·.1 == "nbf") = [("nbf", instant c.notBefore)]
      ∧ c.ownMembers.filter (·.1 == "iat") = [("iat", instant c.issuedAt)]
      ∧ c.ownMembers.filter (·.1 == "exp") = [("exp", instant c.expiry)] := by
  obtain ⟨issuer, audience, subject, notBefore, issuedAt, expiry, claims⟩ := c
  cases issuer <;> cases audience <;> simp [ownMembers, optionalMember]

/-! ## Claims with the name of a member -/

/-- How many values claims have under a name: that of the token's own member, if it is there, and
those of the claims of that kind. -/
def valueCount (c : TokenClaims) (name : String) : Nat :=
  (c.ownMembers.filter (·.1 == name)).length + c.claims.count name

/-- No name of the token's own members has two values. -/
def Unambiguous (c : TokenClaims) : Prop :=
  ∀ name ∈ ownNames, c.valueCount name ≤ 1

instance (c : TokenClaims) : Decidable c.Unambiguous :=
  inferInstanceAs (Decidable (∀ name ∈ ownNames, c.valueCount name ≤ 1))

/-- The claims with a claim of the kind of an absent member taken for that member, no claim left
with the name of a member, and the others regrouped by kind. -/
def absorbed (c : TokenClaims) : TokenClaims :=
  { c with
    issuer := c.issuer.or (c.claims.first? "iss")
    audience := c.audience.or (c.claims.first? "aud")
    claims := (c.claims.keepKinds (!ownNames.contains ·)).regroup }

/-! ## Members of written claims -/

section Members

variable {c : TokenClaims} {name : String}

/-- A member that is there is found when no claim has its name. -/
theorem unique?_written {v : Json.Value} (h : c.ownMembers.filter (·.1 == name) = [(name, v)]) :
    Json.unique? name (c.ownMembers ++ c.claims.members)
      = if c.valueCount name ≤ 1 then some (some v) else none := by
  rw [Json.unique?, List.filter_append, h, ClaimSet.filter_members, valueCount, h,
    List.length_singleton]
  by_cases hcount : c.claims.count name = 0
  · rw [if_pos hcount, if_pos (by omega)]
    rfl
  · rw [if_neg hcount, if_neg (by omega)]
    rfl

theorem text?_written_iff {s s' : String}
    (h : c.ownMembers.filter (·.1 == name) = [(name, .text s)]) :
    text? name (c.ownMembers ++ c.claims.members) = some s'
      ↔ c.valueCount name ≤ 1 ∧ s' = s := by
  rw [text?, unique?_written h]
  by_cases hcount : c.valueCount name ≤ 1
  · simp [hcount, eq_comm]
  · simp [hcount]

theorem instant?_written_iff {n n' : Int64}
    (h : c.ownMembers.filter (·.1 == name) = [(name, instant n)]) :
    instant? name (c.ownMembers ++ c.claims.members) = some n'
      ↔ c.valueCount name ≤ 1 ∧ n' = n := by
  rw [instant?, unique?_written h, instant]
  by_cases hcount : c.valueCount name ≤ 1
  · simp [hcount, Json.int64?_toInt, eq_comm]
  · simp [hcount]

/-- Where a member may be absent, the only claim of its name stands for it. -/
theorem optionalText?_written_iff {s s' : Option String}
    (h : c.ownMembers.filter (·.1 == name) = optionalMember name s) :
    optionalText? name (c.ownMembers ++ c.claims.members) = some s'
      ↔ c.valueCount name ≤ 1 ∧ s' = s.or (c.claims.first? name) := by
  cases s with
  | some s =>
    rw [optionalText?, unique?_written h]
    by_cases hcount : c.valueCount name ≤ 1
    · simp [hcount, eq_comm]
    · simp [hcount]
  | none =>
    rw [optionalText?, Json.unique?, List.filter_append, h, ClaimSet.filter_members, valueCount,
      h, ClaimSet.count_eq_length_values, ClaimSet.first?_eq_head?_values]
    -- over the values: an array of them is no text
    match c.claims.values name with
    | [] => simp [optionalMember, eq_comm]
    | [v] => simp [optionalMember, ClaimSet.wireValue, eq_comm]
    | v :: w :: vs => simp [optionalMember, ClaimSet.wireValue]

end Members

/-- The members of other names are those of the claims of other kinds. -/
theorem filter_written (c : TokenClaims) :
    (c.ownMembers ++ c.claims.members).filter (!ownNames.contains ·.1)
      = (c.claims.keepKinds (!ownNames.contains ·)).members := by
  have hown : c.ownMembers.filter (!ownNames.contains ·.1) = [] := by
    rw [List.filter_eq_nil_iff]
    intro m hm
    simpa using mem_ownNames_of_mem_ownMembers hm
  rw [List.filter_append, hown, List.nil_append, ClaimSet.members_keepKinds]

theorem ofMembers?_eq_some_iff {ms : List (String × Json.Value)} {c : TokenClaims} :
    ofMembers? ms = some c
      ↔ optionalText? "iss" ms = some c.issuer ∧ optionalText? "aud" ms = some c.audience
        ∧ text? "sub" ms = some c.subject ∧ instant? "nbf" ms = some c.notBefore
        ∧ instant? "iat" ms = some c.issuedAt ∧ instant? "exp" ms = some c.expiry
        ∧ c.claims = ClaimSet.ofMembers (ms.filter (!ownNames.contains ·.1)) := by
  obtain ⟨issuer, audience, subject, notBefore, issuedAt, expiry, claims⟩ := c
  simp only [ofMembers?, Option.bind_eq_bind, Option.pure_def, Option.bind_eq_some_iff,
    Option.some.injEq, mk.injEq]
  constructor
  · rintro ⟨_, hiss, _, haud, _, hsub, _, hnbf, _, hiat, _, hexp, rfl, rfl, rfl, rfl, rfl, rfl, h⟩
    exact ⟨hiss, haud, hsub, hnbf, hiat, hexp, h.symm⟩
  · rintro ⟨hiss, haud, hsub, hnbf, hiat, hexp, h⟩
    exact ⟨_, hiss, _, haud, _, hsub, _, hnbf, _, hiat, _, hexp, rfl, rfl, rfl, rfl, rfl, rfl,
      h.symm⟩

/-! ## Written claims -/

theorem isPlain_of_mem_written {c : TokenClaims} {m : String × Json.Value}
    (hm : m ∈ c.ownMembers ++ c.claims.members) : m.2.IsPlain := by
  rcases List.mem_append.1 hm with hm | hm
  · exact isPlain_of_mem_ownMembers hm
  · exact ClaimSet.isPlain_of_mem_members hm

/-- The object of written claims is read with its members as they were written. -/
theorem members?_chars (c : TokenClaims) :
    Json.members? (Utf8.encode c.chars) = some (c.ownMembers ++ c.claims.members) :=
  Json.members?_objectChars fun _ => isPlain_of_mem_written

theorem read?_chars_eq (c : TokenClaims) :
    read? (Utf8.encode c.chars) = ofMembers? (c.ownMembers ++ c.claims.members) := by
  rw [read?_eq, members?_chars, Option.bind_some]

/-- **Which written claims read back, and as what**: those where no name of an own member has two
values, and a claim that stands for an absent member is taken for it. -/
theorem read?_chars_iff {c c' : TokenClaims} :
    read? (Utf8.encode c.chars) = some c' ↔ c.Unambiguous ∧ c' = c.absorbed := by
  obtain ⟨hiss, haud, hsub, hnbf, hiat, hexp⟩ := filter_ownMembers c
  rw [read?_chars_eq, ofMembers?_eq_some_iff, optionalText?_written_iff hiss,
    optionalText?_written_iff haud, text?_written_iff hsub, instant?_written_iff hnbf,
    instant?_written_iff hiat, instant?_written_iff hexp, filter_written,
    ClaimSet.ofMembers_members]
  have hnames : c.Unambiguous ↔ c.valueCount "iss" ≤ 1 ∧ c.valueCount "aud" ≤ 1
      ∧ c.valueCount "sub" ≤ 1 ∧ c.valueCount "nbf" ≤ 1 ∧ c.valueCount "iat" ≤ 1
      ∧ c.valueCount "exp" ≤ 1 := by
    simp [Unambiguous, ownNames]
  obtain ⟨issuer, audience, subject, notBefore, issuedAt, expiry, claims⟩ := c'
  rw [hnames, absorbed, mk.injEq]
  tauto

theorem read?_chars_of_ambiguous {c : TokenClaims} (h : ¬ c.Unambiguous) :
    read? (Utf8.encode c.chars) = none := by
  rw [Option.eq_none_iff_forall_ne_some]
  exact fun c' hread => h (read?_chars_iff.1 hread).1

/-! ## Claims of other names -/

/-- A member that is there has one value already. -/
theorem length_filter_ownMembers_le (c : TokenClaims) {name : String} (h : name ∈ ownNames) :
    (c.ownMembers.filter (·.1 == name)).length ≤ 1 := by
  have hoptional : ∀ name text, (optionalMember name text).length ≤ 1 := by
    intro name text
    cases text <;> simp [optionalMember]
  obtain ⟨hiss, haud, hsub, hnbf, hiat, hexp⟩ := filter_ownMembers c
  simp only [ownNames, List.mem_cons, List.not_mem_nil, or_false] at h
  rcases h with rfl | rfl | rfl | rfl | rfl | rfl
  · exact hiss ▸ hoptional ..
  · exact haud ▸ hoptional ..
  · exact Nat.le_of_eq (congrArg List.length hsub)
  · exact Nat.le_of_eq (congrArg List.length hnbf)
  · exact Nat.le_of_eq (congrArg List.length hiat)
  · exact Nat.le_of_eq (congrArg List.length hexp)

/-- Claims of other names than the token's own members stand for none of them. -/
theorem absorbed_eq_regroup {c : TokenClaims} (h : ∀ x ∈ c.claims, x.kind ∉ ownNames) :
    c.absorbed = c.regroup := by
  have hfirst : ∀ name ∈ ownNames, c.claims.first? name = none := by
    intro name hname
    rw [ClaimSet.first?, Option.map_eq_none_iff, List.find?_eq_none]
    intro x hx he
    exact h x hx (eq_of_beq he ▸ hname)
  have hkeep : c.claims.keepKinds (!ownNames.contains ·) = c.claims := by
    rw [ClaimSet.keepKinds, List.filter_eq_self]
    intro x hx
    simpa using h x hx
  rw [absorbed, hfirst "iss" (by decide), hfirst "aud" (by decide), Option.or_none,
    Option.or_none, hkeep, regroup]

/-- **When written claims come back as they were**, but for the order of their claim set: when no
claim has the name of one of the token's own members. -/
theorem read?_chars_regroup_iff {c : TokenClaims} :
    read? (Utf8.encode c.chars) = some c.regroup ↔ ∀ x ∈ c.claims, x.kind ∉ ownNames := by
  rw [read?_chars_iff]
  constructor
  · rintro ⟨-, hregroup⟩ x hx
    -- a claim with the name of a member would not be among those that come back
    have hclaims : c.claims.regroup = (c.claims.keepKinds (!ownNames.contains ·)).regroup :=
      congrArg claims hregroup
    have hkept : x ∈ c.claims.keepKinds (!ownNames.contains ·) := by
      rw [← ClaimSet.mem_regroup, ← hclaims, ClaimSet.mem_regroup]
      exact hx
    simpa using (List.mem_filter.1 hkept).2
  · intro h
    refine ⟨fun name hname => ?_, (absorbed_eq_regroup h).symm⟩
    have hcount : c.claims.count name = 0 :=
      ClaimSet.count_eq_zero_iff.2 fun x hx he => h x hx (he ▸ hname)
    rw [valueCount, hcount]
    exact length_filter_ownMembers_le c hname

end TokenClaims

end BearerBridge
