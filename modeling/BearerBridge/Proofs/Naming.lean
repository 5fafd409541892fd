/-
# Canonical names keep principals apart

A name `DOMAIN\user` becomes `user@DOMAIN`.  The separator moves from the first backslash to an at
sign, which users may have in their names as well, but the last at sign is the one that was put
there as long as domains have none.  So domain and user are read back from the canonical form, and
no two principals share one.  It is blank only when the name is, so that no name for which tokens
are issued is refused when they come back.

* `IsQualified` : a name with its domain and its user;
* `canonicalName_of_isQualified` : its canonical form;
* `atLast?_canonicalName` : domain and user read back from there;
* `canonicalName_faithful` : what follows for principals, and for tokens issued to them.
-/
import BearerBridge.Proofs.RoundTrip

namespace BearerBridge

/-! ## Qualified names -/

/-- A name that consists of a domain and a user, neither of them empty, with its first backslash
between them. -/
structure IsQualified (name domain user : String) : Prop where
  text : name = domain ++ "\\" ++ user
  first : '\\' ∉ domain.toList
  domain_ne : domain ≠ ""
  user_ne : user ≠ ""

section Qualified

variable {name name' domain domain' user user' : String}

/-- Domain and user determine the name. -/
theorem IsQualified.unique (h : IsQualified name domain user)
    (h' : IsQualified name' domain user) : name = name' :=
  h.text.trans h'.text.symm

/-- **The canonical form of a qualified name** has the user in front, behind it an at sign and the
domain. -/
theorem canonicalName_of_isQualified (h : IsQualified name domain user) :
    (canonicalName name).toList = user.toList ++ '@' :: domain.toList := by
  have hname : name.toList = domain.toList ++ '\\' :: user.toList := by
    rw [h.text, String.toList_append, String.toList_append, List.append_assoc]
    rfl
  exact toList_canonicalName hname h.first (mt String.toList_eq_nil_iff.1 h.domain_ne)
    (mt String.toList_eq_nil_iff.1 h.user_ne)

/-- **Domain and user are read back** from the last at sign, wherever else the user has one. -/
theorem atLast?_canonicalName (h : IsQualified name domain user) (hat : '@' ∉ domain.toList) :
    atLast? '@' (canonicalName name).toList = some (user.toList, domain.toList) := by
  rw [canonicalName_of_isQualified h, atLast?_append _ hat]

/-- Qualified names with one canonical form have one domain and one user. -/
theorem canonicalName_eq_iff (h : IsQualified name domain user)
    (h' : IsQualified name' domain' user') (hat : '@' ∉ domain.toList)
    (hat' : '@' ∉ domain'.toList) :
    canonicalName name = canonicalName name' ↔ domain = domain' ∧ user = user' := by
  constructor
  · intro he
    have hread := atLast?_canonicalName h hat
    rw [he, atLast?_canonicalName h' hat', Option.some.injEq, Prod.mk.injEq] at hread
    exact ⟨(String.toList_inj.1 hread.2).symm, (String.toList_inj.1 hread.1).symm⟩
  · rintro ⟨rfl, rfl⟩
    rw [h.unique h']

end Qualified

/-- With at signs in their domains, two principals may share a canonical form. -/
example : canonicalName "b@c\\a" = canonicalName "c\\a@b" := by decide

/-! ## Names of tokens -/

/-- **Canonical names are faithful.**  Qualified names whose domains have no at sign share a
canonical form only when domain and user are the same.  The canonical form of a name from which
trimming leaves something is such a name again.  So the claims that are issued for a principal
state a subject with which an identity lacks nothing but perhaps an authentication type, and the
token brings that subject along. -/
theorem canonicalName_faithful :
    (∀ name name' domain domain' user user', IsQualified name domain user →
        IsQualified name' domain' user' → '@' ∉ domain.toList → '@' ∉ domain'.toList →
        (canonicalName name = canonicalName name' ↔ domain = domain' ∧ user = user'))
      ∧ (∀ name, trim name ≠ "" → trim (canonicalName name) ≠ "")
      ∧ ∀ (policy : Policy) p now c, policy.claimsFor p now = .ok c →
        c.subject = canonicalName p.name
          ∧ (∀ reserved default, (∃ i, Identity.ofTokenClaims c reserved default = .ok i)
            ↔ ∃ type, (c.claims.first? reserved).or default = some type ∧ type ≠ "")
          ∧ ∀ token, policy.issue p now = .ok token →
            (Utf8.ofString token).length ≤ maxTokenBytes →
            ∃ c', Token.claims token = .ok c' ∧ c'.subject = c.subject := by
  have hblank : ∀ name, isBlank name = false ↔ trim name ≠ "" := by
    intro name
    rw [← Bool.not_eq_true, isBlank_iff]
  refine ⟨fun _ _ _ _ _ _ h h' hat hat' => canonicalName_eq_iff h h' hat hat', ?_, ?_⟩
  · intro name hname
    exact (hblank _).1 (isBlank_canonicalName ((hblank name).2 hname))
  · intro policy p now c hclaims
    obtain ⟨hnamed, -, rfl⟩ := Policy.claimsFor_eq_ok_iff.1 hclaims
    have hname : isBlank p.name = false := by
      rw [Principal.isNameless, Bool.or_eq_false_iff] at hnamed
      exact hnamed.1
    refine ⟨rfl, fun reserved default => ?_, fun token hissue hsize => ?_⟩
    · have hsubject : isBlank (policy.statedClaims p now).subject = false :=
        isBlank_canonicalName hname
      rw [Identity.exists_ofTokenClaims_iff, hsubject, eq_self_iff_true, true_and]
    · exact ⟨_, (Policy.authenticates_issue hissue hsize).claims, rfl⟩

/-- A user whose domain and whose own name are blanks. -/
def blankUser : Principal :=
  ⟨"\u00a0\\\u2003", "Negotiate", []⟩

/-- Users that are called after the other's domain are kept apart, and of a name that is all blanks
but for its backslash the at sign stays. -/
theorem canonicalName_faithful_blankUser :
    canonicalName "CORP\\alice@LAB" ≠ canonicalName "LAB\\alice@CORP"
      ∧ trim (canonicalName blankUser.name) ≠ ""
      ∧ ∃ c token, Policy.usual.claimsFor blankUser 1000 = .ok c
        ∧ c.subject = "\u2003@\u00a0"
        ∧ (∃ i, Identity.ofTokenClaims c Kind.authenticationType none = .ok i)
        ∧ Policy.usual.issue blankUser 1000 = .ok token
        ∧ ∃ c', Token.claims token = .ok c' ∧ c'.subject = c.subject := by
  obtain ⟨hapart, hblank, hsubject⟩ := canonicalName_faithful
  have hcorp : IsQualified "CORP\\alice@LAB" "CORP" "alice@LAB" :=
    ⟨by decide +kernel, by decide, by decide, by decide⟩
  have hlab : IsQualified "LAB\\alice@CORP" "LAB" "alice@CORP" :=
    ⟨by decide +kernel, by decide, by decide, by decide⟩
  refine ⟨fun he => ?_, hblank _ (by decide), ?_⟩
  · obtain ⟨hdomain, -⟩ := (hapart _ _ _ _ _ _ hcorp hlab (by decide) (by decide)).1 he
    exact absurd hdomain (by decide)
  · have hclaims : Policy.usual.claimsFor blankUser 1000
        = .ok (Policy.usual.statedClaims blankUser 1000) :=
      Policy.claimsFor_eq_ok_iff.2 ⟨by decide, by decide, rfl⟩
    have hissue : Policy.usual.issue blankUser 1000
        = .ok (Policy.usual.encode (Policy.usual.statedClaims blankUser 1000)) := by
      rw [Policy.issue, hclaims]
      rfl
    obtain ⟨-, hidentity, htoken⟩ := hsubject _ _ _ _ hclaims
    exact ⟨_, _, hclaims, by decide, (hidentity _ _).2 ⟨"Negotiate", by decide, by decide⟩, hissue,
      htoken _ hissue (Policy.length_encode_le_max (by decide +kernel))⟩

end BearerBridge
