/-
# What a trusted proxy asserts

A proxy asserts an identity by the first values of three headers.  The value of the first one names
the user, and without it nothing is asserted.  The second one may state an authentication type, and
the third one may list groups between commas.  Whatever the headers are, the principal that comes
of them has all that a token states, so it is issued one under every policy whose reserved claim
has a name of its own.

* `Headers.Reads`, `text?_eq_some_iff` : the text that the first value of a header spells;
* `Proxy.Lists`, `Proxy.Asserts` : the groups and the principal that headers assert;
* `authenticate_eq_some_iff` : the principal that is verified is the asserted one;
* `authenticate_eq_none_iff` : when nobody is verified;
* `asserted_issuable` : every asserted principal is well formed and issued tokens.
-/
import BearerBridge.Proofs.PlainIssuance
import BearerBridge.Proofs.Transparency

namespace BearerBridge

namespace Http

/-! ## Texts in headers -/

/-- The first value of a header spells a text, with one byte for each of its characters, all of
them readable. -/
structure Headers.Reads (hs : Headers) (name text : String) : Prop where
  first : (hs.values name).head? = some (Utf8.ofString text)
  readable : ∀ c ∈ text.toList, IsReadable c

theorem Headers.get?_eq_head?_values (hs : Headers) (name : String) :
    hs.get? name = (hs.values name).head? := by
  rw [get?, values, List.head?_map, List.head?_filter]

theorem Headers.text?_eq_some_iff {hs : Headers} {name text : String} :
    hs.text? name = some text ↔ hs.Reads name text := by
  rw [text?, Option.bind_eq_some_iff, get?_eq_head?_values]
  constructor
  · rintro ⟨v, hfirst, hv⟩
    obtain ⟨rfl, hread⟩ := valueText?_eq_some_iff.1 hv
    exact ⟨hfirst, hread⟩
  · rintro ⟨hfirst, hread⟩
    exact ⟨_, hfirst, valueText?_eq_some_iff.2 ⟨rfl, hread⟩⟩

end Http

namespace Proxy

variable {proxy : Proxy} {hs : Http.Headers} {r : Http.Request} {p : Principal} {a : Address}

/-! ## Assertions -/

theorem header?_eq_some_iff {name value : String} :
    header? hs name = some value
      ↔ ∃ text, hs.Reads name text ∧ trim text ≠ "" ∧ value = trim text := by
  rw [header?, Option.bind_eq_some_iff]
  refine exists_congr fun text => ?_
  rw [Http.Headers.text?_eq_some_iff, nonBlank?_eq_some_iff]

theorem header?_eq_none_iff {name : String} :
    header? hs name = none ↔ ∀ text, hs.Reads name text → trim text = "" := by
  rw [Option.eq_none_iff_forall_ne_some]
  constructor
  · intro h text hread
    by_contra hne
    exact h _ (header?_eq_some_iff.2 ⟨text, hread, hne, rfl⟩)
  · intro h value hvalue
    obtain ⟨text, hread, hne, -⟩ := header?_eq_some_iff.1 hvalue
    exact hne (h text hread)

/-- The groups that a header lists: what trimming leaves of the pieces between its commas, in their
order, blank pieces left out.  A header that does not read as a text lists none. -/
inductive Lists (hs : Http.Headers) (name : String) : List String → Prop where
  | listed (text : String) (pieces : List String) (hread : hs.Reads name text)
      (hpieces : IsPieces ',' text pieces) : Lists hs name ((pieces.map trim).filter (· ≠ ""))
  | unlisted (hread : ∀ text, ¬ hs.Reads name text) : Lists hs name []

/-- The principal that headers assert. -/
structure Asserts (proxy : Proxy) (hs : Http.Headers) (p : Principal) : Prop where
  name : ∃ text, hs.Reads proxy.headers.user text ∧ trim text ≠ "" ∧ p.name = trim text
  authenticationType :
    (∃ text, hs.Reads proxy.headers.authenticationType text ∧ trim text ≠ ""
        ∧ p.authenticationType = trim text)
      ∨ ((∀ text, hs.Reads proxy.headers.authenticationType text → trim text = "")
        ∧ p.authenticationType = "Negotiate")
  claims : ∃ groups, Lists hs proxy.headers.groups groups
    ∧ p.claims = ⟨Kind.name, p.name⟩ :: groups.map (Claim.mk Kind.group)

/-- The groups that are read off a header are those that it lists. -/
theorem lists_iff {name : String} {groups : List String} :
    Lists hs name groups ↔ ((header? hs name).map commaList).getD [] = groups := by
  have hentries : ∀ text, hs.Reads name text →
      ((header? hs name).map commaList).getD [] = commaList text := by
    intro text hread
    rw [header?, Http.Headers.text?_eq_some_iff.2 hread, Option.bind_some, nonBlank?_eq]
    by_cases hblank : trim text = ""
    · -- a blank list has no entries
      rw [if_pos hblank, ← commaList_trim, hblank]
      rfl
    · rw [if_neg hblank, Option.map_some, Option.getD_some, commaList_trim]
  constructor
  · rintro (⟨text, pieces, hread, hpieces⟩ | hread)
    · rw [hentries text hread, commaList_of_isPieces hpieces]
    · rw [header?_eq_none_iff.2 fun text h => absurd h (hread text)]
      rfl
  · rintro rfl
    by_cases hread : ∃ text, hs.Reads name text
    · obtain ⟨text, hread⟩ := hread
      obtain ⟨pieces, hpieces⟩ := exists_isPieces ',' text
      rw [hentries text hread, commaList_of_isPieces hpieces]
      exact .listed text pieces hread hpieces
    · rw [not_exists] at hread
      rw [header?_eq_none_iff.2 fun text h => absurd h (hread text)]
      exact .unlisted hread

/-- What a listed group is like: it is not empty, no blanks are around it, and it holds no
comma. -/
theorem Lists.group {name group : String} {groups : List String} (h : Lists hs name groups)
    (hgroup : group ∈ groups) : group ≠ "" ∧ trim group = group ∧ ',' ∉ group.toList := by
  cases h with
  | listed text pieces hread hpieces =>
    rw [← commaList_of_isPieces hpieces] at hgroup
    exact entry_of_mem_commaList hgroup
  | unlisted hread => exact absurd hgroup List.not_mem_nil

/-- The principal that the headers of a user assert. -/
theorem asserts_iff :
    proxy.Asserts hs p
      ↔ ∃ user, header? hs proxy.headers.user = some user ∧ proxy.asserted hs user = p := by
  constructor
  · rintro ⟨⟨text, hread, hne, hname⟩, htype, groups, hgroups, hclaims⟩
    refine ⟨p.name, header?_eq_some_iff.2 ⟨text, hread, hne, hname⟩, ?_⟩
    have hstated : (header? hs proxy.headers.authenticationType).getD defaultAuthenticationType
        = p.authenticationType := by
      rcases htype with hstated | ⟨hblank, hdefault⟩
      · rw [header?_eq_some_iff.2 hstated, Option.getD_some]
      · rw [header?_eq_none_iff.2 hblank, hdefault]
        rfl
    rw [asserted, hstated, lists_iff.1 hgroups, ← hclaims]
  · rintro ⟨user, huser, rfl⟩
    refine ⟨header?_eq_some_iff.1 huser, ?_, _, lists_iff.2 rfl, rfl⟩
    cases htype : header? hs proxy.headers.authenticationType with
    | some type =>
      obtain ⟨text, hread, hne, rfl⟩ := header?_eq_some_iff.1 htype
      refine Or.inl ⟨text, hread, hne, ?_⟩
      rw [asserted, htype, Option.getD_some]
    | none =>
      refine Or.inr ⟨header?_eq_none_iff.1 htype, ?_⟩
      rw [asserted, htype]
      rfl

/-- **Whoever is asserted has a name and an authentication type.** -/
theorem Asserts.isNameless (h : proxy.Asserts hs p) : p.isNameless = false := by
  obtain ⟨text, -, hne, hname⟩ := h.name
  have htype : p.authenticationType ≠ "" := by
    rcases h.authenticationType with ⟨type, -, hne, htype⟩ | ⟨-, htype⟩
    · rw [htype]
      exact hne
    · rw [htype]
      decide
  rw [← Bool.not_eq_true, Principal.isNameless_iff, hname, trim_trim, not_or]
  exact ⟨hne, htype⟩

/-- The groups of whom headers assert are those that they list. -/
theorem Asserts.lists_values (h : proxy.Asserts hs p) :
    Lists hs proxy.headers.groups (p.claims.values Kind.group) := by
  obtain ⟨groups, hgroups, hclaims⟩ := h.claims
  have hname : ClaimSet.values [⟨Kind.name, p.name⟩] Kind.group = [] := rfl
  have hvalues : p.claims.values Kind.group = groups := by
    rw [hclaims, ← List.singleton_append, ClaimSet.values_append, hname, List.nil_append,
      ClaimSet.values_map_mk]
  rw [hvalues]
  exact hgroups

/-! ## Verified principals -/

/-- **Whom a trusted proxy asserts is verified, and nobody else.** -/
theorem authenticate_eq_some_iff (hpeer : r.peer = some a) (htrusted : proxy.trusts a = true) :
    (proxy.authenticate r).value = .ok (some p) ↔ proxy.Asserts r.headers p := by
  have hany : r.peer.any proxy.trusts = true := by
    rw [hpeer]
    exact htrusted
  rw [asserts_iff, authenticate]
  cases header? r.headers proxy.headers.user with
  | none => simp
  | some user =>
    dsimp only
    rw [if_pos hany]
    simp

/-- **When nobody is verified**: when the first value of the user's header does not read as a text,
or as a blank one. -/
theorem authenticate_eq_none_iff (hpeer : r.peer = some a) (htrusted : proxy.trusts a = true) :
    (proxy.authenticate r).value = .ok none
      ↔ ∀ text, r.headers.Reads proxy.headers.user text → trim text = "" := by
  have hany : r.peer.any proxy.trusts = true := by
    rw [hpeer]
    exact htrusted
  rw [← header?_eq_none_iff, authenticate]
  cases header? r.headers proxy.headers.user with
  | none => simp
  | some user =>
    dsimp only
    rw [if_pos hany]
    simp

/-- **Every principal that a trusted proxy asserts is well formed and is issued tokens.**  Take any
request from a trusted address.  Somebody is verified when the first value of the user's header
reads as a text that is not blank, and nobody otherwise.  Whoever is verified is the one that the
headers assert, with an authentication type that is not empty and groups without blanks around
them or commas in them, and every policy whose reserved claim may have its name issues a token to
them at every instant. -/
theorem asserted_issuable (hpeer : r.peer = some a) (htrusted : proxy.trusts a = true) :
    ((∃ p, (proxy.authenticate r).value = .ok (some p))
        ↔ ∃ text, r.headers.Reads proxy.headers.user text ∧ trim text ≠ "")
      ∧ ((¬ ∃ p, (proxy.authenticate r).value = .ok (some p)) →
        (proxy.authenticate r).value = .ok none)
      ∧ ∀ p, (proxy.authenticate r).value = .ok (some p) →
        proxy.Asserts r.headers p
        ∧ p.authenticationType ≠ ""
        ∧ (∀ group ∈ p.claims.values Kind.group,
          group ≠ "" ∧ trim group = group ∧ ',' ∉ group.toList)
        ∧ ∀ (policy : Policy) (now : Int64),
          reservedClaimFault? policy.authenticationTypeClaim = none →
            ∃ token, policy.issue p now = .ok token := by
  have hverified : (∃ p, (proxy.authenticate r).value = .ok (some p))
      ↔ ∃ text, r.headers.Reads proxy.headers.user text ∧ trim text ≠ "" := by
    constructor
    · rintro ⟨p, hp⟩
      obtain ⟨text, hread, hne, -⟩ := ((authenticate_eq_some_iff hpeer htrusted).1 hp).name
      exact ⟨text, hread, hne⟩
    · rintro ⟨text, hread, hne⟩
      refine ⟨_, (authenticate_eq_some_iff hpeer htrusted).2 (asserts_iff.2
        ⟨trim text, header?_eq_some_iff.2 ⟨text, hread, hne, rfl⟩, rfl⟩)⟩
  refine ⟨hverified, ?_, ?_⟩
  · intro hnobody
    rw [authenticate_eq_none_iff hpeer htrusted]
    intro text hread
    by_contra hne
    exact hnobody (hverified.2 ⟨text, hread, hne⟩)
  · intro p hp
    have hasserts := (authenticate_eq_some_iff hpeer htrusted).1 hp
    have hnamed := hasserts.isNameless
    refine ⟨hasserts, ?_, ?_, ?_⟩
    · intro hempty
      rw [Principal.isNameless_iff.2 (Or.inr hempty)] at hnamed
      exact absurd hnamed (by decide)
    · intro group hgroup
      exact hasserts.lists_values.group hgroup
    · intro policy now hfree
      exact Policy.exists_issue_iff.2 ⟨hnamed, hfree⟩

/-- A user with a domain who is in a group twice is verified without the blanks around the name, and
is issued a token at the last instant as at any other. -/
theorem asserted_issuable_assertion :
    ∃ p, (Routes.localProxy.authenticate Routes.assertion).value = .ok (some p)
      ∧ p.name = "CORP\\alice"
      ∧ p.authenticationType = "Negotiate"
      ∧ p.claims.values Kind.group = ["g1", "g2", "g1"]
      ∧ (∀ group ∈ p.claims.values Kind.group, ',' ∉ group.toList)
      ∧ ∃ token, Policy.usual.issue p Int64.maxValue = .ok token := by
  have hread : (Routes.localProxy.authenticate Routes.assertion).value.toOption
      = some (some ⟨"CORP\\alice", "Negotiate", [⟨Kind.name, "CORP\\alice"⟩, ⟨Kind.group, "g1"⟩,
          ⟨Kind.group, "g2"⟩, ⟨Kind.group, "g1"⟩]⟩) := by
    decide +kernel
  have hverified := toOption_eq_some_iff.1 hread
  have hpeer : Routes.assertion.peer = some (.v4 0x7F00 1) := rfl
  have htrusted : Routes.localProxy.trusts (.v4 0x7F00 1) = true := by decide
  obtain ⟨-, -, hasserted⟩ := asserted_issuable hpeer htrusted
  obtain ⟨-, -, hgroups, hissue⟩ := hasserted _ hverified
  exact ⟨_, hverified, rfl, rfl, rfl, fun group hgroup => (hgroups group hgroup).2.2,
    hissue Policy.usual Int64.maxValue (by decide)⟩

end Proxy

end BearerBridge
