/-
# The size of issued tokens

Who reads a token looks at its size before anything else; who issues one does not look at it at
all.  A token grows with the claims of its principal, so a principal in many groups is issued a
token that nobody reads.

* `length_values_le` : a payload is no smaller than the values that it carries;
* `size_of_issue` : how large an issued token is, and what its size decides;
* `size_of_issue_crowd` : a token that is issued and refused for its size.
-/
import BearerBridge.Client.Credential
import BearerBridge.Proofs.Shaping
import BearerBridge.Proofs.Token.Expiry
import Mathlib.Algebra.Order.BigOperators.Group.List
import Mathlib.Algebra.Order.Ring.Nat

namespace BearerBridge

/-! ## Written texts take their length -/

namespace Json

/-- In quotes every character is written with one character or more. -/
theorem length_le_quote (s : String) : s.toList.length ≤ (quote s).length := by
  have hchar : ∀ c, 1 ≤ (quoteChar c).length := by
    intro c
    unfold quoteChar
    repeat' split
    all_goals simp
  have hbody : s.toList.length ≤ (s.toList.flatMap quoteChar).length := by
    rw [List.length_flatMap, ← List.length_map (fun c => (quoteChar c).length)]
    apply List.length_le_sum_of_one_le
    intro n hn
    obtain ⟨c, -, rfl⟩ := List.mem_map.1 hn
    exact hchar c
  simp only [quote, List.cons_append, List.length_cons, List.length_append]
  omega

/-- Texts with commas between them take the characters of the texts. -/
theorem sum_length_le_commaSeparated (xs : List (List Char)) :
    (xs.map List.length).sum ≤ (commaSeparated xs).length := by
  induction xs with
  | nil => exact Nat.le_refl 0
  | cons x xs ih =>
    rw [List.map_cons, List.sum_cons]
    cases xs with
    | nil => simp [commaSeparated]
    | cons y ys =>
      rw [commaSeparated_cons_cons, List.length_append, List.length_cons]
      omega

/-- A member takes at least the characters of its value. -/
theorem length_chars_le_objectChars {ms : List (String × Value)} {m : String × Value}
    (h : m ∈ ms) : m.2.chars.length ≤ (objectChars ms).length := by
  have hmember : quote m.1 ++ ':' :: m.2.chars ∈ memberChars ms := by
    induction ms with
    | nil => exact absurd h List.not_mem_nil
    | cons m' ms ih =>
      rw [memberChars_cons]
      rcases List.mem_cons.1 h with rfl | h
      · exact List.mem_cons_self
      · exact List.mem_cons_of_mem _ (ih h)
  have hall := sum_length_le_commaSeparated (memberChars ms)
  have hone := List.le_sum_of_mem (List.mem_map_of_mem (f := List.length) hmember)
  simp only [List.length_append, List.length_cons, objectChars, List.cons_append] at hone ⊢
  omega

end Json

theorem ClaimSet.sum_length_le_wireValue (vs : List String) :
    (vs.map (·.toList.length)).sum ≤ (wireValue vs).chars.length := by
  unfold wireValue
  split
  · next v =>
    rw [List.map_singleton, List.sum_singleton]
    exact Json.length_le_quote v
  · have hquotes : (vs.map (·.toList.length)).sum ≤ (vs.map fun v => (Json.quote v).length).sum :=
      List.sum_le_sum fun v _ => Json.length_le_quote v
    have hitems := Json.sum_length_le_commaSeparated (vs.map Json.quote)
    have hchars : Json.itemChars (vs.map .text) = vs.map Json.quote := by
      rw [Json.itemChars_eq_map, List.map_map]
      rfl
    rw [List.map_map] at hitems
    simp only [Json.Value.chars, hchars, List.cons_append, List.length_cons, List.length_append]
    exact Nat.le_trans hquotes (Nat.le_trans hitems (by omega))

/-- **A payload is no smaller than the values that it carries.** -/
theorem TokenClaims.length_values_le (c : TokenClaims) (kind : String) :
    ((c.claims.values kind).map (·.toList.length)).sum ≤ (Utf8.encode c.chars).length := by
  by_cases hcount : c.claims.count kind = 0
  · rw [ClaimSet.count_eq_length_values, List.length_eq_zero_iff] at hcount
    rw [hcount]
    exact Nat.zero_le _
  · have hmem : (kind, ClaimSet.wireValue (c.claims.values kind))
        ∈ c.claims.members.filter (·.1 == kind) := by
      rw [ClaimSet.filter_members, if_neg hcount]
      exact List.mem_singleton.2 rfl
    have hmember := List.mem_append_right c.ownMembers (List.mem_filter.1 hmem).1
    calc ((c.claims.values kind).map (·.toList.length)).sum
        ≤ (ClaimSet.wireValue (c.claims.values kind)).chars.length :=
          ClaimSet.sum_length_le_wireValue _
      _ ≤ c.chars.length := Json.length_chars_le_objectChars hmember
      _ ≤ (Utf8.encode c.chars).length := Utf8.length_le_encode _

/-- The claims of a principal that travel make the payload large. -/
theorem Policy.length_values_le (policy : Policy) (p : Principal) (now : Int64) {kind : String}
    (h : Kind.isBridged kind = true) :
    ((p.claims.values kind).map (·.toList.length)).sum
      ≤ (Utf8.encode (policy.statedClaims p now).chars).length := by
  refine Nat.le_trans ?_ (TokenClaims.length_values_le _ kind)
  rw [statedClaims, ClaimSet.values_append, List.map_append, List.sum_append, Principal.outgoing,
    ClaimSet.values_keepKinds p.claims h]
  exact Nat.le_add_right ..

/-- So many claims of so many characters each make the payload that large. -/
theorem Policy.count_mul_le (policy : Policy) {p : Principal} (now : Int64) {kind : String}
    (h : Kind.isBridged kind = true) {k : Nat}
    (hk : ∀ v ∈ p.claims.values kind, k ≤ v.toList.length) :
    p.claims.count kind * k ≤ (Utf8.encode (policy.statedClaims p now).chars).length := by
  refine Nat.le_trans ?_ (policy.length_values_le p now h)
  have hsum := List.card_nsmul_le_sum ((p.claims.values kind).map (·.toList.length)) k (by
    intro n hn
    obtain ⟨v, hv, rfl⟩ := List.mem_map.1 hn
    exact hk v hv)
  rw [List.length_map, ← ClaimSet.count_eq_length_values] at hsum
  exact hsum

/-! ## What the size of a token decides -/

/-- A client that can split a token does not refuse it for its size. -/
theorem Credential.ofToken_of_split {token : String} {s : Segments}
    (hs : Segments.split token = .ok s) :
    ofToken token ≠ .error (.invalidToken FormatFault.tooLarge.message) := by
  have hfault : FormatFault.malformed.message ≠ FormatFault.tooLarge.message := by decide
  have hheader : "token is not a valid header value" ≠ FormatFault.tooLarge.message := by decide
  rw [ofToken, Token.expiry_of_split hs]
  cases (segmentBytes? s.payload).bind TokenClaims.readExpiry? with
  | none => simpa using hfault
  | some t =>
    dsimp only
    split
    · simp
    · simpa using hheader

theorem Credential.ofToken_of_not_split {token : String} {why : FormatFault}
    (hs : Segments.split token = .error why) :
    ofToken token = .error (.invalidToken why.message) := by
  have hexpiry : Token.expiry token = .error why := by
    rw [Token.expiry, hs]
    rfl
  rw [ofToken, hexpiry]

namespace Issuer

variable {issuer : Issuer} {p : Principal} {now : Int64} {micros : Nat} {token : String}

/-- **How large an issued token is, and what its size decides.**  Its size is that of the claims
that left the last hook, written as a payload, and of a frame.  Up to the limit neither the bridge
nor a client refuses the token for its size: the bridge goes by the claims.  Beyond the limit both
refuse it, the bridge at every instant, and issuance does nothing against that. -/
theorem size_of_issue (hissue : (issuer.issue p now micros).value = .ok token) :
    ∃ c, issuer.shapedClaims p now = .ok c
      ∧ (Utf8.ofString token).length
        = (4 * (Utf8.encode c.chars).length + 2) / 3 + issuer.policy.frameBytes
      ∧ ((Utf8.ofString token).length ≤ maxTokenBytes →
        Segments.split token = .ok (issuer.policy.segments c)
        ∧ (∀ t, issuer.policy.identify token t
          = if c.Unambiguous then issuer.policy.accept c.absorbed t else .error .malformed)
        ∧ Credential.ofToken token ≠ .error (.invalidToken FormatFault.tooLarge.message))
      ∧ (maxTokenBytes < (Utf8.ofString token).length →
        Segments.split token = .error .tooLarge
        ∧ (∀ t, issuer.policy.identify token t = .error .malformed)
        ∧ Credential.ofToken token = .error (.invalidToken FormatFault.tooLarge.message)) := by
  obtain ⟨c, hshaped, -, rfl⟩ := value_issue_eq_ok_iff.1 hissue
  refine ⟨c, hshaped, issuer.policy.length_encode c, fun hsize => ?_, fun hsize => ?_⟩
  · have hsplit : Segments.split (issuer.policy.encode c) = .ok (issuer.policy.segments c) :=
      Segments.split_eq_ok_iff.2 ⟨Policy.wellFormed_segments, Policy.encode_eq_text, hsize⟩
    refine ⟨hsplit, fun t => ?_, Credential.ofToken_of_split hsplit⟩
    rw [Policy.identify_encode]
    simp only [hsize, true_and]
  · have hsplit := Segments.split_of_large hsize
    exact ⟨hsplit, Policy.identify_of_not_split hsplit, Credential.ofToken_of_not_split hsplit⟩

/-- A token that is far from the limit. -/
theorem size_of_issue_usurper :
    ∃ token, (usurper.issue (Fixture.principal "BRIDGE\\alice") 1000 0).value = .ok token
      ∧ (Utf8.ofString token).length = 235
      ∧ Segments.split token = .ok (usurper.policy.segments usurped) := by
  obtain ⟨c, hshaped, -, hsmall, -⟩ := size_of_issue issue_usurper
  obtain rfl : usurped = c := Except.ok.inj (shapedClaims_usurper.symm.trans hshaped)
  refine ⟨_, issue_usurper, length_encode_usurped, (hsmall ?_).1⟩
  rw [length_encode_usurped]
  decide

/-- A principal who is a member of a thousand teams. -/
def crowd : Principal :=
  Fixture.addGroups ((List.range 1000).map fun n => "Engineering team " ++ toString n)
    (Fixture.principal "BRIDGE\\alice")

theorem values_crowd : crowd.claims.values Kind.group
    = (List.range 1000).map fun n => "Engineering team " ++ toString n := by
  have hfirst : (Fixture.principal "BRIDGE\\alice").claims.values Kind.group = [] := by decide
  rw [crowd, Fixture.addGroups, ClaimSet.values_append, hfirst, List.nil_append,
    ClaimSet.values_map_mk]

/-- **A token that is issued and that everybody refuses for its size.** -/
theorem size_of_issue_crowd :
    ∃ token, ((Issuer.mk Policy.usual []).issue crowd 1000 0).value = .ok token
      ∧ maxTokenBytes < (Utf8.ofString token).length
      ∧ (∀ t, Policy.usual.identify token t = .error .malformed)
      ∧ Credential.ofToken token = .error (.invalidToken FormatFault.tooLarge.message) := by
  have hissue : ((Issuer.mk Policy.usual []).issue crowd 1000 0).value
      = .ok (Policy.usual.encode (Policy.usual.statedClaims crowd 1000)) := by
    rw [value_issue_of_no_hooks]
    exact Policy.issue_eq_ok_iff.2 ⟨by decide, by decide, rfl⟩
  have htravel : Kind.isBridged Kind.group = true := by decide
  -- the name of each team takes the 17 characters that all of them begin with, and its number
  have hpayload : 1000 * 17
      ≤ (Utf8.encode (Policy.usual.statedClaims crowd 1000).chars).length := by
    have hmembers := Policy.usual.count_mul_le (p := crowd) 1000 htravel (k := 17) (by
      intro v hv
      rw [values_crowd, List.mem_map] at hv
      obtain ⟨n, -, rfl⟩ := hv
      simp [String.toList_append])
    rwa [ClaimSet.count_eq_length_values, values_crowd, List.length_map, List.length_range]
      at hmembers
  have hlarge : maxTokenBytes < (Utf8.ofString
      (Policy.usual.encode (Policy.usual.statedClaims crowd 1000))).length := by
    rw [Policy.length_encode, maxTokenBytes]
    omega
  have hsplit := Segments.split_of_large hlarge
  exact ⟨_, hissue, hlarge, Policy.identify_of_not_split hsplit,
    Credential.ofToken_of_not_split hsplit⟩

end Issuer

end BearerBridge
