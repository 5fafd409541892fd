/-
# Expectations are faithful

A test reads the payload of a token as any JSON value, by a reader of its own beside the two that
the bridge has.  It sees what was written nevertheless: members are sorted there, but each name is
written once, so the last member of a name is the only one, and a claim is found in it whether it
stands alone or among others.  So an expectation is met exactly when the claims are as expected,
and exactly one of the expectations about signatures is met.

* `Json.find?_sortMembers` : which member of a name counts;
* `TokenClaims.member?_payload`, `TokenClaims.member_payload_own` : the members of a payload;
* `Expectation.checkPayload_claim_iff` and the like : what is expected of it;
* `Expectation.checkHeader_signed_iff`, `Expectation.checkHeader_unsecured_iff` : what is expected of
  header and signature;
* `Expectation.check_faithful` : all of it, for every token that is made from claims.
-/
import BearerBridge.Proofs.Outcome
import BearerBridge.Proofs.Token.Decoding
import BearerBridge.Testing.Expectation
import Mathlib.Data.List.Induction

namespace BearerBridge

/-! ## Sorted members -/

namespace Json

theorem find?_insertMember (name : String) (v : Value) (ms : List (String × Value))
    (wanted : String) :
    (insertMember name v ms).find? (·.1 == wanted)
      = if name = wanted then some (name, v) else ms.find? (·.1 == wanted) := by
  induction ms with
  | nil => by_cases h : name = wanted <;> simp [insertMember, h]
  | cons m ms ih =>
    obtain ⟨n, w⟩ := m
    rw [insertMember]
    split
    · next hsame => by_cases h : name = wanted <;> simp [h, ← hsame]
    · next hother =>
      split
      · by_cases h : name = wanted <;> simp [h]
      · rw [List.find?_cons, ih, List.find?_cons]
        -- a member found before the place of the new one has another name
        by_cases hn : n = wanted
        · have h : name ≠ wanted := fun h => hother (h.trans hn.symm)
          simp [hn, h]
        · have hn' : (n == wanted) = false := beq_false_of_ne hn
          simp [hn']

/-- **The last member of a name counts** among sorted members. -/
theorem find?_sortMembers (ms : List (String × Value)) (wanted : String) :
    (sortMembers ms).find? (·.1 == wanted) = (ms.filter (·.1 == wanted)).getLast? := by
  induction ms using List.reverseRecOn with
  | nil => rfl
  | append_singleton ms m ih =>
    obtain ⟨n, w⟩ := m
    rw [sortMembers] at ih ⊢
    rw [List.foldl_concat, find?_insertMember, ih, List.filter_append]
    by_cases h : n = wanted <;> simp [h]

/-- An object of plain values is read with its members sorted. -/
theorem value_read?_objectChars {ms : List (String × Value)} (h : ∀ m ∈ ms, m.2.IsPlain) :
    Value.read? (Utf8.encode (objectChars ms)) = some (.object (sortMembers ms)) := by
  obtain ⟨ts, hread, hvalues⟩ := read?_objectChars h
  rw [Value.read?, hread, Option.bind_some, Tree.value?, if_neg (by decide), hvalues,
    Option.map_some]

theorem member?_sortMembers (ms : List (String × Value)) (name : String) :
    (Value.object (sortMembers ms)).member? name
      = ((ms.filter (·.1 == name)).getLast?).map (·.2) := by
  rw [Value.member?, find?_sortMembers]

/-- An instant is read as the integer that it is. -/
theorem int64?_instant (n : Int64) : (TokenClaims.instant n).int64? = some n := by
  rw [TokenClaims.instant, Value.int64?, if_pos ⟨n.minValue_le_toInt, n.toInt_le⟩]
  exact congrArg some (Int64.ofInt_toInt n)

end Json

/-! ## The payload of a token -/

namespace TokenClaims

variable {c : TokenClaims}

/-- The value that a payload is read as. -/
def payload (c : TokenClaims) : Json.Value :=
  .object (Json.sortMembers (c.ownMembers ++ c.claims.members))

theorem read?_payload (c : TokenClaims) :
    Json.Value.read? (Utf8.encode c.chars) = some c.payload :=
  Json.value_read?_objectChars fun _ => isPlain_of_mem_written

/-- A name that is none of the token's own has the values of the claims of that kind. -/
theorem member?_payload {kind : String} (hkind : kind ∉ ownNames) :
    c.payload.member? kind
      = if c.claims.count kind = 0 then none
        else some (ClaimSet.wireValue (c.claims.values kind)) := by
  have hown : c.ownMembers.filter (·.1 == kind) = [] := by
    rw [List.filter_eq_nil_iff]
    intro m hm he
    exact hkind (eq_of_beq he ▸ mem_ownNames_of_mem_ownMembers hm)
  rw [payload, Json.member?_sortMembers, List.filter_append, hown, List.nil_append,
    ClaimSet.filter_members]
  split <;> rfl

/-- One of the token's own names has its value, when no claim is of that kind. -/
theorem member_payload_own {name : String} {v : Json.Value} (hname : name ∈ ownNames)
    (h : c.ownMembers.filter (·.1 == name) = [(name, v)])
    (hclaims : ∀ x ∈ c.claims, x.kind ∉ ownNames) : c.payload.member name = v := by
  have hcount : c.claims.count name = 0 :=
    ClaimSet.count_eq_zero_iff.2 fun x hx he => hclaims x hx (he ▸ hname)
  rw [Json.Value.member, payload, Json.member?_sortMembers, List.filter_append, h,
    ClaimSet.filter_members, if_pos hcount]
  rfl

end TokenClaims

/-! ## What is expected of the payload -/

theorem ClaimSet.mem_iff_mem_values {cs : ClaimSet} {kind value : String} :
    ⟨kind, value⟩ ∈ cs ↔ value ∈ cs.values kind := by
  rw [values, List.mem_map]
  constructor
  · exact fun h => ⟨_, List.mem_filter.2 ⟨h, beq_self_eq_true kind⟩, rfl⟩
  · rintro ⟨c, hc, rfl⟩
    obtain ⟨hmem, hkind⟩ := List.mem_filter.1 hc
    rwa [← eq_of_beq hkind]

theorem ClaimSet.wireValue_of_many (v w : String) (vs : List String) :
    wireValue (v :: w :: vs) = .array ((v :: w :: vs).map .text) :=
  rfl

theorem Json.any_isText_iff {vs : List String} {value : String} :
    (vs.map Value.text).any (·.isText value) = true ↔ value ∈ vs := by
  simp [Value.isText]

namespace Expectation

variable {c : TokenClaims} {kind value : String}

/-- **A claim is found** in the payload when it is among the claims, alone of its kind or not. -/
theorem checkPayload_claim_iff (hkind : kind ∉ TokenClaims.ownNames) :
    checkPayload c.payload (.claim kind value) = .ok () ↔ ⟨kind, value⟩ ∈ c.claims := by
  rw [ClaimSet.mem_iff_mem_values, checkPayload, Json.Value.member,
    TokenClaims.member?_payload hkind, ClaimSet.count_eq_length_values]
  match c.claims.values kind with
  | [] => simp
  | [v] => simp [ClaimSet.wireValue, eq_comm]
  | v :: w :: vs =>
    rw [if_neg (by simp), Option.getD_some, ClaimSet.wireValue_of_many]
    exact ite_eq_ok_iff.trans Json.any_isText_iff

/-- **No claim is found** when there is none of the kind. -/
theorem checkPayload_noClaim_iff (hkind : kind ∉ TokenClaims.ownNames) :
    checkPayload c.payload (.noClaim kind) = .ok () ↔ ∀ x ∈ c.claims, x.kind ≠ kind := by
  rw [← ClaimSet.count_eq_zero_iff, checkPayload, TokenClaims.member?_payload hkind]
  split
  · next hcount => simp [hcount]
  · next hcount => simp [hcount]

variable (hclaims : ∀ x ∈ c.claims, x.kind ∉ TokenClaims.ownNames)

include hclaims

/-- **The subject is found.** -/
theorem checkPayload_subject_iff {name : String} :
    checkPayload c.payload (.subject name) = .ok () ↔ name = c.subject := by
  obtain ⟨-, -, hsub, -⟩ := c.filter_ownMembers
  rw [checkPayload, TokenClaims.member_payload_own (by decide) hsub hclaims]
  exact ite_eq_ok_iff.trans (by rw [Json.Value.isText, beq_iff_eq, eq_comm])

/-- **The life of the token is found**, when it is a number of 64 bits. -/
theorem checkPayload_lifetime_iff {seconds : Int64}
    (hmin : Int64.minValue.toInt ≤ c.expiry.toInt - c.issuedAt.toInt)
    (hmax : c.expiry.toInt - c.issuedAt.toInt ≤ Int64.maxValue.toInt) :
    checkPayload c.payload (.lifetime seconds) = .ok ()
      ↔ seconds.toInt = c.expiry.toInt - c.issuedAt.toInt := by
  obtain ⟨-, -, -, -, hiat, hexp⟩ := c.filter_ownMembers
  have hlife : lifetimeOf c.payload = .ok (Int64.ofInt (c.expiry.toInt - c.issuedAt.toInt)) := by
    rw [lifetimeOf, TokenClaims.member_payload_own (by decide) hexp hclaims,
      TokenClaims.member_payload_own (by decide) hiat hclaims, Json.int64?_instant,
      Json.int64?_instant]
    exact if_neg (not_or.2 ⟨Int.not_lt.2 hmin, Int.not_lt.2 hmax⟩)
  rw [checkPayload, hlife]
  refine Iff.trans (ite_eq_ok_iff (e := Mismatch.otherLifetime _ seconds)) ?_
  constructor
  · rintro rfl
    exact Int64.toInt_ofInt_of_le hmin (Int.lt_add_one_of_le hmax)
  · intro h
    rw [← h, Int64.ofInt_toInt]

end Expectation

/-! ## What is expected of header and signature -/

namespace Expectation

variable {s : Segments} {header : Json.Value} {named : String}

/-- A signature is found when the algorithm is named like one and the last segment is there. -/
theorem checkHeader_signed_iff (hheader : segmentValue s.header = .ok header)
    (hnamed : header.member "alg" = .text named) :
    checkHeader s .signed = .ok ()
      ↔ "HS".toList.isPrefixOf named.toList = true ∧ s.signature ≠ "" := by
  have halgorithm : (header.member "alg").textD = named := by
    rw [hnamed]
    rfl
  rw [checkHeader, hheader, ← halgorithm]
  refine unless_eq_ok_iff.trans (and_congr_right fun _ => ?_)
  split
  · next hempty => exact iff_of_false (fun he => nomatch he) (fun hne => hne hempty)
  · next hne => exact iff_of_true rfl hne

/-- None is expected when the algorithm is called `none` and the last segment is empty. -/
theorem checkHeader_unsecured_iff (hheader : segmentValue s.header = .ok header)
    (hnamed : header.member "alg" = .text named) :
    checkHeader s .unsecured = .ok () ↔ named = "none" ∧ s.signature = "" := by
  rw [checkHeader, hheader]
  have halgorithm : (header.member "alg").isText "none" = true ↔ named = "none" := by
    rw [hnamed, Json.Value.isText, beq_iff_eq]
  rw [← halgorithm]
  exact unless_eq_ok_iff.trans (and_congr_right fun _ => ite_eq_ok_iff)

end Expectation

/-! ## Tokens made from claims -/

/-- A token that is made from claims, signed or not. -/
inductive Token.IsMadeFrom (c : TokenClaims) : Bool → String → Prop
  | signed (key : List UInt8) (algorithm : SigningAlgorithm) :
      IsMadeFrom c true (Token.sign c key algorithm)
  | unsecured : IsMadeFrom c false (Token.writeUnsecured c)

namespace Expectation

/-- Segments without dots are found as they were joined, whatever their size. -/
theorem segments_text {s : Segments} (h : s.WellFormed) : segments s.text = .ok s := by
  rw [segments, Segments.toList_text, splitAll_append _ h.header_no_dot,
    splitAll_append _ h.payload_no_dot, splitAll_of_not_mem h.signature_no_dot]
  simp only [String.ofList_toList]

theorem segmentValue_segmentOf {cs : List Char} {v : Json.Value}
    (h : Json.Value.read? (Utf8.encode cs) = some v) : segmentValue (segmentOf cs) = .ok v := by
  rw [segmentValue, segmentOf, segmentBytes?_text]
  dsimp only
  rw [h]

/-- A header is read with the algorithm that it was written with. -/
theorem exists_segmentValue_header (ms : List (String × Json.Value)) (named : String)
    (hplain : ∀ m ∈ ms, m.2.IsPlain)
    (hnamed : ms.filter (·.1 == "alg") = [("alg", .text named)]) :
    ∃ header, segmentValue (segmentOf (Json.objectChars ms)) = .ok header
      ∧ header.member "alg" = .text named := by
  refine ⟨_, segmentValue_segmentOf (Json.value_read?_objectChars hplain), ?_⟩
  rw [Json.Value.member, Json.member?_sortMembers, hnamed]
  rfl

variable {c : TokenClaims} {isSigned : Bool} {token : String}

/-- Segments in which claims are found, and a signature if there should be one. -/
structure Shows (c : TokenClaims) (isSigned : Bool) (s : Segments) : Prop where
  payload : segmentValue s.payload = .ok c.payload
  signed_iff : checkHeader s .signed = .ok () ↔ isSigned = true
  unsecured_iff : checkHeader s .unsecured = .ok () ↔ isSigned = false

/-- No signature is empty. -/
theorem signature_ne_empty (algorithm : SigningAlgorithm) (key : List UInt8) (text : String) :
    Token.signature algorithm key text ≠ "" := by
  intro hempty
  have hpos : 0 < (4 * algorithm.hash.digestBytes + 2) / 3 := by
    cases algorithm <;> decide
  rw [← Token.length_signature algorithm key text, hempty] at hpos
  exact absurd hpos (by decide)

/-- A signed token names an algorithm with a key and ends in a signature. -/
theorem shows_signedSegments (c : TokenClaims) (key : List UInt8) (algorithm : SigningAlgorithm) :
    Shows c true (Token.signedSegments c key algorithm) := by
  obtain ⟨header, hread, hnamed⟩ := exists_segmentValue_header
    [("typ", .text "JWT"), ("alg", .text algorithm.name)] algorithm.name Json.isPlain_of_mem_texts rfl
  have hheader : segmentValue (Token.signedSegments c key algorithm).header = .ok header := by
    rw [Token.signedSegments, JoseHeader.chars]
    exact hread
  have hname : "HS".toList.isPrefixOf algorithm.name.toList = true
      ∧ algorithm.name ≠ "none" := by
    cases algorithm <;> decide
  refine ⟨segmentValue_segmentOf c.read?_payload, ?_, ?_⟩
  · rw [checkHeader_signed_iff hheader hnamed]
    exact iff_of_true ⟨hname.1, signature_ne_empty _ _ _⟩ rfl
  · rw [checkHeader_unsecured_iff hheader hnamed]
    exact iff_of_false (fun h => hname.2 h.1) Bool.noConfusion

/-- An unsecured token names none and ends with a dot. -/
theorem shows_unsecuredSegments (c : TokenClaims) :
    Shows c false (Token.unsecuredSegments c) := by
  obtain ⟨header, hread, hnamed⟩ := exists_segmentValue_header
    [("alg", .text Header.unsecured), ("typ", .text "JWT")] Header.unsecured
    Json.isPlain_of_mem_texts rfl
  have hheader : segmentValue (Token.unsecuredSegments c).header = .ok header := by
    rw [Token.unsecuredSegments, Header.unsecuredChars]
    exact hread
  have hname : "HS".toList.isPrefixOf Header.unsecured.toList = false := by decide
  have hsignature : (Token.unsecuredSegments c).signature = "" := rfl
  refine ⟨segmentValue_segmentOf c.read?_payload, ?_, ?_⟩
  · rw [checkHeader_signed_iff hheader hnamed, hname]
    simp
  · rw [checkHeader_unsecured_iff hheader hnamed]
    exact iff_of_true ⟨rfl, hsignature⟩ rfl

theorem exists_segments_of_isMadeFrom (h : Token.IsMadeFrom c isSigned token) :
    ∃ s, segments token = .ok s ∧ Shows c isSigned s := by
  cases h with
  | signed key algorithm =>
    exact ⟨_, segments_text (Token.wellFormed_signedSegments c key algorithm),
      shows_signedSegments c key algorithm⟩
  | unsecured =>
    exact ⟨_, segments_text (Token.wellFormed_unsecuredSegments c), shows_unsecuredSegments c⟩

/-- **Expectations are faithful.**  Take claims none of which has the name of one of the token's own
members, and whose life is a number of 64 bits, and any token that is made from them, under whatever
key or under none.  A claim is found there exactly when it is among the claims, and none of a kind
exactly when there is none; subject and life are the ones of the claims; and the token is found
signed or unsecured as it was made, and not both. -/
theorem check_faithful (hclaims : ∀ x ∈ c.claims, x.kind ∉ TokenClaims.ownNames)
    (hmin : Int64.minValue.toInt ≤ c.expiry.toInt - c.issuedAt.toInt)
    (hmax : c.expiry.toInt - c.issuedAt.toInt ≤ Int64.maxValue.toInt)
    (hmade : Token.IsMadeFrom c isSigned token) :
    (∀ kind ∉ TokenClaims.ownNames,
        (∀ value, (claim kind value).check token = .ok () ↔ ⟨kind, value⟩ ∈ c.claims)
        ∧ ((noClaim kind).check token = .ok () ↔ ∀ x ∈ c.claims, x.kind ≠ kind))
      ∧ (∀ name, (subject name).check token = .ok () ↔ name = c.subject)
      ∧ (∀ seconds, (lifetime seconds).check token = .ok ()
        ↔ seconds.toInt = c.expiry.toInt - c.issuedAt.toInt)
      ∧ (signed.check token = .ok () ↔ isSigned = true)
      ∧ (unsecured.check token = .ok () ↔ isSigned = false) := by
  obtain ⟨s, hsegments, hshows⟩ := exists_segments_of_isMadeFrom hmade
  have hheader : ∀ expected : Expectation, expected.isOfHeader = true →
      expected.check token = checkHeader s expected := by
    intro expected hof
    rw [check, hsegments]
    exact if_pos hof
  have hpayload : ∀ expected : Expectation, expected.isOfHeader = false →
      expected.check token = checkPayload c.payload expected := by
    intro expected hof
    have hread : (segmentValue s.payload >>= (checkPayload · expected))
        = checkPayload c.payload expected := by
      rw [hshows.payload]
      rfl
    rw [check, hsegments, ← hread]
    exact if_neg (by rw [hof]; decide)
  refine ⟨fun kind hkind => ⟨fun value => ?_, ?_⟩, fun name => ?_, fun seconds => ?_, ?_, ?_⟩
  · rw [hpayload _ rfl, checkPayload_claim_iff hkind]
  · rw [hpayload _ rfl, checkPayload_noClaim_iff hkind]
  · rw [hpayload _ rfl, checkPayload_subject_iff hclaims]
  · rw [hpayload _ rfl, checkPayload_lifetime_iff hclaims hmin hmax]
  · rw [hheader _ rfl, hshows.signed_iff]
  · rw [hheader _ rfl, hshows.unsecured_iff]

/-- What is found in the interleaved claims: the empty group among the others, a life as long as can
be, and a signature just where there is one. -/
theorem check_faithful_interleaved :
    (claim "group" "").check (Token.writeUnsecured Token.interleaved) = .ok ()
      ∧ (claim "group" "g2").check (Token.writeUnsecured Token.interleaved) ≠ .ok ()
      ∧ (noClaim "name").check (Token.writeUnsecured Token.interleaved) = .ok ()
      ∧ (noClaim "jti").check (Token.writeUnsecured Token.interleaved) ≠ .ok ()
      ∧ (subject "Ünïcode\n").check (Token.writeUnsecured Token.interleaved) = .ok ()
      ∧ (lifetime Int64.maxValue).check (Token.writeUnsecured Token.interleaved) = .ok ()
      ∧ signed.check (Token.writeUnsecured Token.interleaved) ≠ .ok ()
      ∧ signed.check (Token.sign Token.interleaved (Fixture.key 1) .hs512) = .ok ()
      ∧ unsecured.check (Token.sign Token.interleaved (Fixture.key 1) .hs512) ≠ .ok () := by
  have hclaims : ∀ x ∈ Token.interleaved.claims, x.kind ∉ TokenClaims.ownNames := by decide
  have hmin : Int64.minValue.toInt
      ≤ Token.interleaved.expiry.toInt - Token.interleaved.issuedAt.toInt := by decide
  have hmax : Token.interleaved.expiry.toInt - Token.interleaved.issuedAt.toInt
      ≤ Int64.maxValue.toInt := by decide
  obtain ⟨hkinds, hsubject, hlifetime, hsigned, -⟩ :=
    check_faithful hclaims hmin hmax Token.IsMadeFrom.unsecured
  obtain ⟨-, -, -, hsigned', hunsecured'⟩ :=
    check_faithful hclaims hmin hmax (Token.IsMadeFrom.signed (Fixture.key 1) .hs512)
  obtain ⟨hgroup, -⟩ := hkinds "group" (by decide)
  refine ⟨(hgroup _).2 (by decide), fun h => absurd ((hgroup _).1 h) (by decide),
    (hkinds "name" (by decide)).2.2 (by decide),
    fun h => absurd ((hkinds "jti" (by decide)).2.1 h) (by decide), (hsubject _).2 rfl,
    (hlifetime _).2 (by decide), fun h => absurd (hsigned.1 h) (by decide), hsigned'.2 rfl,
    fun h => absurd (hunsecured'.1 h) (by decide)⟩

end Expectation

end BearerBridge
