/-
# No confusion of algorithms

Under a key a header is read twice: by the loose reader, when the policy looks at the algorithm,
and by the strict one, when the signature is checked.  The two accept different headers, but where
both accept one they find the same algorithm in it.  So once the policy is content with the
algorithm, the verifier has no other one to object to, and what it calls an invalid signature is
one.

* `JoseHeader.mem_algorithms_of_read?` : the strict reader finds the names it knows only;
* `Token.verify_eq_signatureInvalid_iff` : the two reasons for an invalid signature;
* `Token.not_namesOther` : a verifier finds no other algorithm than the loose reader;
* `Policy.algorithms_agree` : no header misleads the policy and the verifier about each other.
-/
import BearerBridge.Proofs.Acceptance

namespace BearerBridge

/-! ## The names of algorithms -/

theorem Json.Tree.mem_of_word? {words : List String} {t : Json.Tree} {w : String}
    (h : t.word? words = some w) : w ∈ words := by
  unfold word? at h
  split at h
  · exact List.contains_iff_mem.1 (Option.filter_eq_some_iff.1 h).2
  · exact List.contains_iff_mem.1 (Option.filter_eq_some_iff.1 h).2
  · exact absurd h (by simp)

/-- **The strict reader finds the names it knows only.** -/
theorem JoseHeader.mem_algorithms_of_read? {bs : List UInt8} {named : String}
    (h : read? bs = some named) : named ∈ algorithms := by
  rw [read?, Option.bind_eq_some_iff] at h
  obtain ⟨t, -, h⟩ := h
  rw [algorithm?] at h
  split at h
  · split at h
    · exact Json.Tree.mem_of_word? h
    · exact absurd h (by simp)
  · exact absurd h (by simp)

/-! ## Why a signature is invalid -/

namespace Token

/-- The verifier finds another algorithm in the header than the one it is told. -/
def NamesOther (token : String) (a : SigningAlgorithm) : Prop :=
  ∃ s named, Segments.splitLast? token = some s
    ∧ (segmentBytes? s.header).bind JoseHeader.read? = some named ∧ named ≠ a.name

/-- The verifier finds the algorithm that it is told, and another signature than the right one. -/
def WronglySigned (token : String) (key : List UInt8) (a : SigningAlgorithm) : Prop :=
  ∃ s, Segments.splitLast? token = some s
    ∧ (segmentBytes? s.header).bind JoseHeader.read? = some a.name
    ∧ s.signature ≠ signature a key s.signedText

variable {token : String} {key : List UInt8} {a : SigningAlgorithm}

/-- **The two reasons for an invalid signature.** -/
theorem verify_eq_signatureInvalid_iff :
    verify token key a = .error .signatureInvalid
      ↔ NamesOther token a ∨ WronglySigned token key a := by
  rw [verify, NamesOther, WronglySigned]
  cases hs : Segments.splitLast? token with
  | none => simp
  | some s =>
    cases hnamed : (segmentBytes? s.header).bind JoseHeader.read? with
    | none => simp [hnamed]
    | some named =>
      by_cases hother : named = a.name
      · by_cases hsig : s.signature = signature a key s.signedText
        · -- nothing is wrong with the signature, so only the payload can be
          simp only [hsig, ne_eq, not_true_eq_false, if_false]
          cases (segmentBytes? s.payload).bind TokenClaims.read? <;> simp_all
        · simp [hnamed, hother, hsig]
      · simp [hnamed, hother]

theorem header_eq_ok_iff {h : Header} :
    header token = .ok h
      ↔ ∃ s, Segments.split token = .ok s
        ∧ (segmentBytes? s.header).bind Header.read? = some h := by
  cases hs : Segments.split token with
  | error why =>
    rw [header, hs]
    simp [bind, Except.bind]
  | ok s =>
    rw [header_of_split hs]
    cases hread : (segmentBytes? s.header).bind Header.read? <;> simp [hread]

end Token

/-- Where both readers accept a header segment, they find the same algorithm in it. -/
theorem Header.algorithm_eq_of_segment {segment named : String} {h : Header}
    (hloose : (segmentBytes? segment).bind read? = some h)
    (hstrict : (segmentBytes? segment).bind JoseHeader.read? = some named) :
    h.algorithm = named := by
  obtain ⟨bytes, hbytes, hread⟩ := Option.bind_eq_some_iff.1 hloose
  rw [hbytes, Option.bind_some] at hstrict
  exact algorithm_eq hread hstrict

/-- **A verifier finds no other algorithm than the loose reader.** -/
theorem Token.not_namesOther {token : String} {h : Header} {a : SigningAlgorithm}
    (hheader : header token = .ok h) (hname : h.algorithm = a.name) : ¬ NamesOther token a := by
  rintro ⟨s, named, hs, hstrict, hother⟩
  obtain ⟨s', hsplit, hloose⟩ := header_eq_ok_iff.1 hheader
  -- both cut the same segments off the token
  obtain rfl : s' = s := Option.some.inj ((Segments.splitLast_of_split hsplit).symm.trans hs)
  exact hother ((Header.algorithm_eq_of_segment hloose hstrict).symm.trans hname)

/-- Whether a tree is an object. -/
def Json.Tree.isObject : Json.Tree → Bool
  | .object _ => true
  | _ => false

/-- **A header that names an algorithm to both readers is an object**, never an array. -/
theorem SigningAlgorithm.NamedBy.isObject {a : SigningAlgorithm} {segment : String}
    (hnamed : a.NamedBy segment) :
    ((segmentBytes? segment).bind Json.Tree.read?).any Json.Tree.isObject = true := by
  obtain ⟨h, hloose, -⟩ := hnamed.loose
  have hstrict := hnamed.strict_eq
  obtain ⟨bytes, hbytes, hread⟩ := Option.bind_eq_some_iff.1 hloose
  rw [hbytes, Option.bind_some] at hstrict
  obtain ⟨members, hobject⟩ := Header.exists_object_of_read? hread hstrict
  rw [hbytes, Option.bind_some, hobject]
  rfl

namespace Policy

variable {policy : Policy} {key : List UInt8} {a : SigningAlgorithm}

/-- **No header misleads the policy and the verifier about each other.**  Where both readers accept
a header segment, the loose one finds the very name that the strict one does.  So when the header
of a token names the algorithm of a policy that signs, the token is left to the verifier, which
then never objects to the algorithm: an invalid signature is the only reason to report one.  And a
token whose header is no object, but an array say, is refused by such a policy at every instant. -/
theorem algorithms_agree (hkey : policy.signing? = some (key, a)) (token : String) :
    (∀ segment h named, (segmentBytes? segment).bind Header.read? = some h →
        (segmentBytes? segment).bind JoseHeader.read? = some named →
        h.algorithm = named ∧ named ∈ JoseHeader.algorithms)
      ∧ (∀ h, Token.header token = .ok h → h.algorithm = a.name →
        policy.authenticate token h = pure (Token.verify token key a)
          ∧ ¬ Token.NamesOther token a
          ∧ (Token.verify token key a = .error .signatureInvalid
            ↔ Token.WronglySigned token key a))
      ∧ ∀ s, Segments.split token = .ok s →
        ((segmentBytes? s.header).bind Json.Tree.read?).any Json.Tree.isObject = false →
        ∃ why : Rejection, why.IsPlain ∧ ∀ now, policy.identify token now = .error why := by
  refine ⟨fun segment h named hloose hstrict => ⟨?_, ?_⟩, fun h hheader hname => ?_,
    fun s hsplit hform => ?_⟩
  · exact Header.algorithm_eq_of_segment hloose hstrict
  · obtain ⟨bytes, -, hread⟩ := Option.bind_eq_some_iff.1 hstrict
    exact JoseHeader.mem_algorithms_of_read? hread
  · have hnone : ¬ Token.NamesOther token a := Token.not_namesOther hheader hname
    refine ⟨authenticate_of_named hkey hname token, hnone, ?_⟩
    rw [Token.verify_eq_signatureInvalid_iff, or_iff_right hnone]
  · refine identify_of_not_namedBy hkey hsplit fun hnamed => ?_
    exact absurd (hform.symm.trans hnamed.isObject) Bool.false_ne_true

/-- A header in the form of an array, which gives all ten parts in their order. -/
def orderedHeader : List Char :=
  "[\"JWT\",\"HS256\",null,null,null,null,null,null,null,null]".toList

/-- Under the header of a signed token the verifier decides, and accepts.  It would accept the
token with the header in the form of an array as well, but a policy that signs refuses it. -/
theorem algorithms_agree_ordered :
    Fixture.policy.authenticate (rightlySigned (JoseHeader.chars "HS256")).text
          ⟨"HS256", some "JWT"⟩
        = pure (Token.verify (rightlySigned (JoseHeader.chars "HS256")).text
            (Fixture.key 1) .hs256)
      ∧ (∀ header ∈ [JoseHeader.chars "HS256", orderedHeader],
        Token.verify (rightlySigned header).text (Fixture.key 1) .hs256 = .ok bareClaims)
      ∧ ∃ why : Rejection, why.IsPlain
        ∧ ∀ now, Fixture.policy.identify (rightlySigned orderedHeader).text now = .error why := by
  have hkey : Fixture.policy.signing? = some (Fixture.key 1, .hs256) := rfl
  have hbytes (header : List Char) :
      segmentBytes? (rightlySigned header).header = some (Utf8.encode header) :=
    segmentBytes?_text _
  have hsplit : ∀ header ∈ [JoseHeader.chars "HS256", orderedHeader],
      Segments.split (rightlySigned header).text = .ok (rightlySigned header) := by
    have hlength : ∀ header ∈ [JoseHeader.chars "HS256", orderedHeader],
        0 < (Utf8.encode header).length ∧ (Utf8.encode header).length ≤ 100 := by
      decide +kernel
    exact fun header h => split_rightlySigned (hlength header h).1 (hlength header h).2
  refine ⟨?_, fun header h => ?_, ?_⟩
  · obtain ⟨-, hnamed, -⟩ :=
      algorithms_agree hkey (rightlySigned (JoseHeader.chars "HS256")).text
    have hloose : Header.read? (Utf8.encode (JoseHeader.chars "HS256"))
        = some ⟨"HS256", some "JWT"⟩ := by
      decide +kernel
    refine (hnamed _ (Token.header_eq_ok_iff.2 ⟨_, hsplit _ (by simp), ?_⟩) rfl).1
    rw [hbytes, Option.bind_some, hloose]
  · have hstrict : ∀ header ∈ [JoseHeader.chars "HS256", orderedHeader],
        JoseHeader.read? (Utf8.encode header) = some SigningAlgorithm.hs256.name := by
      decide +kernel
    have hsignature : (rightlySigned header).signature
        = Token.signature .hs256 (Fixture.key 1) (rightlySigned header).signedText :=
      rfl
    have hnamed : (segmentBytes? (rightlySigned header).header).bind JoseHeader.read?
        = some SigningAlgorithm.hs256.name := by
      rw [hbytes, Option.bind_some, hstrict header h]
    rw [Token.verify_of_split (hsplit header h) hnamed, if_neg (not_not_intro hsignature),
      Segments.claims, read?_payload_rightlySigned]
  · obtain ⟨-, -, hrefused⟩ := algorithms_agree hkey (rightlySigned orderedHeader).text
    have harray : (Json.Tree.read? (Utf8.encode orderedHeader)).any Json.Tree.isObject = false := by
      decide +kernel
    refine hrefused _ (hsplit _ (by simp)) ?_
    rw [hbytes, Option.bind_some, harray]

end Policy

end BearerBridge
