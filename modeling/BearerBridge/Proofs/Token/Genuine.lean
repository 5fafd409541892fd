/-
# Which tokens are genuine

A policy trusts a token when its algorithm is the policy's and its signature is right.  Trust
is decided by header and signature alone; the payload of a token that is not trusted is never
looked at.

* `Header.algorithm_eq` : the two readers of a header never disagree on the algorithm;
* `Policy.trusts_iff` : what a policy trusts, by its key and algorithm;
* `identify_of_namedBy` : under a key the signature comes before the payload;
* `identify_of_trusts` : of a trusted token the payload decides;
* `identify_of_not_trusts` : any other token is refused, at every instant for the same reason.
-/
import BearerBridge.Proofs.Token.Segments
import BearerBridge.Validator

namespace BearerBridge

/-! ## The two readers of a header -/

theorem Json.Tree.word?_of_text? {words : List String} {t : Tree} {a b : String}
    (ha : t.text? = some a) (hb : t.word? words = some b) : a = b := by
  cases t with
  | text body =>
    rw [Tree.text?] at ha
    rw [Tree.word?, ha, Option.filter_eq_some_iff] at hb
    exact Option.some.inj hb.1
  | _ => exact absurd ha (by simp [Tree.text?])

/-- The loose reader takes the algorithm from the one member of that name. -/
theorem Header.exists_alg_of_read? {members : List (List UInt8 × Json.Tree)} {bs : List UInt8}
    {h : Header} (ht : Json.Tree.read? bs = some (.object members)) (hr : read? bs = some h) :
    ∃ ms alg, Json.named? members = some ms ∧ Json.unique? "alg" ms = some (some alg)
      ∧ alg.text? = some h.algorithm := by
  rw [read?, ht, Option.bind_some, Json.Tree.parts?] at hr
  cases hms : Json.named? members with
  | none => exact absurd hr (by simp [hms])
  | some ms =>
    rw [hms, Option.bind_some] at hr
    split at hr
    · next alg typ hparts =>
      split at hr
      · next name type hname htype =>
        obtain rfl := Option.some.inj hr
        simp only [List.mapM_cons, List.mapM_nil, Option.bind_eq_bind, Option.pure_def,
          Option.bind_eq_some_iff, Option.some.injEq, List.cons.injEq] at hparts
        obtain ⟨part, hpart, _, -, rfl, -⟩ := hparts
        exact ⟨ms, alg, rfl, hpart, hname⟩
      · exact absurd hr (by simp)
    · exact absurd hr (by simp)

/-- The strict reader takes the algorithm from the one member of that name. -/
theorem JoseHeader.exists_alg_of_read? {members : List (List UInt8 × Json.Tree)}
    {bs : List UInt8} {named : String} (ht : Json.Tree.read? bs = some (.object members))
    (hr : read? bs = some named) :
    ∃ ms alg, Json.named? members = some ms ∧ Json.unique? "alg" ms = some (some alg)
      ∧ alg.word? algorithms = some named := by
  rw [read?, ht, Option.bind_some, algorithm?, Json.Tree.parts?] at hr
  cases hms : Json.named? members with
  | none => exact absurd hr (by simp [hms])
  | some ms =>
    rw [hms, Option.bind_some] at hr
    split at hr
    · next typ alg _ _ _ _ _ _ _ _ hparts =>
      split at hr
      · simp only [names, List.mapM_cons, List.mapM_nil, Option.bind_eq_bind, Option.pure_def,
          Option.bind_eq_some_iff, Option.some.injEq, List.cons.injEq] at hparts
        obtain ⟨_, -, _, ⟨part, hpart, _, -, rfl⟩, -, ⟨rfl, -⟩⟩ := hparts
        exact ⟨ms, alg, rfl, hpart, hr⟩
      · exact absurd hr (by simp)
    · exact absurd hr (by simp)

/-- No array is a header to both readers: the loose one takes an array of at most two parts, the
strict one an array of ten. -/
theorem Header.read?_eq_none_or_of_array {bs : List UInt8} {items : List Json.Tree}
    (ht : Json.Tree.read? bs = some (.array items)) :
    read? bs = none ∨ JoseHeader.read? bs = none := by
  by_cases hlong : 2 < items.length
  · left
    simp [read?, ht, Json.Tree.parts?, hlong]
  · right
    have hincomplete : JoseHeader.isComplete (.array items) = false := by
      have hnames : JoseHeader.names.length = 10 := rfl
      rw [JoseHeader.isComplete, beq_eq_false_iff_ne, hnames]
      omega
    rw [JoseHeader.read?, ht, Option.bind_some, JoseHeader.algorithm?]
    split
    · simp [hincomplete]
    · rfl

/-- **A header to both readers is an object**, whose members decide about it. -/
theorem Header.exists_object_of_read? {bs : List UInt8} {h : Header} {named : String}
    (hloose : read? bs = some h) (hstrict : JoseHeader.read? bs = some named) :
    ∃ members, Json.Tree.read? bs = some (.object members) := by
  cases ht : Json.Tree.read? bs with
  | none => exact absurd hstrict (by simp [JoseHeader.read?, ht])
  | some t =>
    cases t with
    | object members => exact ⟨members, rfl⟩
    | array items =>
      rcases read?_eq_none_or_of_array ht with hnone | hnone
      · exact absurd (hnone.symm.trans hloose) (by simp)
      · exact absurd (hnone.symm.trans hstrict) (by simp)
    | _ => exact absurd hstrict (by simp [JoseHeader.read?, ht, JoseHeader.algorithm?,
        Json.Tree.parts?])

/-- **The two readers of a header never disagree on the algorithm**: where both read a header,
the loose one finds the name that the strict one accepts. -/
theorem Header.algorithm_eq {bs : List UInt8} {h : Header} {named : String}
    (hloose : read? bs = some h) (hstrict : JoseHeader.read? bs = some named) :
    h.algorithm = named := by
  obtain ⟨members, ht⟩ := exists_object_of_read? hloose hstrict
  obtain ⟨ms, alg, hms, halg, htext⟩ := exists_alg_of_read? ht hloose
  obtain ⟨ms', alg', hms', halg', hword⟩ := JoseHeader.exists_alg_of_read? ht hstrict
  obtain rfl := Option.some.inj (hms.symm.trans hms')
  obtain rfl := Option.some.inj (Option.some.inj (halg.symm.trans halg'))
  exact Json.Tree.word?_of_text? htext hword

/-! ## Trust -/

/-- A header segment names an algorithm, to the loose reader and to the strict one. -/
structure SigningAlgorithm.NamedBy (a : SigningAlgorithm) (segment : String) : Prop where
  loose : ∃ h, (segmentBytes? segment).bind Header.read? = some h ∧ h.algorithm = a.name
  strict : ((segmentBytes? segment).bind JoseHeader.read?).isSome

/-- A header segment says that the token has no signature. -/
def Header.UnsecuredBy (segment : String) : Prop :=
  ∃ h, (segmentBytes? segment).bind read? = some h ∧ h.isUnsecured

theorem Header.read?_unsecuredChars :
    (segmentBytes? (segmentOf unsecuredChars)).bind read? = some ⟨unsecured, some "JWT"⟩ := by
  have hread : read? (Utf8.encode unsecuredChars) = some ⟨unsecured, some "JWT"⟩ := by
    decide +kernel
  rw [segmentOf, segmentBytes?_text, Option.bind_some, hread]

theorem Header.unsecuredBy_written : Header.UnsecuredBy (segmentOf unsecuredChars) :=
  ⟨_, read?_unsecuredChars, by decide⟩

theorem SigningAlgorithm.namedBy_written (a : SigningAlgorithm) :
    a.NamedBy (segmentOf (JoseHeader.chars a.name)) := by
  have hloose : Header.read? (Utf8.encode (JoseHeader.chars a.name))
      = some ⟨a.name, some "JWT"⟩ := by
    cases a <;> decide +kernel
  have hstrict : JoseHeader.read? (Utf8.encode (JoseHeader.chars a.name)) = some a.name := by
    cases a <;> decide +kernel
  constructor
  · refine ⟨⟨a.name, some "JWT"⟩, ?_, rfl⟩
    rw [segmentOf, segmentBytes?_text, Option.bind_some, hloose]
  · rw [segmentOf, segmentBytes?_text, Option.bind_some, hstrict]
    rfl

/-- A policy trusts a token whose header names its algorithm and whose signature is right, or,
without a key, a token that says that it has no signature and has none. -/
def Policy.Trusts (policy : Policy) (s : Segments) : Prop :=
  match policy.signing? with
  | some (key, a) => a.NamedBy s.header ∧ s.signature = Token.signature a key s.signedText
  | none => Header.UnsecuredBy s.header ∧ s.signature = ""

/-- Which tokens a policy trusts, by its key and its algorithm: without either of them only those
without a signature. -/
theorem Policy.trusts_iff {policy : Policy} {s : Segments} :
    policy.Trusts s
      ↔ (∃ key a, policy.signingKey = some key ∧ policy.signingAlgorithm = some a
          ∧ a.NamedBy s.header ∧ s.signature = Token.signature a key s.signedText)
        ∨ (policy.signingKey = none ∨ policy.signingAlgorithm = none)
          ∧ Header.UnsecuredBy s.header ∧ s.signature = "" := by
  rw [Trusts]
  cases hsigning : policy.signing? with
  | some signing =>
    obtain ⟨key, a⟩ := signing
    obtain ⟨hkey, halgorithm⟩ := signing?_eq_some_iff.1 hsigning
    simp [hkey, halgorithm]
  | none =>
    rcases signing?_eq_none_iff.1 hsigning with hnone | hnone
    · simp [hnone]
    · simp [hnone]

/-- The two rejections that do not depend on what the payload says. -/
def Rejection.IsPlain (why : Rejection) : Prop :=
  why = .malformed ∨ why = .signatureInvalid

/-- No algorithm has the name of a token without a signature. -/
theorem SigningAlgorithm.sameWord_unsecured (a : SigningAlgorithm) :
    Ascii.sameWord a.name Header.unsecured = false := by
  cases a <;> decide

/-- Where both readers read a header that names an algorithm, they agree on it. -/
theorem SigningAlgorithm.NamedBy.strict_eq {a : SigningAlgorithm} {segment : String}
    (h : a.NamedBy segment) : (segmentBytes? segment).bind JoseHeader.read? = some a.name := by
  obtain ⟨header, hloose, hname⟩ := h.loose
  obtain ⟨named, hstrict⟩ := Option.isSome_iff_exists.1 h.strict
  cases hbytes : segmentBytes? segment with
  | none => exact absurd hloose (by simp [hbytes])
  | some bytes =>
    rw [hbytes, Option.bind_some] at hloose hstrict
    rw [Option.bind_some, hstrict, ← Header.algorithm_eq hloose hstrict, hname]

/-! ## What decides about a token -/

theorem Token.header_of_split {token : String} {s : Segments} (hs : Segments.split token = .ok s) :
    header token = match (segmentBytes? s.header).bind Header.read? with
      | some h => .ok h
      | none => .error .malformed := by
  rw [header, hs]
  rfl

theorem Token.claims_of_split {token : String} {s : Segments} (hs : Segments.split token = .ok s) :
    claims token = match (segmentBytes? s.payload).bind TokenClaims.read? with
      | some c => .ok c
      | none => .error .malformed := by
  rw [claims, hs]
  rfl

/-- The two ways to split a token find the same segments. -/
theorem Segments.splitLast_of_split {token : String} {s : Segments} (hs : split token = .ok s) :
    splitLast? token = some s := by
  obtain ⟨hwf, rfl, -⟩ := split_eq_ok_iff.1 hs
  exact splitLast_text hwf

/-- What the payload of a token states, when nothing else is wrong with it. -/
def Segments.claims (s : Segments) : Except Rejection TokenClaims :=
  match (segmentBytes? s.payload).bind TokenClaims.read? with
  | some c => .ok c
  | none => .error .malformed

theorem Token.verify_of_split {token : String} {s : Segments} {key : List UInt8}
    {a : SigningAlgorithm} (hs : Segments.split token = .ok s)
    (h : (segmentBytes? s.header).bind JoseHeader.read? = some a.name) :
    verify token key a
      = if s.signature ≠ signature a key s.signedText then .error .signatureInvalid
        else s.claims := by
  rw [verify, Segments.splitLast_of_split hs]
  simp only [h, ne_eq, not_true_eq_false, if_false]
  rfl

theorem Token.readUnsecured_of_split {token : String} {s : Segments} {h : Header}
    (hs : Segments.split token = .ok s)
    (hh : (segmentBytes? s.header).bind Header.read? = some h) (hu : h.isUnsecured = true) :
    (readUnsecured token).mapError (fun _ => Rejection.malformed)
      = if s.signature ≠ "" then .error .malformed else s.claims := by
  rw [readUnsecured, hs]
  simp only [bind, Except.bind, hh, hu, Bool.not_true, Bool.false_or, bne_iff_ne]
  split
  · rfl
  · rw [Segments.claims]
    cases (segmentBytes? s.payload).bind TokenClaims.read? <;> rfl

namespace Policy

variable {policy : Policy} {token : String} {s : Segments}

theorem identify_of_not_split {why : FormatFault} (hs : Segments.split token = .error why)
    (now : Int64) : policy.identify token now = .error .malformed := by
  have hheader : Token.header token = .error why := by
    rw [Token.header, hs]
    rfl
  rw [identify, check, hheader]
  rfl

/-- The header that does not read spoils the token. -/
theorem identify_of_no_header (hs : Segments.split token = .ok s)
    (h : (segmentBytes? s.header).bind Header.read? = none) (now : Int64) :
    policy.identify token now = .error .malformed := by
  rw [identify, check, Token.header_of_split hs, h]
  rfl

/-- The header that reads leaves the decision to the policy. -/
theorem identify_of_header {header : Header} (hs : Segments.split token = .ok s)
    (h : (segmentBytes? s.header).bind Header.read? = some header) (now : Int64) :
    policy.identify token now
      = (policy.authenticate token header).value >>= (policy.accept · now) := by
  rw [identify, check, Token.header_of_split hs, h]
  rfl

/-! ## Under a key -/

section Signed

variable {key : List UInt8} {a : SigningAlgorithm}

/-- **The algorithm of the policy leaves the token to the verifier**, and nothing is reported. -/
theorem authenticate_of_named (hkey : policy.signing? = some (key, a)) {header : Header}
    (hname : header.algorithm = a.name) (token : String) :
    policy.authenticate token header = pure (Token.verify token key a) := by
  have hpassed : (header.isUnsecured || header.algorithm != a.name) = false := by
    rw [Header.isUnsecured, hname, a.sameWord_unsecured]
    simp
  rw [authenticate, hkey]
  simp only [hpassed, Bool.false_eq_true, if_false]

/-- **The signature comes before the payload**: with the right header, a wrong signature is all
that is reported. -/
theorem identify_of_namedBy (hkey : policy.signing? = some (key, a))
    (hs : Segments.split token = .ok s) (hnamed : a.NamedBy s.header) (now : Int64) :
    policy.identify token now
      = if s.signature ≠ Token.signature a key s.signedText then .error .signatureInvalid
        else s.claims >>= (policy.accept · now) := by
  obtain ⟨header, hheader, hname⟩ := hnamed.loose
  rw [identify_of_header hs hheader, authenticate_of_named hkey hname, Traced.value_pure,
    Token.verify_of_split hs hnamed.strict_eq]
  split <;> rfl

/-- A header that does not name the policy's algorithm is refused, the instant aside. -/
theorem identify_of_not_namedBy (hkey : policy.signing? = some (key, a))
    (hs : Segments.split token = .ok s) (hnamed : ¬ a.NamedBy s.header) :
    ∃ why : Rejection, why.IsPlain ∧ ∀ now, policy.identify token now = .error why := by
  cases hheader : (segmentBytes? s.header).bind Header.read? with
  | none => exact ⟨_, Or.inl rfl, identify_of_no_header hs hheader⟩
  | some header =>
    by_cases hother : (header.isUnsecured || header.algorithm != a.name) = true
    · refine ⟨_, Or.inr rfl, fun now => ?_⟩
      rw [identify_of_header hs hheader, authenticate, hkey]
      simp only [hother, if_true]
      rfl
    · have hname : header.algorithm = a.name := by
        simp only [Bool.or_eq_true, bne_iff_ne, ne_eq, not_or, Decidable.not_not] at hother
        exact hother.2
      -- the loose reader is content, so it is the strict one that does not read the header
      have hstrict : (segmentBytes? s.header).bind JoseHeader.read? = none := by
        rw [← Option.not_isSome_iff_eq_none]
        exact fun h => hnamed ⟨⟨header, hheader, hname⟩, h⟩
      refine ⟨_, Or.inl rfl, fun now => ?_⟩
      rw [identify_of_header hs hheader, authenticate_of_named hkey hname, Traced.value_pure,
        Token.verify, Segments.splitLast_of_split hs]
      simp only [hstrict]
      rfl

end Signed

/-! ## Without a key -/

/-- Without a key, an unsecured token is decided by its payload when it has no signature. -/
theorem identify_of_unsecuredBy (hkey : policy.signing? = none)
    (hs : Segments.split token = .ok s) (hnone : Header.UnsecuredBy s.header) (now : Int64) :
    policy.identify token now
      = if s.signature ≠ "" then .error .malformed else s.claims >>= (policy.accept · now) := by
  obtain ⟨header, hheader, hunsecured⟩ := hnone
  rw [identify_of_header hs hheader, authenticate, hkey]
  simp only [hunsecured, Bool.not_true, Bool.false_eq_true, if_false, Traced.value_pure,
    Token.readUnsecured_of_split hs hheader hunsecured]
  split <;> rfl

/-- Without a key, a token that says that it has a signature is refused, the instant aside. -/
theorem identify_of_not_unsecuredBy (hkey : policy.signing? = none)
    (hs : Segments.split token = .ok s) (hsigned : ¬ Header.UnsecuredBy s.header) :
    ∃ why : Rejection, why.IsPlain ∧ ∀ now, policy.identify token now = .error why := by
  cases hheader : (segmentBytes? s.header).bind Header.read? with
  | none => exact ⟨_, Or.inl rfl, identify_of_no_header hs hheader⟩
  | some header =>
    have hunsecured : header.isUnsecured = false := by
      rw [← Bool.not_eq_true]
      exact fun h => hsigned ⟨header, hheader, h⟩
    refine ⟨_, Or.inr rfl, fun now => ?_⟩
    rw [identify_of_header hs hheader, authenticate, hkey]
    simp only [hunsecured, Bool.not_false, if_true]
    rfl

/-! ## Trusted or not -/

/-- **Of a trusted token the payload decides.** -/
theorem identify_of_trusts (hs : Segments.split token = .ok s) (h : policy.Trusts s)
    (now : Int64) : policy.identify token now = s.claims >>= (policy.accept · now) := by
  unfold Trusts at h
  split at h
  · next key a hkey => rw [identify_of_namedBy hkey hs h.1, if_neg (not_not_intro h.2)]
  · next hkey => rw [identify_of_unsecuredBy hkey hs h.1, if_neg (not_not_intro h.2)]

/-- **Any other token is refused**, at every instant for the same reason. -/
theorem identify_of_not_trusts (hs : Segments.split token = .ok s) (h : ¬ policy.Trusts s) :
    ∃ why : Rejection, why.IsPlain ∧ ∀ now, policy.identify token now = .error why := by
  unfold Trusts at h
  split at h
  · next key a hkey =>
    by_cases hnamed : a.NamedBy s.header
    · have hsig : s.signature ≠ Token.signature a key s.signedText := fun e => h ⟨hnamed, e⟩
      refine ⟨_, Or.inr rfl, fun now => ?_⟩
      rw [identify_of_namedBy hkey hs hnamed, if_pos hsig]
    · exact identify_of_not_namedBy hkey hs hnamed
  · next hkey =>
    by_cases hnone : Header.UnsecuredBy s.header
    · have hsig : s.signature ≠ "" := fun e => h ⟨hnone, e⟩
      refine ⟨_, Or.inl rfl, fun now => ?_⟩
      rw [identify_of_unsecuredBy hkey hs hnone, if_pos hsig]
    · exact identify_of_not_unsecuredBy hkey hs hnone

end Policy

end BearerBridge
