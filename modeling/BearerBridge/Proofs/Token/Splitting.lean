/-
# Two ways to cut a token

A token is cut twice: at all its dots, when its size and its header are checked, and at its last two
dots, when its signature is.  The first way accepts less, as it counts the dots and the bytes and
wants a header and a payload; but of what it accepts both ways make the same segments.  So the
signature covers the very bytes whose header was checked and whose payload is read.

* `Segments.splitLast?_eq_some_iff` : what the last two dots cut a text into;
* `Segments.split_iff_splitLast?` : how much less is accepted when all dots count;
* `Token.verify_eq_ok_iff` : what a verifier finds in the segments that it cuts;
* `Token.splitters_agree` : both ways cut an accepted token alike.
-/
import BearerBridge.Proofs.Token.Algorithm

namespace BearerBridge

/-! ## At the last two dots -/

namespace Segments

variable {token : String} {s : Segments}

/-- A text is cut at its last dot, and what stands before it once more.  What a signature covers
is what stands before the last dot. -/
theorem splitLast?_iff_atLast? :
    splitLast? token = some s
      ↔ atLast? '.' token.toList = some (s.signedText.toList, s.signature.toList)
        ∧ atLast? '.' s.signedText.toList = some (s.header.toList, s.payload.toList) := by
  constructor
  · intro h
    simp only [splitLast?, Option.bind_eq_bind, Option.bind_eq_some_iff, Option.pure_def,
      Option.some.injEq] at h
    obtain ⟨⟨signed, signature⟩, hlast, ⟨header, payload⟩, hbefore, rfl⟩ := h
    -- what was cut in two is what the two halves are joined to
    have hsigned : signed = header ++ '.' :: payload := (atLast?_eq_some_iff.1 hbefore).2
    rw [toList_signedText]
    simp only [String.toList_ofList]
    rw [← hsigned]
    exact ⟨hlast, hbefore⟩
  · rintro ⟨hlast, hbefore⟩
    rw [splitLast?, hlast]
    simp only [Option.bind_eq_bind, Option.bind_some, hbefore, Option.pure_def,
      String.ofList_toList]

/-- **What the last two dots cut a text into**: segments that it is the text of, without a dot in
payload and signature.  The header may hold some. -/
theorem splitLast?_eq_some_iff :
    splitLast? token = some s
      ↔ token = s.text ∧ '.' ∉ s.payload.toList ∧ '.' ∉ s.signature.toList := by
  rw [splitLast?_iff_atLast?, atLast?_eq_some_iff, atLast?_eq_some_iff, ← String.toList_inj,
    toList_text_of_signedText]
  constructor
  · rintro ⟨⟨hsignature, htoken⟩, hpayload, -⟩
    exact ⟨htoken, hpayload, hsignature⟩
  · rintro ⟨htoken, hpayload, hsignature⟩
    exact ⟨⟨hsignature, htoken⟩, hpayload, toList_signedText s⟩

/-- A text with one dot more is no token, but its last two dots cut it all the same. -/
example : splitLast? "a.b.c.d" = some ⟨"a.b", "c", "d"⟩ ∧ split "a.b.c.d" = .error .malformed :=
  ⟨by decide, rfl⟩

/-! ## At all dots -/

theorem wellFormed_iff :
    s.WellFormed ↔ (∀ piece ∈ [s.header, s.payload, s.signature], '.' ∉ piece.toList)
      ∧ s.header ≠ "" ∧ s.payload ≠ "" := by
  constructor
  · rintro ⟨hheader, hpayload, hsignature, hheaderNil, hpayloadNil⟩
    exact ⟨by simp [hheader, hpayload, hsignature], by simpa using hheaderNil,
      by simpa using hpayloadNil⟩
  · rintro ⟨hdots, hheader, hpayload⟩
    exact ⟨hdots _ (by simp), hdots _ (by simp), hdots _ (by simp), by simpa using hheader,
      by simpa using hpayload⟩

/-- **How much less is accepted when all dots count**: a token is a text that the last two dots
cut into the same segments, of at most so many bytes, without a dot in its header, and neither
header nor payload of it is empty. -/
theorem split_iff_splitLast? :
    split token = .ok s
      ↔ splitLast? token = some s ∧ token.utf8ByteSize ≤ maxTokenBytes
        ∧ '.' ∉ s.header.toList ∧ s.header ≠ "" ∧ s.payload ≠ "" := by
  rw [split_eq_ok_iff, splitLast?_eq_some_iff, wellFormed_iff, Utf8.length_ofString]
  constructor
  · rintro ⟨⟨hdots, hne⟩, htext, hsize⟩
    exact ⟨⟨htext, hdots _ (by simp), hdots _ (by simp)⟩, hsize, hdots _ (by simp), hne⟩
  · rintro ⟨⟨htext, hpayload, hsignature⟩, hsize, hheader, hne⟩
    exact ⟨⟨by simp [hheader, hpayload, hsignature], hne⟩, htext, hsize⟩

end Segments

/-! ## What is authenticated -/

/-- Segments that a verifier is content with: the header names its algorithm, the signature is that
of the bytes of header and payload with the dot between them, and the payload states the claims. -/
structure Segments.VouchFor (s : Segments) (key : List UInt8) (a : SigningAlgorithm)
    (c : TokenClaims) : Prop where
  named : (segmentBytes? s.header).bind JoseHeader.read? = some a.name
  authentic : s.signature
    = Base64.text Base64.url (Hmac.code a.hash key (Utf8.ofString (s.header ++ "." ++ s.payload)))
  payload : (segmentBytes? s.payload).bind TokenClaims.read? = some c

namespace Token

variable {token : String} {s : Segments}

/-- **What a verifier finds in the segments that it cuts.** -/
theorem verify_eq_ok_iff {key : List UInt8} {a : SigningAlgorithm} {c : TokenClaims} :
    verify token key a = .ok c ↔ ∃ s, Segments.splitLast? token = some s ∧ s.VouchFor key a c := by
  constructor
  · intro h
    rw [verify] at h
    split at h
    · exact absurd h (by simp)
    next s hs =>
    split at h
    · exact absurd h (by simp)
    next named hnamed =>
    split at h
    · exact absurd h (by simp)
    next hname =>
    split at h
    · exact absurd h (by simp)
    next hsignature =>
    split at h
    · next c' hpayload =>
      obtain rfl := Except.ok.inj h
      rw [Decidable.not_not] at hname hsignature
      exact ⟨s, hs, by rw [hnamed, hname], hsignature, hpayload⟩
    · exact absurd h (by simp)
  · rintro ⟨s, hs, hvouch⟩
    have hsignature : s.signature = signature a key s.signedText := hvouch.authentic
    rw [verify, hs]
    simp only [hvouch.named, ne_eq, not_true_eq_false, if_false, ← hsignature, hvouch.payload]

theorem header_eq_ok_iff_of_split (hs : Segments.split token = .ok s) {h : Header} :
    header token = .ok h ↔ (segmentBytes? s.header).bind Header.read? = some h := by
  rw [header_of_split hs]
  cases (segmentBytes? s.header).bind Header.read? <;> simp

theorem claims_eq_ok_iff_of_split (hs : Segments.split token = .ok s) {c : TokenClaims} :
    claims token = .ok c ↔ (segmentBytes? s.payload).bind TokenClaims.read? = some c := by
  rw [claims_of_split hs]
  cases (segmentBytes? s.payload).bind TokenClaims.read? <;> simp

/-- **Both ways cut an accepted token alike.**  A text is cut at all its dots just when it has at
most so many bytes and is a header, a payload and a signature with dots between them, none of them
with a dot in it and the first two not empty.  Then its last two dots cut it into the same segments;
they cut more texts, in which the header holds a dot, header or payload is empty, or there are too
many bytes.  So of a text that is accepted the verifier authenticates the bytes before the last dot,
and these are the header that was read before, the dot and the payload whose claims it hands out. -/
theorem splitters_agree (token : String) :
    (∀ h p sig : String, Segments.split token = .ok ⟨h, p, sig⟩
        ↔ token.utf8ByteSize ≤ 16384 ∧ token = h ++ "." ++ p ++ "." ++ sig
          ∧ (∀ piece ∈ [h, p, sig], '.' ∉ piece.toList) ∧ h ≠ "" ∧ p ≠ "")
      ∧ (∀ s, Segments.split token = .ok s
        ↔ Segments.splitLast? token = some s ∧ token.utf8ByteSize ≤ 16384
          ∧ '.' ∉ s.header.toList ∧ s.header ≠ "" ∧ s.payload ≠ "")
      ∧ ∀ s, Segments.split token = .ok s →
        atLast? '.' token.toList
            = some ((s.header ++ "." ++ s.payload).toList, s.signature.toList)
          ∧ (∀ h, header token = .ok h ↔ (segmentBytes? s.header).bind Header.read? = some h)
          ∧ (∀ c, claims token = .ok c
            ↔ (segmentBytes? s.payload).bind TokenClaims.read? = some c)
          ∧ ∀ key a c, verify token key a = .ok c ↔ s.VouchFor key a c := by
  refine ⟨fun h p sig => ?_, fun s => Segments.split_iff_splitLast?, fun s hs => ?_⟩
  · rw [Segments.split_eq_ok_iff, Segments.wellFormed_iff, Utf8.length_ofString]
    exact ⟨fun ⟨hform, htext, hsize⟩ => ⟨hsize, htext, hform⟩,
      fun ⟨hsize, htext, hform⟩ => ⟨hform, htext, hsize⟩⟩
  · have hlast : Segments.splitLast? token = some s := Segments.splitLast_of_split hs
    refine ⟨(Segments.splitLast?_iff_atLast?.1 hlast).1, fun h => header_eq_ok_iff_of_split hs,
      fun c => claims_eq_ok_iff_of_split hs, fun key a c => ?_⟩
    rw [verify_eq_ok_iff, hlast]
    simp

/-- Segments whose header takes twice as many bytes as characters. -/
def accented (n : Nat) : Segments := ⟨String.ofList (List.replicate n 'é'), "p", "s"⟩

theorem toList_header_accented (n : Nat) :
    (accented n).header.toList = List.replicate n 'é' :=
  String.toList_ofList

theorem wellFormed_accented {n : Nat} (hpos : 0 < n) : (accented n).WellFormed where
  header_no_dot := by
    rw [toList_header_accented, List.mem_replicate]
    exact fun h => absurd h.2 (by decide)
  payload_no_dot := show '.' ∉ "p".toList by decide
  signature_no_dot := show '.' ∉ "s".toList by decide
  header_ne_nil := by
    rw [toList_header_accented, ne_eq, List.replicate_eq_nil_iff]
    omega
  payload_ne_nil := show "p".toList ≠ [] by decide

theorem length_accented (n : Nat) : (accented n).text.length = n + 4 := by
  have hpayload : (accented n).payload.toList.length = 1 := show "p".toList.length = 1 by decide
  have hsignature : (accented n).signature.toList.length = 1 := show "s".toList.length = 1 by decide
  rw [← String.length_toList, Segments.toList_text, toList_header_accented]
  simp only [List.length_append, List.length_cons, List.length_replicate, hpayload, hsignature]

theorem utf8ByteSize_accented (n : Nat) : (accented n).text.utf8ByteSize = 2 * n + 4 := by
  have hchar : (Utf8.encodeChar 'é').length = 2 := by decide
  have hheader : (Utf8.ofString (accented n).header).length = n * 2 := by
    rw [Utf8.ofString, toList_header_accented, Utf8.encode, List.length_flatMap,
      List.map_replicate, List.sum_replicate_nat, hchar]
  have hpayload : (Utf8.ofString (accented n).payload).length = 1 :=
    show (Utf8.ofString "p").length = 1 by decide
  have hsignature : (Utf8.ofString (accented n).signature).length = 1 :=
    show (Utf8.ofString "s").length = 1 by decide
  rw [← Utf8.length_ofString, Segments.length_text, hheader, hpayload, hsignature]
  omega

theorem vouchFor_rightlySigned :
    (Policy.rightlySigned (JoseHeader.chars "HS256")).VouchFor (Fixture.key 1) .hs256
      Policy.bareClaims where
  named := (SigningAlgorithm.namedBy_written .hs256).strict_eq
  authentic := rfl
  payload := Policy.read?_payload_rightlySigned _

/-- A text of just as many bytes as a token may have is cut alike both ways.  A longer one is too
large, in half as many characters.  And of a signed token the verifier is content with the segments
that are found when all dots count. -/
theorem splitters_agree_accented :
    Segments.split (accented 8190).text = .ok (accented 8190)
      ∧ Segments.splitLast? (accented 8190).text = some (accented 8190)
      ∧ (accented 8191).text.length = 8195
      ∧ (∀ s, Segments.split (accented 8191).text ≠ .ok s)
      ∧ verify (Policy.rightlySigned (JoseHeader.chars "HS256")).text (Fixture.key 1) .hs256
        = .ok Policy.bareClaims := by
  obtain ⟨hexact, hless, -⟩ := splitters_agree (accented 8190).text
  have hsplit : Segments.split (accented 8190).text = .ok (accented 8190) :=
    (hexact (accented 8190).header "p" "s").2 ⟨Nat.le_of_eq (utf8ByteSize_accented 8190), rfl,
      Segments.wellFormed_iff.1 (wellFormed_accented (by decide))⟩
  refine ⟨hsplit, ((hless _).1 hsplit).1, length_accented 8191, fun s hlong => ?_, ?_⟩
  · obtain ⟨-, hless', -⟩ := splitters_agree (accented 8191).text
    have hsize := ((hless' s).1 hlong).2.1
    rw [utf8ByteSize_accented] at hsize
    omega
  · obtain ⟨-, -, hcut⟩ := splitters_agree (Policy.rightlySigned (JoseHeader.chars "HS256")).text
    obtain ⟨-, -, -, hverify⟩ :=
      hcut _ (Policy.split_rightlySigned (by decide +kernel) (by decide +kernel))
    exact (hverify _ _ _).2 vouchFor_rightlySigned

end Token

end BearerBridge
