/-
# Answers of no use

A token page may answer in many ways that give a client no credential.  It is not reached, it
refuses, or it says nothing; what it says is no token, or a token of which the client cannot tell
when it expires, or one that no header can carry, or one of the past.  Each of these ways comes to
one fault, and there are no others.

* `Location.fetch_eq_error_iff` : why no token comes from a token page;
* `noExpiry_iff` : which payloads do not tell when a token expires;
* `accept_eq_error_iff` : which answers are of no use, and why.
-/
import BearerBridge.Client.Location
import BearerBridge.Proofs.Client.SingleFlight
import BearerBridge.Proofs.Token.Expiry
import BearerBridge.Proofs.TokenSize

namespace BearerBridge

/-! ## No token -/

namespace Location

variable {transport : Transport} {location : Location} {target : Url} {why : ClientFault}

/-- Why no token comes from a token page. -/
inductive Fails (transport : Transport) (location : Location) (target : Url) :
    ClientFault → Prop where
  /-- The location names no page for requests to the target. -/
  | unresolved {fault : ClientFault} (h : location.resolve target = .error fault) :
    Fails transport location target fault
  /-- The page is not reached. -/
  | unreached {url : Url} {reason : String} (h : location.resolve target = .ok url)
      (htransport : transport url = .error reason) :
    Fails transport location target (.transport reason)
  /-- The page answers with anything but success. -/
  | rejected {url : Url} {status : Nat} {body : List UInt8}
      (h : location.resolve target = .ok url) (htransport : transport url = .ok (status, body))
      (hstatus : ¬ (200 ≤ status ∧ status < 300)) :
    Fails transport location target (.rejected status)
  /-- The page answers with blanks only. -/
  | empty {url : Url} {status : Nat} {body : List UInt8}
      (h : location.resolve target = .ok url) (htransport : transport url = .ok (status, body))
      (hstatus : 200 ≤ status ∧ status < 300)
      (hblank : trim (String.ofList (Utf8.repair body)) = "") :
    Fails transport location target (.invalidToken "empty response body")

/-- **Why no token comes from a token page**, and when. -/
theorem fetch_eq_error_iff :
    location.fetch transport target = .error why ↔ location.Fails transport target why := by
  constructor
  · intro h
    rw [fetch] at h
    cases hresolve : location.resolve target with
    | error fault =>
      rw [hresolve] at h
      obtain rfl := Except.error.inj h
      exact .unresolved hresolve
    | ok url =>
      rw [hresolve] at h
      cases hanswer : transport url with
      | error reason =>
        simp only [bind, Except.bind, hanswer] at h
        obtain rfl := Except.error.inj h
        exact .unreached hresolve hanswer
      | ok answer =>
        obtain ⟨status, body⟩ := answer
        simp only [bind, Except.bind, hanswer, tokenOf] at h
        split at h
        · next hstatus =>
          split at h
          · next hblank =>
            obtain rfl := Except.error.inj h
            exact .empty hresolve hanswer hstatus hblank
          · exact absurd h (by simp)
        · next hstatus =>
          obtain rfl := Except.error.inj h
          exact .rejected hresolve hanswer hstatus
  · intro h
    cases h with
    | unresolved h => simp only [fetch, h, bind, Except.bind]
    | unreached h htransport => simp only [fetch, h, bind, Except.bind, htransport]
    | rejected h htransport hstatus =>
      simp only [fetch, h, bind, Except.bind, htransport, tokenOf, if_neg hstatus]
    | empty h htransport hstatus hblank =>
      simp only [fetch, h, bind, Except.bind, htransport, tokenOf, if_pos hstatus, hblank, if_true]

end Location

/-! ## No expiry -/

/-- What a text states as an expiry: what the members of that name hold, or the items of an
array. -/
def statedExpiries (bs : List UInt8) : Option (List Json.Tree) :=
  match Json.Tree.read? bs with
  | some (.object members) =>
    (Json.named? members).map fun ms => (ms.filter (·.1 == "exp")).map (·.2)
  | some (.array items) => some items
  | _ => none

/-- **A text tells an expiry when it states one only**, and that an integer. -/
theorem TokenClaims.readExpiry?_eq (bs : List UInt8) :
    readExpiry? bs = match statedExpiries bs with
      | some [t] => t.int64?
      | _ => none := by
  rw [readExpiry?, statedExpiries]
  cases Json.Tree.read? bs with
  | none => rfl
  | some tree =>
    rw [Option.bind_some]
    cases tree with
    | object members =>
      dsimp only [Json.Tree.parts?]
      cases Json.named? members with
      | none => rfl
      | some ms =>
        rw [Option.bind_some, Option.map_some]
        simp only [List.mapM_cons, List.mapM_nil, Json.unique?]
        generalize ms.filter (·.1 == "exp") = found
        rcases found with _ | ⟨m, _ | ⟨m', rest⟩⟩ <;> rfl
    | array items => rcases items with _ | ⟨t, _ | ⟨t', rest⟩⟩ <;> rfl
    | _ => rfl

/-- A payload from which a client cannot tell when a token expires. -/
inductive NoExpiry (payload : String) : Prop where
  /-- It spells no bytes. -/
  | noBytes (h : segmentBytes? payload = none)
  /-- It is no record that reads. -/
  | noRecord {bs : List UInt8} (h : segmentBytes? payload = some bs)
      (hstated : statedExpiries bs = none)
  /-- It states no expiry. -/
  | missing {bs : List UInt8} (h : segmentBytes? payload = some bs)
      (hstated : statedExpiries bs = some [])
  /-- It states an expiry twice, or more often. -/
  | twice {bs : List UInt8} {t t' : Json.Tree} {ts : List Json.Tree}
      (h : segmentBytes? payload = some bs) (hstated : statedExpiries bs = some (t :: t' :: ts))
  /-- What it states is no integer of 64 bits. -/
  | noInteger {bs : List UInt8} {t : Json.Tree} (h : segmentBytes? payload = some bs)
      (hstated : statedExpiries bs = some [t]) (hinteger : t.int64? = none)

/-- **Which payloads do not tell when a token expires.** -/
theorem noExpiry_iff {payload : String} :
    NoExpiry payload ↔ (segmentBytes? payload).bind TokenClaims.readExpiry? = none := by
  constructor
  · intro h
    cases h with
    | noBytes h => rw [h, Option.bind_none]
    | noRecord h hstated | missing h hstated | twice h hstated =>
      rw [h, Option.bind_some, TokenClaims.readExpiry?_eq, hstated]
    | noInteger h hstated hinteger =>
      rw [h, Option.bind_some, TokenClaims.readExpiry?_eq, hstated]
      exact hinteger
  · intro h
    cases hbytes : segmentBytes? payload with
    | none => exact .noBytes hbytes
    | some bs =>
      rw [hbytes, Option.bind_some, TokenClaims.readExpiry?_eq] at h
      rcases hstated : statedExpiries bs with _ | _ | ⟨t, _ | ⟨t', ts⟩⟩
      · exact .noRecord hbytes hstated
      · exact .missing hbytes hstated
      · rw [hstated] at h
        exact .noInteger hbytes hstated h
      · exact .twice hbytes hstated

/-! ## Answers -/

/-- An answer that is of no use at an instant, and the fault that it comes to. -/
inductive Useless (now : Int64) : Except ClientFault String → ClientFault → Prop where
  /-- No token comes. -/
  | fault (why : ClientFault) : Useless now (.error why) why
  /-- The token is too large. -/
  | tooLarge {token : String} (h : maxTokenBytes < (Utf8.ofString token).length) :
    Useless now (.ok token) (.invalidToken "The token is too large")
  /-- The token does not have three segments. -/
  | noSegments {token : String} (h : Segments.split token = .error .malformed) :
    Useless now (.ok token) (.invalidToken "The token is malformed")
  /-- The token does not tell when it expires. -/
  | noExpiry {token : String} {s : Segments} (h : Segments.split token = .ok s)
      (hexpiry : NoExpiry s.payload) :
    Useless now (.ok token) (.invalidToken "The token is malformed")
  /-- No header can carry the token. -/
  | noHeader {token : String} {expiresAt : Int64} (h : Token.expiry token = .ok expiresAt)
      (hheader : ¬ (Utf8.ofString (Credential.headerOf token)).all Http.isValueByte = true) :
    Useless now (.ok token) (.invalidToken "token is not a valid header value")
  /-- The token expired before, or expires at the instant. -/
  | expired {token : String} {c : Credential} (h : Credential.ofToken token = .ok c)
      (hexpired : c.expiresAt ≤ now) :
    Useless now (.ok token) (.alreadyExpired c.expiresAt)

/-- Only a text that is too large is reported as such. -/
theorem Segments.split_eq_tooLarge_iff {token : String} :
    split token = .error .tooLarge ↔ maxTokenBytes < (Utf8.ofString token).length := by
  constructor
  · intro h
    rw [split] at h
    split at h
    · assumption
    · split at h
      · split at h
        · exact absurd h (by simp)
        · exact absurd h (by simp)
      · exact absurd h (by simp)
  · exact split_of_large

namespace Credential

variable {now : Int64} {token : String} {why : ClientFault}

/-- Why a token makes no credential. -/
theorem useless_of_ofToken (h : ofToken token = .error why) : Useless now (.ok token) why := by
  cases hsplit : Segments.split token with
  | error fault =>
    rw [ofToken_of_not_split hsplit] at h
    obtain rfl := Except.error.inj h
    cases fault with
    | tooLarge => exact .tooLarge (Segments.split_eq_tooLarge_iff.1 hsplit)
    | malformed => exact .noSegments hsplit
  | ok s =>
    rw [ofToken] at h
    cases hexpiry : Token.expiry token with
    | error fault =>
      rw [hexpiry] at h
      obtain rfl := Except.error.inj h
      rw [Token.expiry_of_split hsplit] at hexpiry
      split at hexpiry
      · exact absurd hexpiry (by simp)
      · next hnone =>
        obtain rfl := Except.error.inj hexpiry
        exact .noExpiry hsplit (noExpiry_iff.2 hnone)
    | ok expiresAt =>
      rw [hexpiry] at h
      dsimp only at h
      split at h
      · exact absurd h (by simp)
      · next hheader =>
        obtain rfl := Except.error.inj h
        exact .noHeader hexpiry hheader

end Credential

namespace CredentialCache

variable {now : Int64} {token : String} {why : ClientFault}

theorem accept_of_fault (h : Credential.ofToken token = .error why) :
    accept now (.ok token) = .error why := by
  simp only [accept, bind, Except.bind, h]

theorem accept_of_credential {c : Credential} (h : Credential.ofToken token = .ok c) :
    accept now (.ok token)
      = if c.expiresAt ≤ now then .error (.alreadyExpired c.expiresAt) else .ok c := by
  simp only [accept, bind, Except.bind, h, Credential.isExpired, decide_eq_true_eq]
  split <;> rfl

/-- **Which answers are of no use, and why.** -/
theorem accept_eq_error_iff {answer : Except ClientFault String} :
    accept now answer = .error why ↔ Useless now answer why := by
  constructor
  · intro h
    cases answer with
    | error fault =>
      obtain rfl : fault = why := Except.error.inj h
      exact .fault fault
    | ok token =>
      cases hc : Credential.ofToken token with
      | error fault =>
        rw [accept_of_fault hc] at h
        obtain rfl := Except.error.inj h
        exact Credential.useless_of_ofToken hc
      | ok c =>
        rw [accept_of_credential hc] at h
        split at h
        · next hexpired =>
          obtain rfl := Except.error.inj h
          exact .expired hc hexpired
        · exact absurd h (by simp)
  · intro h
    cases h with
    | fault => rfl
    | tooLarge hsize =>
      exact accept_of_fault (Credential.ofToken_of_not_split (Segments.split_of_large hsize))
    | noSegments hsplit => exact accept_of_fault (Credential.ofToken_of_not_split hsplit)
    | noExpiry hsplit hexpiry =>
      refine accept_of_fault ?_
      rw [Credential.ofToken, Token.expiry_of_split hsplit, noExpiry_iff.1 hexpiry]
      rfl
    | noHeader hexpiry hheader =>
      refine accept_of_fault ?_
      rw [Credential.ofToken, hexpiry]
      exact if_neg hheader
    | expired hc hexpired => rw [accept_of_credential hc, if_pos hexpired]

end CredentialCache

end BearerBridge
