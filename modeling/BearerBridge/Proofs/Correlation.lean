/-
# Following a principal through the log

The log does not tell the names of principals; it tells a short digest, so that events about one
principal can be found again.  The handshake and the issuer digest the name that the handshake gave
to the principal.  The validator digests the subject of the token, which is the canonical form of
that name.  So the trail of a principal whose name has no domain runs through all three events, and
that of any other breaks between issuing and validating.

* `canonicalName_eq_self_iff` : which names are canonical already;
* `events_of_round_trip` : what the three parts report about one principal;
* `trail` : where its trail breaks.
-/
import BearerBridge.Proofs.Reports
import BearerBridge.Proofs.Transparency

namespace BearerBridge

/-! ## Names with a domain -/

/-- A name has a domain when something stands before its first backslash, and something after. -/
def HasDomain (name : String) : Prop :=
  ∃ domain user, '\\' ∉ domain ∧ domain ≠ [] ∧ user ≠ []
    ∧ name.toList = domain ++ '\\' :: user

/-- The canonical form puts an at sign in the place of the first backslash. -/
theorem canonicalName_of_hasDomain {name : String} (h : HasDomain name) :
    canonicalName name ≠ name := by
  obtain ⟨domain, user, hfirst, hdomain, huser, hname⟩ := h
  have hcanonical := toList_canonicalName hname hfirst hdomain huser
  -- so it has one backslash less
  intro he
  have hcount := congrArg (List.count '\\') (hcanonical.symm.trans ((congrArg _ he).trans hname))
  have hat : ('@' == '\\') = false := by decide
  rw [List.count_append, List.count_append, List.count_cons, List.count_cons, hat,
    List.count_eq_zero_of_not_mem hfirst] at hcount
  simp only [beq_self_eq_true, Bool.false_eq_true, if_true, if_false] at hcount
  omega

/-- **Which names are canonical already**: those without a domain. -/
theorem canonicalName_eq_self_iff {name : String} :
    canonicalName name = name ↔ ¬ HasDomain name := by
  constructor
  · exact fun he hdomain => canonicalName_of_hasDomain hdomain he
  · intro hnone
    rw [canonicalName]
    split
    · next domain user hsplit =>
      obtain ⟨hfirst, hname⟩ := eq_append_of_atFirst? hsplit
      refine if_pos (Decidable.byContradiction fun hparts => ?_)
      rw [not_or] at hparts
      exact hnone ⟨domain, user, hfirst, hparts.1, hparts.2, hname⟩
    · rfl

/-! ## The trail of a principal -/

/-- The digest by which an event tells principals apart, if it is about one. -/
def Event.principal? (e : Event) : Option String :=
  e.fields.lookup "principal"

/-- An issued token is taken for nobody but the principal. -/
theorem Policy.eq_of_identify_issued {policy : Policy} {p : Principal} {t₀ t : Int64}
    {token : String} {i : Identity} (hissue : policy.issue p t₀ = .ok token)
    (hidentify : policy.identify token t = .ok i) :
    i = policy.identityFor p t₀ (Instant.after t₀ policy.lifetime) := by
  obtain ⟨s, c, hauth, -⟩ := exists_authenticates_of_identify hidentify
  rw [identify_issued hissue hauth.size] at hidentify
  split at hidentify
  · exact absurd hidentify (by simp)
  · split at hidentify
    · exact absurd hidentify (by simp)
    · exact (Except.ok.inj hidentify).symm

section Trail

variable {authenticator : Authenticator} {r : Http.Request} {policy : Policy} {p : Principal}
  {t₀ t₁ : Int64} {micros : Nat} {token : String} {i : Identity}

/-- **What the three parts report about one principal**, from the handshake to the validation of
its token. -/
theorem events_of_round_trip (hentry : (admitHandshake authenticator r).value = .ok p)
    (hissue : ((Issuer.mk policy []).issue p t₀ micros).value = .ok token)
    (hvalidate : ((Validator.ofPolicy policy).validate token t₁).value = .ok i) :
    (admitHandshake authenticator r).events
        = (authenticator r).events
          ++ [.handshakeAccepted (correlation p.name) p.authenticationType]
      ∧ ((Issuer.mk policy []).issue p t₀ micros).events
        = [.tokenIssued (correlation p.name) p.authenticationType
            (Instant.after t₀ policy.lifetime) policy.isSigned]
      ∧ ((Validator.ofPolicy policy).validate token t₁).events
        = [.tokenValidated (correlation (canonicalName p.name)) p.authenticationType] := by
  have hissued := hissue
  rw [Issuer.value_issue_of_no_hooks] at hissued
  have hidentify := Validator.value_validate_eq_ok_iff.1 hvalidate
  obtain rfl := Policy.eq_of_identify_issued hissued hidentify
  refine ⟨events_admitHandshake hentry, Issuer.events_issue_of_value hissue, ?_⟩
  have haccept : (Validator.ofPolicy policy).policy.identify token t₁ = .ok _ := hidentify
  rw [Validator.events_validate, Policy.events_check_of_ne (by simp [haccept]), haccept]
  rfl

/-- **Where the trail of a principal breaks.**  Take a principal that the handshake lets in, to whom
an issuer without hooks issues a token, and let the validator of the same policy accept the token.
Each of the three reports one event about the principal.  The first two tell the digest of its
name, the third that of its canonical name.  So the trail runs through when the name has no domain;
otherwise the last event tells the digest of another text. -/
theorem trail (hentry : (admitHandshake authenticator r).value = .ok p)
    (hissue : ((Issuer.mk policy []).issue p t₀ micros).value = .ok token)
    (hvalidate : ((Validator.ofPolicy policy).validate token t₁).value = .ok i) :
    ∃ accepted issued validated : Event,
      ((admitHandshake authenticator r).events = (authenticator r).events ++ [accepted]
        ∧ accepted.message = "Handshake identity accepted"
        ∧ accepted.principal? = some (correlation p.name))
      ∧ (((Issuer.mk policy []).issue p t₀ micros).events = [issued]
        ∧ issued.message = "Token issued"
        ∧ issued.principal? = some (correlation p.name))
      ∧ (((Validator.ofPolicy policy).validate token t₁).events = [validated]
        ∧ validated.message = "Token validated"
        ∧ validated.principal? = some (correlation (canonicalName p.name)))
      ∧ (¬ HasDomain p.name → validated.principal? = issued.principal?)
      ∧ (HasDomain p.name →
        ∃ other, other ≠ p.name ∧ validated.principal? = some (correlation other)) := by
  obtain ⟨haccepted, hissued, hvalidated⟩ := events_of_round_trip hentry hissue hvalidate
  refine ⟨_, _, _, ⟨haccepted, rfl, rfl⟩, ⟨hissued, rfl, rfl⟩, ⟨hvalidated, rfl, rfl⟩, ?_, ?_⟩
  · intro hnone
    rw [canonicalName_eq_self_iff.2 hnone]
    rfl
  · exact fun hdomain => ⟨_, canonicalName_of_hasDomain hdomain, rfl⟩

end Trail

/-- A principal that passes the handshake on the same machine, and then with its token. -/
theorem local_round_trip {r : Http.Request} {p : Principal}
    (hverified : (Routes.localProxy.authenticate r).value = .ok (some p))
    (hnamed : p.isNameless = false)
    (hsize : (Utf8.encode (Policy.usual.statedClaims p 1000).chars).length ≤ 12000) :
    (admitHandshake Routes.localProxy.authenticate r).value = .ok p
      ∧ ∃ token i, ((Issuer.mk Policy.usual []).issue p 1000 0).value = .ok token
        ∧ ((Validator.ofPolicy Policy.usual).validate token 1000).value = .ok i := by
  have hissue : Policy.usual.issue p 1000
      = .ok (Policy.usual.encode (Policy.usual.statedClaims p 1000)) :=
    Policy.issue_eq_ok_iff.2 ⟨hnamed, by decide, rfl⟩
  have huntil : (1000 : Int64) < Instant.after 1000 Policy.usual.lifetime := by decide +kernel
  have hvalidate := Validator.value_validate_issued (t := 1000) hissue
    (Policy.length_encode_le_max hsize) (by decide) huntil
  exact ⟨value_admitHandshake_iff.2 hverified, _, _,
    (Issuer.value_issue_of_no_hooks ..).trans hissue, hvalidate⟩

/-- A request for whose user the proxy on the same machine states nothing but a name. -/
def localRequest (user : String) : Http.Request :=
  { Routes.assertion with headers := [("x-remote-user", Utf8.ofString user)] }

/-- The trail of a user without a domain runs through. -/
theorem trail_localRequest :
    ∃ p accepted issued validated token,
      (admitHandshake Routes.localProxy.authenticate (localRequest "alice")).events = [accepted]
      ∧ ((Issuer.mk Policy.usual []).issue p 1000 0).events = [issued]
      ∧ ((Validator.ofPolicy Policy.usual).validate token 1000).events = [validated]
      ∧ accepted.principal? = some "2bd806c9" ∧ issued.principal? = some "2bd806c9"
      ∧ validated.principal? = some "2bd806c9" := by
  have hread : (Routes.localProxy.authenticate (localRequest "alice")).value.toOption
      = some (some ⟨"alice", "Negotiate", [⟨Kind.name, "alice"⟩]⟩) := by
    decide +kernel
  have hquiet : (Routes.localProxy.authenticate (localRequest "alice")).events = [] := by
    decide +kernel
  have hdigest : correlation "alice" = "2bd806c9" := by decide +kernel
  have hdomain : ¬ HasDomain "alice" := canonicalName_eq_self_iff.1 (by decide)
  obtain ⟨hentry, token, i, hissue, hvalidate⟩ :=
    local_round_trip (toOption_eq_some_iff.1 hread) (by decide) (by decide +kernel)
  obtain ⟨accepted, issued, validated, ⟨haccepted, -, hname⟩, ⟨hissued, -, hname'⟩,
    ⟨hvalidated, -, -⟩, hsame, -⟩ := trail hentry hissue hvalidate
  rw [hquiet, List.nil_append] at haccepted
  rw [hdigest] at hname hname'
  exact ⟨_, accepted, issued, validated, token, haccepted, hissued, hvalidated, hname, hname',
    (hsame hdomain).trans hname'⟩

/-- The trail of a user with a domain breaks. -/
theorem trail_breaks_assertion :
    ∃ p token i,
      (admitHandshake Routes.localProxy.authenticate Routes.assertion).value = .ok p
      ∧ ((Issuer.mk Policy.usual []).issue p 1000 0).value = .ok token
      ∧ ((Validator.ofPolicy Policy.usual).validate token 1000).value = .ok i
      ∧ (admitHandshake Routes.localProxy.authenticate Routes.assertion).events.map
          Event.principal? = [some "83da4d2f"]
      ∧ ((Issuer.mk Policy.usual []).issue p 1000 0).events.map Event.principal?
        = [some "83da4d2f"]
      ∧ ((Validator.ofPolicy Policy.usual).validate token 1000).events.map Event.principal?
        = [some "d0ecd4b6"] := by
  have hread : (Routes.localProxy.authenticate Routes.assertion).value.toOption
      = some (some (Routes.localProxy.asserted Routes.assertion.headers "CORP\\alice")) := by
    decide +kernel
  have hquiet : (Routes.localProxy.authenticate Routes.assertion).events = [] := by
    decide +kernel
  have hdigest : correlation "CORP\\alice" = "83da4d2f" := by decide +kernel
  have hother : correlation (canonicalName "CORP\\alice") = "d0ecd4b6" := by decide +kernel
  obtain ⟨hentry, token, i, hissue, hvalidate⟩ :=
    local_round_trip (toOption_eq_some_iff.1 hread) (by decide +kernel) (by decide +kernel)
  obtain ⟨haccepted, hissued, hvalidated⟩ := events_of_round_trip hentry hissue hvalidate
  refine ⟨_, token, i, hentry, hissue, hvalidate, ?_, ?_, ?_⟩
  · rw [haccepted, hquiet, ← hdigest]
    rfl
  · rw [hissued, ← hdigest]
    rfl
  · rw [hvalidated, ← hother]
    rfl

end BearerBridge
