/-
# What accepted settings promise

Settings are checked once, when the bridge is set up, and after that nothing about them can fail:
whoever has a name and an authentication type is issued a token, which lives as long as the settings
say.  Tokens are signed when there is a key and not otherwise, and neither a key nor an algorithm for
signing is ever left unused.

* `SigningAlgorithm.parse_eq_ok_iff` : which algorithm a variable names;
* `Signing`, `signing_of_readSigning` : what variables say about signing;
* `Spells`, `spells_of_read` : the settings that variables spell, one after the other;
* `exists_states_issue` : what a policy issues to whoever has a name;
* `Coherent`, `coherent_of_read` : what settings promise, and that they keep it.
-/
import BearerBridge.Proofs.Issuance
import BearerBridge.Proofs.Outcome
import BearerBridge.Settings

namespace BearerBridge

/-! ## Variables -/

/-- A variable is given when its value is not blank. -/
theorem Settings.Variables.given?_eq_some_iff {vars : Variables} {name value : String} :
    vars.given? name = some value
      ↔ ∃ raw, vars.get? name = some raw ∧ isBlank raw = false ∧ value = trim raw := by
  rw [given?, Option.bind_eq_some_iff]
  refine exists_congr fun raw => and_congr_right fun _ => ?_
  rw [nonBlank?]
  cases isBlank raw <;> simp [eq_comm]

/-- The values that are given have been trimmed. -/
theorem Settings.Variables.trim_of_given? {vars : Variables} {name value : String}
    (h : vars.given? name = some value) : trim value = value := by
  obtain ⟨raw, -, -, rfl⟩ := given?_eq_some_iff.1 h
  exact trim_trim raw

/-! ## Algorithms -/

namespace SigningAlgorithm

/-- Which algorithm a setting names. -/
theorem parse_eq_ok_iff {s : String} {a : SigningAlgorithm} :
    parse s = .ok a ↔ Ascii.upper (trim s) = a.name := by
  rw [parse]
  constructor
  · intro h
    split at h
    · next a' hname =>
      obtain rfl := Except.ok.inj h
      rw [ofName?] at hname
      have hword := List.find?_some hname
      exact (eq_of_beq hword).symm
    · exact absurd h (by simp)
  · intro h
    rw [h, ofName?_name]

/-- The word for no signing is the name of no algorithm. -/
theorem sameWord_unsignedWord {s : String} {a : SigningAlgorithm} (htrim : trim s = s)
    (h : parse s = .ok a) : Ascii.sameWord s Settings.unsignedWord = false := by
  rw [parse_eq_ok_iff, htrim] at h
  -- it is shorter than any name
  have hlength : s.toList.length = a.name.toList.length := by
    rw [← h, Ascii.upper, String.toList_ofList, List.length_map]
  rw [Ascii.sameWord, beq_eq_false_iff_ne]
  intro he
  have hshort := congrArg (fun t => t.toList.length) he
  simp only [Ascii.lower, String.toList_ofList, List.length_map, hlength] at hshort
  cases a <;> exact absurd hshort (by decide)

end SigningAlgorithm

namespace Settings

variable {vars : Variables} {s : Settings}

/-! ## One setting after the other -/

/-- The path of the token page is absolute. -/
theorem head?_of_readTokenPath {path : String} (h : readTokenPath vars = .ok path) :
    path.toList.head? = some '/' := by
  rw [readTokenPath] at h
  split at h
  · next rest hpath =>
    obtain rfl := Except.ok.inj h
    rw [hpath, List.head?_cons]
  · exact absurd h (by simp)

/-- Which algorithm is read: the one that is named, unless none is or the word for no signing
stands in its place. -/
theorem readAlgorithm_eq_ok_iff {named : Option String} {algorithm : Option SigningAlgorithm} :
    readAlgorithm named = .ok algorithm
      ↔ match algorithm with
        | none => ∀ word, named = some word → Ascii.sameWord word unsignedWord = true
        | some a => ∃ word, named = some word ∧ Ascii.sameWord word unsignedWord = false
          ∧ SigningAlgorithm.parse word = .ok a := by
  cases named with
  | none => cases algorithm <;> simp [readAlgorithm]
  | some word =>
    rw [readAlgorithm]
    cases hword : Ascii.sameWord word unsignedWord with
    | true => cases algorithm <;> simp [hword]
    | false =>
      cases hparse : SigningAlgorithm.parse word <;> cases algorithm <;> simp [hword, hparse]

/-- What variables say about signing: nothing, or a key that is long enough, with the algorithm that
is named or else the usual one. -/
inductive Signing (vars : Variables) : Option (List UInt8 × SigningAlgorithm) → Prop where
  | unsigned (hkey : vars.given? "TOKEN_SIGNING_KEY" = none)
      (halgorithm : ∀ word, vars.given? "TOKEN_SIGNING_ALGORITHM" = some word →
        Ascii.sameWord word unsignedWord = true) : Signing vars none
  | signed (encoded : String) (key : List UInt8) (algorithm : SigningAlgorithm)
      (hkey : vars.given? "TOKEN_SIGNING_KEY" = some encoded)
      (hdecode : Base64.decode Base64.standard (Utf8.ofString encoded) = .ok key)
      (hlength : minKeyBytes ≤ key.length)
      (halgorithm : match vars.given? "TOKEN_SIGNING_ALGORITHM" with
        | none => algorithm = .hs256
        | some word => SigningAlgorithm.parse word = .ok algorithm) :
      Signing vars (some (key, algorithm))

/-- **Key and algorithm are read together**, and neither is ever left out. -/
theorem signing_of_readSigning {signing : Option (List UInt8 × SigningAlgorithm)}
    (h : readSigning vars = .ok signing) : Signing vars signing := by
  rw [readSigning] at h
  obtain ⟨algorithm, halgorithm, h⟩ := bind_eq_ok_iff.1 h
  rw [readAlgorithm_eq_ok_iff] at halgorithm
  cases hkey : vars.given? "TOKEN_SIGNING_KEY" with
  | none =>
    rw [hkey] at h
    cases algorithm with
    | some a => exact absurd h throw_ne_ok
    | none =>
      obtain rfl := Except.ok.inj h
      exact .unsigned hkey halgorithm
  | some encoded =>
    rw [hkey] at h
    dsimp only at h
    split at h
    · exact absurd h throw_bind_ne_ok
    next hunused =>
    split at h
    · exact absurd h throw_ne_ok
    next key hdecode =>
    split at h
    · exact absurd h throw_bind_ne_ok
    next hlength =>
    obtain rfl := Except.ok.inj h
    refine .signed encoded key _ hkey hdecode (Nat.le_of_not_lt hlength) ?_
    -- a key without an algorithm is faulty unless none is named
    cases algorithm with
    | none =>
      cases hnamed : vars.given? "TOKEN_SIGNING_ALGORITHM" with
      | none => rfl
      | some word => exact absurd hunused (by simp [hnamed])
    | some a =>
      obtain ⟨word, hnamed, -, hparse⟩ := halgorithm
      rw [hnamed]
      exact hparse

/-- The life of a token is at least a second and at most a day. -/
theorem bounds_of_readMaxAge {seconds : UInt64} (h : readMaxAge vars = .ok seconds) :
    1 ≤ seconds.toNat ∧ seconds.toNat ≤ longestMaxAge := by
  rw [readMaxAge] at h
  split at h
  · obtain rfl := Except.ok.inj h
    decide
  · split at h
    · exact absurd h (by simp)
    · split at h
      · exact absurd h (by simp)
      · next hrange =>
        obtain rfl := Except.ok.inj h
        omega

/-- The kind of the reserved claim may be that. -/
theorem reservedClaimFault?_of_readReservedClaim {name : String}
    (h : readReservedClaim vars = .ok name) : reservedClaimFault? name = none := by
  rw [readReservedClaim] at h
  split at h
  · exact absurd h (by simp)
  · next hfault =>
    obtain rfl := Except.ok.inj h
    exact hfault

/-! ## All settings -/

/-- Settings are what variables spell, one after the other, as far as issuing goes. -/
structure Spells (vars : Variables) (s : Settings) : Prop where
  tokenPath : readTokenPath vars = .ok s.tokenPath
  signing : readSigning vars = .ok s.policy.signing?
  maxAge : readMaxAge vars = .ok s.policy.maxAge
  reserved : readReservedClaim vars = .ok s.policy.authenticationTypeClaim

theorem spells_of_read (h : read vars = .ok s) : Spells vars s := by
  rw [read] at h
  obtain ⟨tokenPath, hpath, h⟩ := bind_eq_ok_iff.1 h
  obtain ⟨signing, hsigning, h⟩ := bind_eq_ok_iff.1 h
  obtain ⟨maxAge, hage, h⟩ := bind_eq_ok_iff.1 h
  obtain ⟨reserved, hreserved, h⟩ := bind_eq_ok_iff.1 h
  obtain ⟨proxies, -, h⟩ := bind_eq_ok_iff.1 h
  obtain ⟨headers, -, h⟩ := bind_eq_ok_iff.1 h
  obtain ⟨drain, -, h⟩ := bind_eq_ok_iff.1 h
  obtain rfl := Except.ok.inj h
  refine ⟨hpath, ?_, hage, hreserved⟩
  rw [hsigning]
  cases signing <;> rfl

/-- Which settings are signed: those with a key. -/
theorem Signing.isSome_iff {signing : Option (List UInt8 × SigningAlgorithm)}
    (h : Signing vars signing) :
    signing.isSome = true ↔ (vars.given? "TOKEN_SIGNING_KEY").isSome = true := by
  cases h with
  | unsigned hkey => simp [hkey]
  | signed encoded key algorithm hkey => simp [hkey]

/-- An algorithm for signing is never named in vain. -/
theorem Signing.isSome_of_parse {signing : Option (List UInt8 × SigningAlgorithm)}
    (h : Signing vars signing) {word : String} {a : SigningAlgorithm}
    (hnamed : vars.given? "TOKEN_SIGNING_ALGORITHM" = some word)
    (hparse : SigningAlgorithm.parse word = .ok a) : signing.isSome = true := by
  cases h with
  | signed => rfl
  | unsigned hkey halgorithm =>
    have hword := halgorithm word hnamed
    rw [SigningAlgorithm.sameWord_unsignedWord (Variables.trim_of_given? hnamed) hparse] at hword
    exact absurd hword (by decide)

end Settings

/-! ## Issuing -/

/-- A token states claims, if they are what its payload says, whoever may trust it. -/
def Token.States (token : String) (c : TokenClaims) : Prop :=
  ∃ s : Segments, s.WellFormed ∧ token = s.text
    ∧ (segmentBytes? s.payload).bind TokenClaims.read? = some c

namespace Policy

variable {policy : Policy} {p : Principal} {now : Int64}

/-- **Whoever has a name and an authentication type is issued a token**, which states what the
policy wants it to state. -/
theorem exists_states_issue (hnamed : p.isNameless = false)
    (hreserved : reservedClaimFault? policy.authenticationTypeClaim = none) (now : Int64) :
    ∃ token, policy.issue p now = .ok token
      ∧ Token.States token (policy.statedClaims p now).regroup := by
  refine ⟨_, issue_eq_ok_iff.2 ⟨hnamed, hreserved, rfl⟩, _, wellFormed_segments,
    encode_eq_text, ?_⟩
  rw [read?_payload_segments]
  exact TokenClaims.read?_chars_regroup_iff.2 fun x hx => kind_of_mem_statedClaims hreserved hx

/-- A token lives as long as its policy says, unless the end of all instants is nearer. -/
theorem expiry_sub_issuedAt (p : Principal) (hage : policy.maxAge.toNat ≤ Int64.maxValue.toInt)
    (hnow : now.toInt ≤ Int64.maxValue.toInt - policy.maxAge.toNat) :
    (policy.statedClaims p now).expiry.toInt - (policy.statedClaims p now).issuedAt.toInt
      = policy.maxAge.toNat := by
  have hexpiry : (policy.statedClaims p now).expiry.toInt = _ := policy.toInt_after_lifetime now
  have hissued : (policy.statedClaims p now).issuedAt = now := rfl
  rw [hexpiry, hissued]
  omega

end Policy

namespace Settings

variable {vars : Variables} {s : Settings}

/-- What settings that variables spell promise. -/
structure Coherent (vars : Variables) (s : Settings) : Prop where
  /-- Tokens are signed exactly when there is a key. -/
  isSigned_iff : s.policy.isSigned = true
    ↔ ∃ value, vars.get? "TOKEN_SIGNING_KEY" = some value ∧ isBlank value = false
  /-- The key is the one that is spelled, long enough, and its algorithm the one that is named. -/
  key : ∀ value, vars.get? "TOKEN_SIGNING_KEY" = some value → isBlank value = false →
    ∃ key algorithm, s.policy.signing? = some (key, algorithm)
      ∧ Base64.decode Base64.standard (Utf8.ofString (trim value)) = .ok key
      ∧ minKeyBytes ≤ key.length
      ∧ match vars.given? "TOKEN_SIGNING_ALGORITHM" with
        | none => algorithm = .hs256
        | some word => SigningAlgorithm.parse word = .ok algorithm
  /-- Nobody names an algorithm for signing and gets tokens that are not signed. -/
  isSigned_of_algorithm : ∀ word algorithm,
    vars.given? "TOKEN_SIGNING_ALGORITHM" = some word →
      SigningAlgorithm.parse word = .ok algorithm → s.policy.isSigned = true
  /-- The reserved claim is taken for no other. -/
  reserved : Kind.isRegistered s.policy.authenticationTypeClaim = false
    ∧ Kind.isBridged s.policy.authenticationTypeClaim = false
  tokenPath : s.tokenPath.toList.head? = some '/'
  maxAge : 1 ≤ s.policy.maxAge.toNat ∧ s.policy.maxAge.toNat ≤ longestMaxAge
  /-- Whoever has a name and an authentication type is issued a token that lives as long as the
  settings say. -/
  issue : ∀ (p : Principal) (now : Int64), isBlank p.name = false → p.authenticationType ≠ "" →
    now.toInt ≤ Int64.maxValue.toInt - longestMaxAge →
      ∃ token c, s.policy.issue p now = .ok token ∧ Token.States token c ∧ c.issuedAt = now
        ∧ c.expiry.toInt - c.issuedAt.toInt = s.policy.maxAge.toNat

/-- **Settings keep what they promise**, whatever variables spell them. -/
theorem coherent_of_read (h : read vars = .ok s) : Coherent vars s := by
  have hspells := spells_of_read h
  have hsigning := signing_of_readSigning hspells.signing
  have hage := bounds_of_readMaxAge hspells.maxAge
  have hreserved := reservedClaimFault?_of_readReservedClaim hspells.reserved
  have hgiven : (vars.given? "TOKEN_SIGNING_KEY").isSome = true
      ↔ ∃ value, vars.get? "TOKEN_SIGNING_KEY" = some value ∧ isBlank value = false := by
    rw [Option.isSome_iff_exists]
    constructor
    · rintro ⟨encoded, hkey⟩
      obtain ⟨value, hget, hblank, -⟩ := Variables.given?_eq_some_iff.1 hkey
      exact ⟨value, hget, hblank⟩
    · rintro ⟨value, hget, hblank⟩
      exact ⟨trim value, Variables.given?_eq_some_iff.2 ⟨value, hget, hblank, rfl⟩⟩
  exact {
    isSigned_iff := hsigning.isSome_iff.trans hgiven
    key := by
      intro value hget hblank
      have hkey := Variables.given?_eq_some_iff.2 ⟨value, hget, hblank, rfl⟩
      generalize s.policy.signing? = signing at hsigning
      cases hsigning with
      | unsigned hnone => exact absurd (hnone.symm.trans hkey) (by simp)
      | signed encoded key algorithm hsome hdecode hlength halgorithm =>
        obtain rfl := Option.some.inj (hsome.symm.trans hkey)
        exact ⟨key, algorithm, rfl, hdecode, hlength, halgorithm⟩
    isSigned_of_algorithm := fun word a hnamed hparse => hsigning.isSome_of_parse hnamed hparse
    reserved := (reservedClaimFault?_eq_none_iff.1 hreserved).2
    tokenPath := head?_of_readTokenPath hspells.tokenPath
    maxAge := hage
    issue := by
      intro p now hname htype hnow
      have hnamed : p.isNameless = false := by
        rw [Principal.isNameless, hname, Bool.false_or, beq_eq_false_iff_ne]
        exact htype
      have hday : (longestMaxAge : Int) ≤ Int64.maxValue.toInt := by decide
      obtain ⟨token, hissue, hstates⟩ := Policy.exists_states_issue hnamed hreserved now
      exact ⟨token, _, hissue, hstates, rfl,
        Policy.expiry_sub_issuedAt p (by omega) (by omega)⟩ }

/-- The variables of a bridge that signs its tokens, with blanks around the key and the longest life
that tokens may have. -/
def signedVariables : Variables :=
  [("TOKEN_SIGNING_KEY", " MDEyMzQ1Njc4OWFiY2RlZjAxMjM0NTY3ODlhYmNkZWY= "),
    ("TOKEN_SIGNING_ALGORITHM", "hs512"), ("TOKEN_MAX_AGE_SECONDS", "86400")]

/-- Such a bridge has a key of 32 bytes, and it issues tokens until the last day of all instants. -/
theorem coherent_of_read_signedVariables :
    ∃ s key token c, read signedVariables = .ok s
      ∧ s.policy.signing? = some (key, .hs512) ∧ minKeyBytes ≤ key.length
      ∧ s.policy.issue ⟨"alice", "Negotiate", []⟩ (Int64.maxValue - 86400) = .ok token
      ∧ Token.States token c ∧ c.issuedAt = Int64.maxValue - 86400
      ∧ c.expiry.toInt - c.issuedAt.toInt = 86400 := by
  have hsettings : ((read signedVariables).toOption.map fun s => s.policy.maxAge)
      = some 86400 := by
    decide +kernel
  obtain ⟨s, hs, hage⟩ := Option.map_eq_some_iff.1 hsettings
  have hread := toOption_eq_some_iff.1 hs
  have hcoherent := coherent_of_read hread
  obtain ⟨key, algorithm, hsigning, -, hlength, halgorithm⟩ :=
    hcoherent.key " MDEyMzQ1Njc4OWFiY2RlZjAxMjM0NTY3ODlhYmNkZWY= " rfl (by decide)
  have hnamed : signedVariables.given? "TOKEN_SIGNING_ALGORITHM" = some "hs512" := by
    decide +kernel
  rw [hnamed] at halgorithm
  obtain rfl : SigningAlgorithm.hs512 = algorithm :=
    Except.ok.inj ((SigningAlgorithm.parse_eq_ok_iff.2 (by decide +kernel)).symm.trans halgorithm)
  obtain ⟨token, c, hissue, hstates, hissued, hlife⟩ :=
    hcoherent.issue ⟨"alice", "Negotiate", []⟩ (Int64.maxValue - 86400) (by decide) (by decide)
      (by decide)
  rw [hage] at hlife
  exact ⟨s, key, token, c, hread, hsigning, hlength, hissue, hstates, hissued, hlife⟩

end Settings

end BearerBridge
