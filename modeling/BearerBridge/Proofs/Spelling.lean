/-
# Spellings of the same settings

Whoever sets up the bridge may put blanks around a value, leave other variables beside the ones that
are looked at, and write a blank value for a variable instead of leaving it out.  None of that
changes the settings, nor the fault when there is one, apart from two variables: a blank issuer
switches its check off, and with a blank list of proxies none is trusted, where leaving either out
means the usual one.

* `Variables.tidy`, `Variables.without` : tidied variables, and all but one of them;
* `Variables.Agrees` : variables that give the same;
* `read_congr` : settings depend on what is given, on the issuer and on the proxies;
* `read_spelling` : spellings of the same settings.
-/
import BearerBridge.Bridge
import BearerBridge.Proofs.Acceptance
import BearerBridge.Proofs.Outcome
import BearerBridge.Proofs.Text.Pieces

namespace BearerBridge.Settings

namespace Variables

/-! ## Values of variables -/

/-- The variables that are looked at, their values trimmed. -/
def tidy (vars : Variables) : Variables :=
  (vars.filter fun v => variableNames.contains v.1).map fun v => (v.1, trim v.2)

/-- All variables but one. -/
def without (vars : Variables) (name : String) : Variables :=
  vars.filter (·.1 != name)

variable {vars vars' : Variables} {name name' value : String}

/-- Only the values of a variable count for it. -/
theorem get?_filter {p : String × String → Bool} (hp : ∀ v : String × String, v.1 = name → p v) :
    get? (vars.filter p) name = vars.get? name := by
  rw [get?, get?, ← List.filter_reverse, List.find?_filter]
  congr 2
  funext v
  by_cases hv : v.1 = name
  · simp [hv, hp v hv]
  · simp [hv]

theorem get?_tidy (h : name ∈ variableNames) : vars.tidy.get? name = (vars.get? name).map trim := by
  have hkept : get? (vars.filter fun v => variableNames.contains v.1) name = vars.get? name := by
    refine get?_filter fun v hv => ?_
    rw [hv]
    exact List.contains_iff_mem.2 h
  rw [← hkept, get?, get?, tidy, ← List.map_reverse, List.find?_map, Option.map_map, Option.map_map]
  rfl

theorem get?_without (h : name ≠ name') : (vars.without name').get? name = vars.get? name := by
  refine get?_filter fun v hv => ?_
  rw [hv, bne_iff_ne]
  exact h

theorem get?_without_self : (vars.without name).get? name = none := by
  rw [get?, Option.map_eq_none_iff, List.find?_eq_none]
  intro v hv
  have hother := (List.mem_filter.1 (List.mem_reverse.1 hv)).2
  simpa using hother

/-! ## Variables that give the same -/

/-- Variables that give the same, blank values not being given. -/
def Agrees (vars vars' : Variables) : Prop :=
  ∀ name ∈ variableNames, vars'.given? name = vars.given? name

theorem agrees_tidy (vars : Variables) : vars.Agrees vars.tidy := by
  intro name hname
  rw [given?, given?, get?_tidy hname]
  cases vars.get? name with
  | none => rfl
  | some value =>
    rw [Option.map_some, Option.bind_some, Option.bind_some]
    exact nonBlank?_trim value

/-- A blank value is not given, so leaving it out gives the same. -/
theorem agrees_without (hvalue : vars.get? name = some value) (hblank : trim value = "") :
    vars.Agrees (vars.without name) := by
  intro name' _
  rw [given?, given?]
  by_cases hname : name' = name
  · rw [hname, get?_without_self, hvalue, Option.bind_none, Option.bind_some, nonBlank?_eq,
      if_pos hblank]
  · rw [get?_without hname]

end Variables

variable {vars vars' : Variables}

/-! ## What settings depend on -/

theorem readIssuer_congr (h : vars'.get? "TOKEN_ISSUER" = vars.get? "TOKEN_ISSUER") :
    readIssuer vars' = readIssuer vars := by
  rw [readIssuer, readIssuer, h]

theorem readProxies_congr
    (h : vars'.get? "HANDSHAKE_TRUSTED_PROXIES" = vars.get? "HANDSHAKE_TRUSTED_PROXIES") :
    readProxies vars' = readProxies vars := by
  rw [readProxies, readProxies, h]

/-- **Settings depend on what is given, on the issuer and on the proxies**: when the same is given,
a change of the issuer and of the proxies is all that changes, and faults remain the same. -/
theorem read_congr (toIssuer : Option String → Option String)
    (toProxies : List Address → List Address) (h : vars.Agrees vars')
    (hissuer : readIssuer vars' = toIssuer (readIssuer vars))
    (hproxies : readProxies vars' = toProxies <$> readProxies vars) :
    read vars' = (fun s => { s with
      issuer := toIssuer s.issuer
      trustedProxies := toProxies s.trustedProxies }) <$> read vars := by
  have haddress := h "BIND_ADDRESS" (by decide)
  have haudience := h "TOKEN_AUDIENCE" (by decide)
  have hdefault := h "TOKEN_DEFAULT_AUTH_TYPE" (by decide)
  have hpath : readTokenPath vars' = readTokenPath vars := by
    rw [readTokenPath, readTokenPath, h "TOKEN_PATH" (by decide)]
  have hsigning : readSigning vars' = readSigning vars := by
    rw [readSigning, readSigning, h "TOKEN_SIGNING_ALGORITHM" (by decide),
      h "TOKEN_SIGNING_KEY" (by decide)]
  have hage : readMaxAge vars' = readMaxAge vars := by
    rw [readMaxAge, readMaxAge, h "TOKEN_MAX_AGE_SECONDS" (by decide)]
  have hreserved : readReservedClaim vars' = readReservedClaim vars := by
    rw [readReservedClaim, readReservedClaim, h "TOKEN_AUTH_TYPE_CLAIM" (by decide)]
  have hheaders : readProxyHeaders vars' = readProxyHeaders vars := by
    rw [readProxyHeaders, readProxyHeaders, h "HANDSHAKE_USER_HEADER" (by decide),
      h "HANDSHAKE_AUTH_TYPE_HEADER" (by decide), h "HANDSHAKE_GROUPS_HEADER" (by decide)]
  have hdrain : readDrain vars' = readDrain vars := by
    rw [readDrain, readDrain, h "BRIDGE_DRAIN_SECONDS" (by decide)]
  rw [read, read, hpath, hsigning, hage, hreserved, hproxies, hheaders, hdrain, haddress,
    haudience, hdefault, hissuer]
  simp only [map_bind, bind_map_left, map_pure]

/-- The same settings come of variables that agree when issuer and proxies are the same. -/
theorem read_eq_of_agrees (h : vars.Agrees vars') (hissuer : readIssuer vars' = readIssuer vars)
    (hproxies : readProxies vars' = readProxies vars) : read vars' = read vars :=
  (read_congr id id h hissuer (hproxies.trans (id_map _).symm)).trans (id_map _)

/-! ## Tidied variables -/

/-- Blanks around the values and variables that are not looked at count for nothing. -/
theorem read_tidy (vars : Variables) : read vars.tidy = read vars := by
  have hissuer : readIssuer vars.tidy = readIssuer vars := by
    rw [readIssuer, readIssuer, Variables.get?_tidy (by decide)]
    cases vars.get? "TOKEN_ISSUER" with
    | none => rfl
    | some value => exact nonBlank?_trim value
  have hproxies : readProxies vars.tidy = readProxies vars := by
    rw [readProxies, readProxies, Variables.get?_tidy (by decide)]
    cases vars.get? "HANDSHAKE_TRUSTED_PROXIES" with
    | none => rfl
    | some value =>
      -- a list is split before its entries are trimmed
      rw [Option.map_some, Option.getD_some, Option.getD_some, commaList_trim]
  exact read_eq_of_agrees (Variables.agrees_tidy vars) hissuer hproxies

/-! ## Blank values -/

section Blank

variable {name value : String}

/-- A blank value can be left out, apart from the issuer and the proxies. -/
theorem read_without (hvalue : vars.get? name = some value) (hblank : trim value = "")
    (hissuer : name ≠ "TOKEN_ISSUER") (hproxies : name ≠ "HANDSHAKE_TRUSTED_PROXIES") :
    read (vars.without name) = read vars := by
  refine read_eq_of_agrees (Variables.agrees_without hvalue hblank) ?_ ?_
  · exact readIssuer_congr (Variables.get?_without hissuer.symm)
  · exact readProxies_congr (Variables.get?_without hproxies.symm)

theorem readIssuer_of_blank (hvalue : vars.get? "TOKEN_ISSUER" = some value)
    (hblank : trim value = "") : readIssuer vars = none := by
  rw [readIssuer, hvalue]
  dsimp only
  rw [nonBlank?_eq, if_pos hblank]

theorem readProxies_of_blank (hvalue : vars.get? "HANDSHAKE_TRUSTED_PROXIES" = some value)
    (hblank : trim value = "") : readProxies vars = .ok [] := by
  rw [readProxies, hvalue, Option.getD_some, ← commaList_trim, hblank]
  rfl

/-- The addresses of this host, which are those of the proxies unless the variable is there. -/
def ownAddresses : List Address := [.v4 0x7F00 1, .v6 0 0 0 0 0 0 0 1]

theorem readProxies_of_absent (hvalue : vars.get? "HANDSHAKE_TRUSTED_PROXIES" = none) :
    readProxies vars = .ok ownAddresses := by
  rw [readProxies, hvalue]
  rfl

/-- With a blank issuer the check of the issuer is switched off. -/
theorem issuer_of_blank (hvalue : vars.get? "TOKEN_ISSUER" = some value)
    (hblank : trim value = "") {s : Settings} (h : read vars = .ok s) : s.issuer = none := by
  have hread := read_congr (fun _ => none) id (fun _ _ => rfl) (readIssuer_of_blank hvalue hblank)
    (id_map _).symm
  rw [h] at hread
  exact congrArg Settings.issuer (Except.ok.inj hread)

/-- Without the blank issuer everything but the issuer remains, and that is the usual one. -/
theorem read_without_issuer (hvalue : vars.get? "TOKEN_ISSUER" = some value)
    (hblank : trim value = "") :
    read (vars.without "TOKEN_ISSUER")
      = (fun s => { s with issuer := some "AD AUTHORITY" }) <$> read vars := by
  have husual : readIssuer (vars.without "TOKEN_ISSUER") = some "AD AUTHORITY" := by
    rw [readIssuer, Variables.get?_without_self]
    rfl
  have hproxies : readProxies (vars.without "TOKEN_ISSUER") = readProxies vars :=
    readProxies_congr (Variables.get?_without (by decide))
  exact read_congr (fun _ => some "AD AUTHORITY") id (Variables.agrees_without hvalue hblank)
    husual (hproxies.trans (id_map _).symm)

/-- With a blank list of proxies there is none. -/
theorem trustedProxies_of_blank (hvalue : vars.get? "HANDSHAKE_TRUSTED_PROXIES" = some value)
    (hblank : trim value = "") {s : Settings} (h : read vars = .ok s) :
    s.trustedProxies = [] := by
  have hnone : readProxies vars = (fun _ => []) <$> readProxies vars := by
    rw [readProxies_of_blank hvalue hblank]
    rfl
  have hread := read_congr id (fun _ => []) (fun _ _ => rfl) rfl hnone
  rw [h] at hread
  exact congrArg Settings.trustedProxies (Except.ok.inj hread)

/-- Without the blank list of proxies everything but the proxies remains, and those are on this
host. -/
theorem read_without_proxies (hvalue : vars.get? "HANDSHAKE_TRUSTED_PROXIES" = some value)
    (hblank : trim value = "") :
    read (vars.without "HANDSHAKE_TRUSTED_PROXIES")
      = (fun s => { s with trustedProxies := ownAddresses }) <$> read vars := by
  have hissuer : readIssuer (vars.without "HANDSHAKE_TRUSTED_PROXIES") = readIssuer vars :=
    readIssuer_congr (Variables.get?_without (by decide))
  have hproxies : readProxies (vars.without "HANDSHAKE_TRUSTED_PROXIES")
      = (fun _ => ownAddresses) <$> readProxies vars := by
    rw [readProxies_of_absent Variables.get?_without_self, readProxies_of_blank hvalue hblank]
    rfl
  exact read_congr id (fun _ => ownAddresses) (Variables.agrees_without hvalue hblank) hissuer
    hproxies

end Blank

/-! ## Spellings -/

/-- **Spellings of the same settings.**  Blanks around the values of variables, and variables that
are not looked at, change neither the settings nor the fault.  Nor does it change them to leave out
a blank value, apart from two variables.  A blank issuer means that no token is refused for its
issuer, and without it everything else is the same and the issuer is the usual one.  A blank list of
proxies means that nobody is trusted, and without it everything else is the same and those on this
host are. -/
theorem read_spelling (vars : Variables) :
    read vars.tidy = read vars
    ∧ ∀ name value, vars.get? name = some value → trim value = "" →
      (name ≠ "TOKEN_ISSUER" → name ≠ "HANDSHAKE_TRUSTED_PROXIES" →
        read (vars.without name) = read vars)
      ∧ (name = "TOKEN_ISSUER" →
        (∀ s, read vars = .ok s → s.issuer = none
          ∧ ∀ token now, s.policy.identify token now ≠ .error .issuerMismatch)
        ∧ read (vars.without name)
          = (fun s => { s with issuer := some "AD AUTHORITY" }) <$> read vars)
      ∧ (name = "HANDSHAKE_TRUSTED_PROXIES" →
        (∀ s, read vars = .ok s → s.trustedProxies = [] ∧ ∀ a, s.proxy.trusts a = false)
        ∧ read (vars.without name)
          = (fun s => { s with trustedProxies := ownAddresses }) <$> read vars) := by
  refine ⟨read_tidy vars, fun name value hvalue hblank => ⟨?_, ?_, ?_⟩⟩
  · intro hissuer hproxies
    exact read_without hvalue hblank hissuer hproxies
  · rintro rfl
    refine ⟨fun s hs => ?_, read_without_issuer hvalue hblank⟩
    have hnone := issuer_of_blank hvalue hblank hs
    exact ⟨hnone, Policy.identify_ne_issuerMismatch hnone⟩
  · rintro rfl
    refine ⟨fun s hs => ?_, read_without_proxies hvalue hblank⟩
    have hnone := trustedProxies_of_blank hvalue hblank hs
    refine ⟨hnone, fun a => ?_⟩
    rw [Proxy.trusts, proxy, hnone, List.any_nil]

/-- Variables with blanks, with a variable that is not looked at, and with three blank values. -/
def looseVariables : Variables :=
  [("EDITOR", "vi"), ("TOKEN_PATH", " /sign-in "), ("TOKEN_ISSUER", "\t"),
    ("HANDSHAKE_TRUSTED_PROXIES", " "), ("BRIDGE_DRAIN_SECONDS", "")]

/-- They spell the settings of a bridge that checks no issuer and trusts no proxy.  Tidied, or without
the blank drain period, they spell the same; without the blank issuer the usual one is checked, and
without the blank proxies those on this host are trusted. -/
theorem read_spelling_loose :
    ∃ s, read looseVariables = .ok s ∧ s.tokenPath = "/sign-in" ∧ s.issuer = none
      ∧ s.trustedProxies = []
      ∧ read [("TOKEN_PATH", "/sign-in"), ("TOKEN_ISSUER", ""), ("HANDSHAKE_TRUSTED_PROXIES", ""),
        ("BRIDGE_DRAIN_SECONDS", "")] = .ok s
      ∧ read (looseVariables.without "BRIDGE_DRAIN_SECONDS") = .ok s
      ∧ read (looseVariables.without "TOKEN_ISSUER")
        = .ok { s with issuer := some "AD AUTHORITY" }
      ∧ read (looseVariables.without "HANDSHAKE_TRUSTED_PROXIES")
        = .ok { s with trustedProxies := [.v4 0x7F00 1, .v6 0 0 0 0 0 0 0 1] } := by
  have hpath : ((read looseVariables).toOption.map fun s => s.tokenPath) = some "/sign-in" := by
    decide +kernel
  obtain ⟨s, hs, hpath⟩ := Option.map_eq_some_iff.1 hpath
  have hread := toOption_eq_some_iff.1 hs
  have htidy : looseVariables.tidy = [("TOKEN_PATH", "/sign-in"), ("TOKEN_ISSUER", ""),
      ("HANDSHAKE_TRUSTED_PROXIES", ""), ("BRIDGE_DRAIN_SECONDS", "")] := by
    decide +kernel
  obtain ⟨hspelled, hblank⟩ := read_spelling looseVariables
  obtain ⟨hdrain, -, -⟩ := hblank "BRIDGE_DRAIN_SECONDS" "" (by decide) (by decide)
  obtain ⟨-, hissuer, -⟩ := hblank "TOKEN_ISSUER" "\t" (by decide) (by decide)
  obtain ⟨-, -, hproxies⟩ := hblank "HANDSHAKE_TRUSTED_PROXIES" " " (by decide) (by decide)
  have hwithout := hdrain (by decide) (by decide)
  obtain ⟨hchecked, husual⟩ := hissuer rfl
  obtain ⟨htrusted, hown⟩ := hproxies rfl
  rw [htidy] at hspelled
  rw [hread] at hspelled hwithout husual hown
  exact ⟨s, hread, hpath, (hchecked s hread).1, (htrusted s hread).1, hspelled, hwithout, husual,
    hown⟩

end BearerBridge.Settings
