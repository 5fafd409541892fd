/-
# Where the token page can be asked for

The token page stands at a path from the settings.  What is checked there is that it is absolute,
free of the signs of patterns and not the path of another page.  Requests are stricter: their path
ends at the first `?` or `#`, has no spaces and is not too long.  So a bridge may have a token page
that nobody can ask for, and has one that answers exactly when its path is one that a request can
name.  The other pages do not depend on it.

* `Http.IsRequestPath` : the paths that requests can name;
* `Http.Target.parse?_self`, `Http.isRequestPath_of_parse?` : requests name those and no others;
* `Routes.respond_eq_of_fixed` : the other pages answer alike wherever the token page is;
* `Routes.token_page_reached_iff` : when the token page can be asked for.
-/
import BearerBridge.Proofs.Guards
import Mathlib.Data.List.TakeDrop

namespace BearerBridge

/-! ## Paths of requests -/

namespace Http

/-- A text that a request can name as its path. -/
structure IsRequestPath (path : String) : Prop where
  chars : path.toList.all isPathChar = true
  length : (Utf8.ofString path).length ≤ maxTargetLength

theorem length_encode_le_of_isInfix {cs ds : List Char} (h : cs <:+: ds) :
    (Utf8.encode cs).length ≤ (Utf8.encode ds).length := by
  obtain ⟨before, after, rfl⟩ := h
  rw [Utf8.encode_append, Utf8.encode_append, List.length_append, List.length_append]
  omega

/-- What follows a scheme is the end of a target. -/
theorem suffix_of_scheme? {cs scheme rest : List Char} (h : scheme? cs = some (scheme, rest)) :
    rest <:+ cs := by
  unfold scheme? at h
  split at h
  · next before after hcut =>
    obtain ⟨-, hpair⟩ := Option.ite_none_right_eq_some.1 h
    obtain ⟨-, rfl⟩ := Prod.mk.inj (Option.some.inj hpair)
    rw [eq_append_of_upTo hcut]
    exact ((List.suffix_cons '/' _).trans (List.suffix_cons '/' _)).trans
      ((List.suffix_cons ':' _).trans (List.suffix_append before _))
  · exact absurd h (by simp)

/-- A path that stands in a text, of characters that a path may hold. -/
def IsSpelledPath (path : String) (cs : List Char) : Prop :=
  path.toList.all isPathChar = true ∧ path.toList <:+: cs

/-- A path with a query begins with the path, or with nothing for the root. -/
theorem path_of_pathAndQuery? {cs : List Char} {target : Target}
    (h : pathAndQuery? cs = some target) : target.path = "/" ∨ IsSpelledPath target.path cs := by
  obtain ⟨⟨hchars, -⟩, htarget⟩ := Option.ite_none_right_eq_some.1 h
  have hpath : target.path = if (upTo '?' (upTo '#' cs).1).1 = [] then "/"
      else String.ofList (upTo '?' (upTo '#' cs).1).1 :=
    congrArg Target.path (Option.some.inj htarget).symm
  rw [hpath]
  split
  · exact .inl rfl
  · refine .inr ⟨?_, ?_⟩
    · rwa [String.toList_ofList]
    · rw [String.toList_ofList]
      exact ((prefix_upTo '?' _).trans (prefix_upTo '#' _)).isInfix

namespace Target

/-- The path of a target is spelled in it, unless it is empty, an asterisk or the root. -/
theorem path_of_spelled? {cs : List Char} {target : Target} (h : spelled? cs = some target) :
    target.path ∈ ["", "*", "/"] ∨ IsSpelledPath target.path cs := by
  unfold spelled? at h
  split at h
  · exact absurd h (by simp)
  · rw [← Option.some.inj h]
    exact .inl (by decide)
  · rcases path_of_pathAndQuery? h with hroot | hpath
    · exact .inl (by simp [hroot])
    · exact .inr hpath
  · split at h
    · next scheme rest hscheme =>
      rw [List.span_eq_takeWhile_dropWhile] at h
      obtain ⟨-, hrest⟩ := Option.ite_none_right_eq_some.1 h
      rcases path_of_pathAndQuery? hrest with hroot | ⟨hchars, hinfix⟩
      · exact .inl (by simp [hroot])
      · exact .inr ⟨hchars, hinfix.trans
          ((List.dropWhile_suffix _).trans (suffix_of_scheme? hscheme)).isInfix⟩
    · rw [← Option.some.inj (Option.ite_none_right_eq_some.1 h).2]
      exact .inl (by decide)

/-- **A request can name an absolute path of such a text**: the text itself names it. -/
theorem parse?_self {path : String} (h : IsRequestPath path) (habs : path.toList.head? = some '/') :
    parse? path = some ⟨path, none⟩ := by
  have hnot : ∀ {c : Char}, isPathChar c = false → c ∉ path.toList := by
    intro c hc hmem
    exact absurd (hc.symm.trans (List.all_eq_true.1 h.chars c hmem)) (by decide)
  have hne : path.toList ≠ [] := by
    intro hnil
    rw [hnil] at habs
    exact absurd habs (by decide)
  have hspelled : spelled? path.toList = pathAndQuery? path.toList := by
    obtain ⟨rest, hrest⟩ := List.head?_eq_some_iff.1 habs
    rw [hrest, spelled?]
  rw [parse?, if_pos h.length, hspelled, pathAndQuery?, upTo_of_not_mem (hnot (by decide))]
  dsimp only
  rw [upTo_of_not_mem (hnot (by decide))]
  dsimp only
  rw [if_pos ⟨h.chars, rfl⟩, if_neg hne, String.ofList_toList, Option.map_none]

/-- **A request names no other paths.** -/
theorem isRequestPath_of_parse? {s : String} {target : Target} (h : parse? s = some target) :
    IsRequestPath target.path := by
  obtain ⟨hlength, hspelled⟩ := Option.ite_none_right_eq_some.1 h
  have hfixed : ∀ path ∈ ["", "*", "/"], IsRequestPath path := by
    simp only [List.forall_mem_cons, List.not_mem_nil, false_imp_iff, implies_true, and_true]
    exact ⟨⟨by decide, by decide⟩, ⟨by decide, by decide⟩, ⟨by decide, by decide⟩⟩
  rcases path_of_spelled? hspelled with hmem | ⟨hchars, hinfix⟩
  · exact hfixed _ hmem
  · exact ⟨hchars, Nat.le_trans (length_encode_le_of_isInfix hinfix) hlength⟩

end Target

end Http

/-! ## The token page -/

namespace Routes

variable {path : String} {issuer : Issuer} {validator : Validator} {authenticator : Authenticator}
  {exporter : Exporter} {routes : Routes} {recorded : List Measurement} {moment : Moment}
  {r : Http.Request}

/-- The fixed pages are found wherever the token page is. -/
theorem exists_page?_of_fixed (hfixed : path ∈ fixedPages.map (·.1)) :
    ∃ page, ∀ routes : Routes, routes.page? path = some page := by
  obtain ⟨⟨fixed, page⟩, hmem, rfl⟩ := List.mem_map.1 hfixed
  have hpage : page ≠ .token := by
    rintro rfl
    exact absurd hmem (by simp [fixedPages])
  exact ⟨page, fun routes => (page?_eq_some_iff hpage).2 hmem⟩

/-- The page that is found is all that the token path decides. -/
theorem pageResponse_withPath (routes : Routes) (path : String) (page : Page) :
    Routes.pageResponse { routes with tokenPage := { routes.tokenPage with path } }
      recorded moment r page = routes.pageResponse recorded moment r page := by
  cases page <;> rfl

/-- **The fixed pages answer alike wherever the token page is**, with the same reports. -/
theorem respond_eq_of_fixed (routes : Routes) (path : String)
    (hfixed : r.target.path ∈ fixedPages.map (·.1)) :
    Routes.respond { routes with tokenPage := { routes.tokenPage with path } } recorded moment r
      = routes.respond recorded moment r := by
  obtain ⟨page, hfound⟩ := exists_page?_of_fixed hfixed
  rw [respond_of_page (hfound _), respond_of_page (hfound _), pageResponse_withPath]

/-- What is checked of a token path: no other page has it, and it is absolute and free of the signs
of patterns. -/
structure IsAccepted (path : String) : Prop where
  free : path ∉ fixedPages.map (·.1)
  literal : isLiteralPath path = true

/-- A token path that is not accepted is refused as a fault of the settings. -/
theorem build_eq_of_not_isAccepted (h : ¬ IsAccepted path) :
    ∃ reason, (build path issuer validator authenticator exporter).value
      = .error (.configuration reason) := by
  rw [build]
  split
  · exact ⟨_, rfl⟩
  · next hfree =>
    have hliteral : isLiteralPath path = false := by
      refine Bool.eq_false_iff.2 fun hliteral => h ⟨fun hfixed => hfree ?_, hliteral⟩
      obtain ⟨fixed, hmem, rfl⟩ := List.mem_map.1 hfixed
      exact List.any_eq_true.2 ⟨fixed, hmem, BEq.rfl⟩
    rw [Traced.value_bind, TokenPage.register, hliteral]
    exact ⟨_, rfl⟩

theorem exists_build_eq_ok_iff :
    (∃ routes, (build path issuer validator authenticator exporter).value = .ok routes)
      ↔ IsAccepted path := by
  constructor
  · rintro ⟨routes, hbuild⟩
    by_contra hnot
    obtain ⟨reason, hreason⟩ := build_eq_of_not_isAccepted hnot
    exact absurd (hbuild.symm.trans hreason) (by simp)
  · intro h
    refine ⟨_, build_eq_ok_iff.2 ⟨?_, h.literal, rfl⟩⟩
    rw [List.any_eq_false]
    exact fun fixed hmem he => h.free (List.mem_map.2 ⟨fixed, hmem, eq_of_beq he⟩)

/-- A literal path is absolute. -/
theorem head?_of_isLiteralPath (h : isLiteralPath path = true) :
    path.toList.head? = some '/' := by
  rw [isLiteralPath, Bool.and_eq_true] at h
  exact eq_of_beq h.1

/-- **When the token page can be asked for.**  A token path that no other page has, absolute and
without the signs of patterns, is accepted, and every other one is refused as a fault of the
settings.  The page at an accepted path is found by some request exactly when the path is one that
requests can name; then the path itself is such a request, and whoever passes the handshake gets a
token there, or is told why there is none.  Either way the other pages answer as they do with any
other token path. -/
theorem token_page_reached_iff (path : String) (issuer : Issuer) (validator : Validator)
    (authenticator : Authenticator) (exporter : Exporter) :
    ((∃ routes, (build path issuer validator authenticator exporter).value = .ok routes)
        ↔ IsAccepted path)
      ∧ (¬ IsAccepted path → ∃ reason,
        (build path issuer validator authenticator exporter).value = .error (.configuration reason))
      ∧ ∀ routes, (build path issuer validator authenticator exporter).value = .ok routes →
        ((∃ s target, Http.Target.parse? s = some target ∧ routes.page? target.path = some .token)
          ↔ Http.IsRequestPath path)
        ∧ (Http.IsRequestPath path → Http.Target.parse? path = some ⟨path, none⟩
          ∧ ∀ recorded moment r query p,
            (authenticator (Http.Request.get r path query)).value = .ok (some p) →
            (routes.respond recorded moment (r.get path query)).value
              = match (issuer.issue p moment.now moment.micros).value with
                | .ok token =>
                  (Http.Response.plain 200 token).withHeader "cache-control" "no-store"
                | .error f => f.response)
        ∧ ∀ path' routes',
          (build path' issuer validator authenticator exporter).value = .ok routes' →
          ∀ recorded moment (r : Http.Request), r.target.path ∈ fixedPages.map (·.1) →
            routes'.respond recorded moment r = routes.respond recorded moment r := by
  refine ⟨exists_build_eq_ok_iff, build_eq_of_not_isAccepted, fun routes hbuild => ?_⟩
  obtain ⟨-, hliteral, hroutes⟩ := build_eq_ok_iff.1 hbuild
  have hself : Http.IsRequestPath path → Http.Target.parse? path = some ⟨path, none⟩ :=
    fun hpath => Http.Target.parse?_self hpath (head?_of_isLiteralPath hliteral)
  refine ⟨⟨?_, fun hpath => ⟨path, _, hself hpath, page?_of_build hbuild⟩⟩,
    fun hpath => ⟨hself hpath, fun recorded moment r query p hverified => ?_⟩, ?_⟩
  · rintro ⟨s, target, htarget, hpage⟩
    rw [← (page?_eq_token_iff hbuild).1 hpage]
    exact Http.Target.isRequestPath_of_parse? htarget
  · rw [hroutes] at hbuild ⊢
    exact respond_token (page?_of_build hbuild) hverified
  · intro path' routes' hbuild' recorded moment r hfixed
    obtain ⟨-, -, rfl⟩ := build_eq_ok_iff.1 hbuild'
    rw [hroutes]
    exact respond_eq_of_fixed ⟨⟨path, issuer, authenticator⟩, validator, exporter⟩ path' hfixed

/-- A handshake that everybody passes as one user. -/
def oneUser : Authenticator :=
  fun _ => pure (.ok (some ⟨"CORP\\alice", "Negotiate", []⟩))

/-- A token page behind an accented path can be asked for and answers, and the bridge tells its
health as it does with the usual token path. -/
theorem token_page_reached_iff_accented :
    ∃ routes usual, (build "/jetón" ⟨Policy.usual, []⟩ (.ofPolicy Policy.usual) oneUser
        .detached).value = .ok routes
      ∧ (build "/token" ⟨Policy.usual, []⟩ (.ofPolicy Policy.usual) oneUser
        .detached).value = .ok usual
      ∧ (∃ s target, Http.Target.parse? s = some target
        ∧ routes.page? target.path = some .token)
      ∧ (∀ r : Http.Request,
        (routes.respond [] ⟨1000, 0⟩ (r.get "/jetón" none)).value.status = 200)
      ∧ ∀ r : Http.Request, routes.respond [] ⟨1000, 0⟩ (r.get "/health" none)
        = usual.respond [] ⟨1000, 0⟩ (r.get "/health" none) := by
  obtain ⟨haccepted, -, hreached⟩ := token_page_reached_iff "/jetón" ⟨Policy.usual, []⟩
    (.ofPolicy Policy.usual) oneUser .detached
  obtain ⟨routes, hbuild⟩ := haccepted.2 ⟨by decide, by decide⟩
  obtain ⟨usual, husual⟩ : ∃ usual, (build "/token" ⟨Policy.usual, []⟩
      (.ofPolicy Policy.usual) oneUser .detached).value = .ok usual :=
    exists_build_eq_ok_iff.2 ⟨by decide, by decide⟩
  have hpath : Http.IsRequestPath "/jetón" := ⟨by decide, by decide⟩
  obtain ⟨hfound, hanswer, hfixed⟩ := hreached routes hbuild
  refine ⟨routes, usual, hbuild, husual, hfound.2 hpath, fun r => ?_, fun r => ?_⟩
  · rw [(hanswer hpath).2 [] ⟨1000, 0⟩ r none _ rfl]
    rfl
  · exact (hfixed _ _ husual _ _ _ (by simp [Http.Request.get, fixedPages])).symm

/-- **A bridge may have a token page that nobody can ask for**: a path with a question mark is
accepted, and no request finds it. -/
theorem token_page_out_of_reach :
    ∃ routes, (build "/token?x" ⟨Policy.usual, []⟩ (.ofPolicy Policy.usual) oneUser
        .detached).value = .ok routes
      ∧ ¬ ∃ s target, Http.Target.parse? s = some target
        ∧ routes.page? target.path = some .token := by
  obtain ⟨routes, hbuild⟩ : ∃ routes, (build "/token?x" ⟨Policy.usual, []⟩
      (.ofPolicy Policy.usual) oneUser .detached).value = .ok routes :=
    exists_build_eq_ok_iff.2 ⟨by decide, by decide⟩
  refine ⟨routes, hbuild, ?_⟩
  rintro ⟨s, target, htarget, hpage⟩
  have hrequest := Http.Target.isRequestPath_of_parse? htarget
  rw [(page?_eq_token_iff hbuild).1 hpage] at hrequest
  exact absurd hrequest.chars (by decide)

end Routes

end BearerBridge
