/-
# What a refusal tells the client

A failure is answered in the words of its kind.  Why a token is rejected, what is wrong with the
settings and where signing failed are for the log alone, and only a hook that forbids a request
speaks for itself.  So two requests that are turned away for different reasons of one kind are
answered alike, to the last byte.

* `Failure.SameKind` : failures that differ in what only the operator is told;
* `Failure.response_eq_iff` : those and no others are answered alike;
* `Failure.mem_headers_response_iff` : how the client is asked to authenticate;
* `value_bearerToken_eq_ok_iff` : what the bridge takes for the bearer token of a request;
* `Routes.refusals_reveal_no_cause` : two requests for the protected page that are turned away.
-/
import BearerBridge.Proofs.HookPipeline
import BearerBridge.Proofs.Json.Members
import BearerBridge.Proofs.Pages

namespace BearerBridge

/-- A header is added to the others. -/
theorem Http.Response.mem_headers_withHeader {response : Response} {name value : String}
    {header : String × String} :
    header ∈ (response.withHeader name value).headers
      ↔ header = (name, value) ∨ header ∈ response.headers := by
  have hparts : header ∈ response.headers ↔ header ∈ response.headers.takeWhile (·.1 < name)
      ∨ header ∈ response.headers.dropWhile (·.1 < name) := by
    rw [← List.mem_append, List.takeWhile_append_dropWhile]
  rw [hparts, withHeader, List.mem_append, List.mem_cons]
  exact or_left_comm

/-! ## Failures of one kind -/

namespace Failure

/-- Failures that differ in what only the operator is told: the reason why a token is rejected,
and the texts about settings and signing. -/
inductive SameKind : Failure → Failure → Prop
  | same (f : Failure) : SameKind f f
  | invalidToken (why why' : Rejection) : SameKind (.invalidToken why) (.invalidToken why')
  | configuration (reason reason' : String) :
      SameKind (.configuration reason) (.configuration reason')
  | crypto (reason reason' : String) : SameKind (.crypto reason) (.crypto reason')

variable {f f' : Failure}

/-- The client is told the same about failures of one kind, and about no others. -/
theorem sameKind_iff : f.SameKind f' ↔ f.code = f'.code ∧ f.clientMessage = f'.clientMessage := by
  constructor
  · rintro (_ | _ | _ | _) <;> exact ⟨rfl, rfl⟩
  · rintro ⟨hcode, hmessage⟩
    -- the word alone tells the kinds apart
    cases f <;> cases f' <;> simp only [code, String.reduceEq] at hcode
    case forbidden.forbidden reason reason' =>
      obtain rfl : reason = reason' := hmessage
      exact .same _
    all_goals constructor

/-- The body tells the word and the wording of a failure apart. -/
theorem told_eq_of_body (h : f.response.body = f'.response.body) : f.told = f'.told := by
  rw [body_response, body_response] at h
  have hchars : ∀ ms : List (String × Json.Value), Json.objectChars [("error", .object ms)]
      = "\x7b\"error\":".toList ++ Json.objectChars ms ++ ['\x7d'] := fun ms => rfl
  have hlist := congrArg String.toList h
  rw [String.toList_ofList, String.toList_ofList, hchars, hchars, List.append_cancel_right_eq,
    List.append_cancel_left_eq] at hlist
  have hread : ∀ g : Failure, Json.members? (Utf8.encode (Json.objectChars g.told)) = some g.told :=
    fun g => Json.members?_objectChars Json.isPlain_of_mem_texts
  have hsome := hread f
  rw [hlist, hread f'] at hsome
  exact (Option.some.inj hsome).symm

/-- **Failures of one kind, and no others, are answered alike**: with one status, the same headers
and the same body. -/
theorem response_eq_iff : f.response = f'.response ↔ f.SameKind f' := by
  constructor
  · intro h
    have htold := told_eq_of_body (congrArg Http.Response.body h)
    rw [told, told] at htold
    simpa [sameKind_iff] using htold
  · rintro (_ | _ | _ | _) <;> rfl

/-! ## Challenges -/

/-- **How the client is asked to authenticate**: by the challenge of the failure, if it has one. -/
theorem mem_headers_response_iff {challenge : String} :
    ("www-authenticate", challenge) ∈ f.response.headers ↔ f.challenge? = some challenge := by
  have hjson : ∀ status members,
      ("www-authenticate", challenge) ∉ (Http.Response.json status members).headers := by
    intro status members
    simp [Http.Response.json, Http.Response.ofBody]
  rw [response]
  cases f.challenge? with
  | none => exact iff_of_false (hjson _ _) (by simp)
  | some c =>
    rw [Http.Response.mem_headers_withHeader, Prod.mk.injEq, Option.some.injEq]
    constructor
    · rintro (⟨-, rfl⟩ | h)
      · rfl
      · exact absurd h (hjson _ _)
    · rintro rfl
      exact .inl ⟨rfl, rfl⟩

/-- Authenticating helps with just those failures that the status says so of. -/
theorem challenge?_isSome_iff : (∃ challenge, f.challenge? = some challenge) ↔ f.status = 401 := by
  cases f <;> simp [challenge?, status]

end Failure

/-! ## Bearer tokens of requests -/

/-- Headers whose first `authorization` holds a bearer token: the scheme in any case, a blank, and
what is the token without the blanks around it. -/
def Http.Headers.Bears (hs : Http.Headers) (token : String) : Prop :=
  ∃ scheme rest, hs.text? "authorization" = some (scheme ++ " " ++ rest) ∧ ' ' ∉ scheme.toList
    ∧ Ascii.sameWord scheme "bearer" = true ∧ token = trim rest ∧ token ≠ ""

/-- The bearer token of the first `authorization`, if that is a text with one. -/
def Http.Headers.bearer? (hs : Http.Headers) : Option String :=
  ((hs.text? "authorization").bind (splitOnce? ' ')).bind fun (scheme, rest) =>
    if Ascii.sameWord scheme "bearer" && trim rest != "" then some (trim rest) else none

theorem Http.Headers.bearer?_eq_some_iff {hs : Http.Headers} {token : String} :
    hs.bearer? = some token ↔ hs.Bears token := by
  simp only [bearer?, Option.bind_eq_some_iff, Prod.exists, splitOnce?_eq_some_iff,
    Bool.and_eq_true, bne_iff_ne, Option.ite_none_right_eq_some, Option.some.injEq]
  constructor
  · rintro ⟨scheme, rest, ⟨_, hvalue, hscheme, rfl⟩, ⟨hword, hne⟩, rfl⟩
    exact ⟨scheme, rest, hvalue, hscheme, hword, rfl, hne⟩
  · rintro ⟨scheme, rest, hvalue, hscheme, hword, rfl, hne⟩
    exact ⟨scheme, rest, ⟨_, hvalue, hscheme, rfl⟩, ⟨hword, hne⟩, rfl⟩

/-- The bridge takes that token, and otherwise it misses one. -/
theorem value_bearerToken_eq (hs : Http.Headers) :
    (bearerToken hs).value = hs.bearer?.elim (.error .missingToken) .ok := by
  rw [bearerToken, Http.Headers.bearer?]
  cases hs.text? "authorization" with
  | none => rfl
  | some value =>
    cases hsplit : splitOnce? ' ' value with
    | none => simp [hsplit]
    | some parts =>
      simp only [hsplit, Option.bind_some]
      split <;> rfl

/-- **What the bridge takes for the bearer token of a request** is what the headers bear. -/
theorem value_bearerToken_eq_ok_iff {hs : Http.Headers} {token : String} :
    (bearerToken hs).value = .ok token ↔ hs.Bears token := by
  rw [value_bearerToken_eq, ← Http.Headers.bearer?_eq_some_iff]
  cases hs.bearer? <;> simp

/-- Without one the bridge says that it misses a token. -/
theorem value_bearerToken_of_not_bears {hs : Http.Headers} (h : ¬ ∃ token, hs.Bears token) :
    (bearerToken hs).value = .error .missingToken := by
  have hnone : hs.bearer? = none := by
    rw [Option.eq_none_iff_forall_ne_some]
    exact fun token hsome => h ⟨token, Http.Headers.bearer?_eq_some_iff.1 hsome⟩
  rw [value_bearerToken_eq, hnone]
  rfl

/-! ## Requests that are turned away -/

namespace Routes

variable {routes : Routes} {recorded : List Measurement} {moment : Moment} {r : Http.Request}

/-- A request with a bearer token that the policy rejects at the moment. -/
def Rejects (routes : Routes) (moment : Moment) (r : Http.Request) : Prop :=
  ∃ token why, r.headers.Bears token
    ∧ routes.validator.policy.identify token moment.now = .error why

/-- The guard of the protected page turns such a request away before any hook runs. -/
theorem Rejects.value_admitBearer (h : routes.Rejects moment r) :
    ∃ why, (admitBearer routes.validator moment.now r).value = .error (.invalidToken why) := by
  obtain ⟨token, why, hbears, hidentify⟩ := h
  refine ⟨why, ?_⟩
  rw [BearerBridge.value_admitBearer (value_bearerToken_eq_ok_iff.2 hbears),
    Validator.value_validate, hidentify]
  rfl

/-- It also turns away a request without a bearer token. -/
theorem value_admitBearer_of_not_bears (h : ¬ ∃ token, r.headers.Bears token) :
    (admitBearer routes.validator moment.now r).value = .error .missingToken := by
  rw [admitBearer, Traced.value_bind, value_bearerToken_of_not_bears h]
  rfl

/-- What the guard of the protected page turns away is answered with the failure. -/
theorem respond_of_turnedAway {f : Failure} (hpath : r.target.path = "/protected")
    (h : (admitBearer routes.validator moment.now r).value = .error f) :
    (routes.respond recorded moment r).value = forMethod r f.response := by
  have hpage : routes.page? "/protected" = some .protectedPage := rfl
  rw [respond, hpath, hpage]
  dsimp only
  rw [Traced.value_map, pageResponse, Traced.value_bind, h]
  rfl

/-- Where the guard turns two requests away for reasons of one kind, they are answered alike. -/
theorem respond_eq_of_sameKind {routes' : Routes} {recorded' : List Measurement}
    {moment' : Moment} {r' : Http.Request} {f f' : Failure} (hmethod : r.method = r'.method)
    (hpath : r.target.path = "/protected") (hpath' : r'.target.path = "/protected")
    (h : (admitBearer routes.validator moment.now r).value = .error f)
    (h' : (admitBearer routes'.validator moment'.now r').value = .error f')
    (hkind : f.SameKind f') :
    (routes.respond recorded moment r).value = (routes'.respond recorded' moment' r').value := by
  rw [respond_of_turnedAway hpath h, respond_of_turnedAway hpath' h',
    Failure.response_eq_iff.2 hkind, forMethod, forMethod, reads, reads, hmethod]

/-- **Refusals reveal no cause.**  Take two requests for the protected page with one method, at
bridges, moments and hooks of any sort.  When both carry bearer tokens that the policies reject,
for whatever reasons, the two responses are one, and so they are when neither carries a bearer
token.  More generally, failures are answered alike exactly when they are of one kind; the status
of the answer is that of the failure, and it says how to authenticate exactly when that is 401. -/
theorem refusals_reveal_no_cause :
    (∀ (routes routes' : Routes) recorded recorded' (moment moment' : Moment)
        (r r' : Http.Request), r.method = r'.method →
        r.target.path = "/protected" → r'.target.path = "/protected" →
        (routes.Rejects moment r ∧ routes'.Rejects moment' r')
          ∨ ((¬ ∃ token, r.headers.Bears token) ∧ ¬ ∃ token, r'.headers.Bears token) →
        (routes.respond recorded moment r).value = (routes'.respond recorded' moment' r').value)
      ∧ (∀ f f' : Failure, f.response = f'.response ↔ f.SameKind f')
      ∧ ∀ f : Failure, f.response.status = f.status
        ∧ ((∃ challenge, ("www-authenticate", challenge) ∈ f.response.headers)
          ↔ f.status = 401) := by
  refine ⟨?_, fun f f' => Failure.response_eq_iff, fun f => ⟨f.status_response, ?_⟩⟩
  · rintro routes routes' recorded recorded' moment moment' r r' hmethod hpath hpath'
      (⟨hrejects, hrejects'⟩ | ⟨hnone, hnone'⟩)
    · obtain ⟨why, hwhy⟩ := hrejects.value_admitBearer
      obtain ⟨why', hwhy'⟩ := hrejects'.value_admitBearer
      exact respond_eq_of_sameKind hmethod hpath hpath' hwhy hwhy' (.invalidToken why why')
    · exact respond_eq_of_sameKind hmethod hpath hpath' (value_admitBearer_of_not_bears hnone)
        (value_admitBearer_of_not_bears hnone') (.same _)
  · simp only [Failure.mem_headers_response_iff, Failure.challenge?_isSome_iff]

/-- A bridge without a key, at which nobody passes the handshake. -/
def bareBridge : Routes :=
  ⟨⟨"/token", ⟨Policy.usual, []⟩, fun _ => pure (.ok none)⟩, .ofPolicy Policy.usual, .detached⟩

/-- A request for the protected page with a header. -/
def bearing (authorization : String) : Http.Request where
  method := "GET"
  target := ⟨"/protected", none⟩
  version := .v11
  headers := [("authorization", Utf8.ofString authorization)]
  peer := none

/-- A user without groups. -/
def lateCaller : Principal :=
  ⟨"CORP\\alice", "Negotiate", []⟩

/-- A token that expired, and a text that is no token behind a scheme in small letters. -/
theorem refusals_reveal_no_cause_expired :
    ∃ token, Policy.usual.issue lateCaller 1000 = .ok token
      ∧ bareBridge.Rejects ⟨1900, 0⟩ (bearing (Credential.headerOf token))
      ∧ bareBridge.Rejects ⟨1000, 0⟩ (bearing "bearer  x.y ")
      ∧ (bareBridge.respond [] ⟨1900, 0⟩ (bearing (Credential.headerOf token))).value
        = (bareBridge.respond [] ⟨1000, 0⟩ (bearing "bearer  x.y ")).value := by
  obtain ⟨token, hissue, hsize⟩ : ∃ token, Policy.usual.issue lateCaller 1000 = .ok token
      ∧ (Utf8.ofString token).length ≤ maxTokenBytes :=
    ⟨_, Policy.issue_eq_ok_iff.2 ⟨by decide, by decide, rfl⟩,
      Policy.length_encode_le_max (by decide +kernel)⟩
  have hexpired : Policy.usual.identify token 1900 = .error .expired := by
    rw [Policy.identify_issued hissue hsize, if_pos (by decide +kernel)]
  have hmalformed : Policy.usual.identify "x.y" 1000 = .error .malformed := rfl
  have hbears : (bearing (Credential.headerOf token)).headers.Bears token :=
    value_bearerToken_eq_ok_iff.1
      ((Policy.authenticates_issue hissue hsize).value_bearerToken rfl)
  have hbears' : (bearing "bearer  x.y ").headers.Bears "x.y" :=
    ⟨"bearer", " x.y ", by decide +kernel, by decide, by decide, by decide, by decide⟩
  have hrejects : bareBridge.Rejects ⟨1900, 0⟩ (bearing (Credential.headerOf token)) :=
    ⟨token, _, hbears, hexpired⟩
  have hrejects' : bareBridge.Rejects ⟨1000, 0⟩ (bearing "bearer  x.y ") :=
    ⟨"x.y", _, hbears', hmalformed⟩
  exact ⟨token, hissue, hrejects, hrejects', refusals_reveal_no_cause.1 _ _ _ _ _ _ _ _ rfl rfl rfl
    (.inl ⟨hrejects, hrejects'⟩)⟩

end Routes

end BearerBridge
