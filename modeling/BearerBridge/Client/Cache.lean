/-
# The credential cache

Many calls share one cache.  A call first looks whether the current credential will do.  If not,
it stands in line; whoever is at the front of the line may refresh, and looks once more before it
does.  So no two calls refresh at a time, and whoever waited uses what was fetched before it.

The cache is a transition system: `step` says what a move of one call does, and any interleaving
of moves is a run.

* `CredentialCache.step` : the state after a move, if the move is possible;
* `CredentialCache.run?` : the state after a list of moves.
-/
import BearerBridge.Client.Credential
import BearerBridge.Net.Url

namespace BearerBridge

/-! ## Calls -/

/-- Where a call stands. -/
inductive Stage where
  /-- Before the first look. -/
  | arriving
  /-- The first look found nothing of use. -/
  | asking
  /-- In the line. -/
  | waiting
  /-- At the front of the line, before the second look. -/
  | entering
  | fetching
  /-- At the front of the line still, the outcome known. -/
  | leaving (outcome : Except ClientFault Credential)
  | finished (outcome : Except ClientFault Credential)
  | cancelled

/-- A call for a credential that is good at an instant, made for a request to some target. -/
structure Call where
  target : Url
  now : Int64
  stage : Stage

/-- What a client could have watched. -/
inductive Notice where
  /-- A call starts a fetch. -/
  | fetchStarted (call : Nat)
  | published (c : Credential)
  deriving DecidableEq

/-- A cache and the calls on it, numbered in the order of their arrival. -/
structure CredentialCache where
  /-- How many milliseconds a fetch may take. -/
  timeout : Option Nat
  current : Option Credential
  /-- The calls that want to refresh; the front one may. -/
  line : List Nat
  calls : List Call
  history : List Notice

/-- A move of one call. -/
inductive Move where
  /-- A call arrives, perhaps one that goes without the first look. -/
  | arrive (target : Url) (now : Int64) (looks : Bool)
  /-- The first look. -/
  | look (call : Nat)
  /-- The call stands in line. -/
  | queue (call : Nat)
  /-- The call is at the front of the line. -/
  | enter (call : Nat)
  /-- The second look. -/
  | lookAgain (call : Nat)
  /-- The fetch of the call is answered. -/
  | answer (call : Nat) (token : Except ClientFault String)
  /-- The fetch of the call takes too long. -/
  | expire (call : Nat)
  /-- The call gives up its place at the front. -/
  | leave (call : Nat)
  | cancel (call : Nat)

namespace CredentialCache

/-! ## Looking -/

/-- An empty cache. -/
def empty (timeout : Option Nat) : CredentialCache :=
  ⟨timeout, none, [], [], []⟩

/-- The current credential, if it is good at an instant. -/
def valid? (s : CredentialCache) (now : Int64) : Option Credential :=
  s.current.filter (!·.isExpired now)

/-- Whether no credential is there that is good at an instant. -/
def isExpired (s : CredentialCache) (now : Int64) : Bool :=
  (s.valid? now).isNone

/-- Where a call stands. -/
def stage? (s : CredentialCache) (i : Nat) : Option Stage :=
  s.calls[i]?.map Call.stage

/-- Whether a call has started a fetch and has no answer yet. -/
def isFetching (s : CredentialCache) (i : Nat) : Bool :=
  match s.stage? i with
  | some .fetching => true
  | _ => false

/-- The outcome of a call that is over. -/
def outcome? (s : CredentialCache) (i : Nat) : Option (Except ClientFault Credential) :=
  match s.stage? i with
  | some (.finished outcome) => some outcome
  | _ => none

/-! ## Moving -/

/-- The state with a call at another stage. -/
def advance (s : CredentialCache) (i : Nat) (stage : Stage) : CredentialCache :=
  { s with calls := s.calls.modify i (fun c => { c with stage }) }

/-- The state with a notice more. -/
def note (s : CredentialCache) (n : Notice) : CredentialCache :=
  { s with history := s.history ++ [n] }

/-- The credential of a fetched token, if it is good at an instant. -/
def accept (now : Int64) (token : Except ClientFault String) :
    Except ClientFault Credential := do
  let c ← Credential.ofToken (← token)
  if c.isExpired now then throw (.alreadyExpired c.expiresAt)
  return c

/-- The state in which a call's fetch came to an outcome: a credential is published. -/
def settle (s : CredentialCache) (i : Nat) (outcome : Except ClientFault Credential) :
    CredentialCache :=
  match outcome with
  | .ok c => { (s.note (.published c)).advance i (.leaving outcome) with current := some c }
  | .error _ => s.advance i (.leaving outcome)

/-- **The state after a move**, if the move is possible. -/
def step (s : CredentialCache) : Move → Option CredentialCache
  | .arrive target now looks =>
    some { s with calls := s.calls ++ [⟨target, now, if looks then .arriving else .asking⟩] }
  | .look i =>
    match s.calls[i]? with
    | some ⟨_, now, .arriving⟩ =>
      match s.valid? now with
      | some c => some (s.advance i (.finished (.ok c)))
      | none => some (s.advance i .asking)
    | _ => none
  | .queue i =>
    match s.stage? i with
    | some .asking => some { s.advance i .waiting with line := s.line ++ [i] }
    | _ => none
  | .enter i =>
    match s.stage? i with
    | some .waiting => if s.line.head? = some i then some (s.advance i .entering) else none
    | _ => none
  | .lookAgain i =>
    match s.calls[i]? with
    | some ⟨_, now, .entering⟩ =>
      match s.valid? now with
      | some c => some (s.advance i (.leaving (.ok c)))
      | none => some ((s.note (.fetchStarted i)).advance i .fetching)
    | _ => none
  | .answer i token =>
    match s.calls[i]? with
    | some ⟨_, now, .fetching⟩ => some (s.settle i (accept now token))
    | _ => none
  | .expire i =>
    match s.stage? i, s.timeout with
    | some .fetching, some millis => some (s.settle i (.error (.timedOut millis)))
    | _, _ => none
  | .leave i =>
    match s.stage? i with
    | some (.leaving outcome) =>
      some { s.advance i (.finished outcome) with line := s.line.erase i }
    | _ => none
  | .cancel i =>
    match s.stage? i with
    | some (.finished _) => none
    | some .cancelled => none
    | some _ => some { s.advance i .cancelled with line := s.line.erase i }
    | none => none

/-- The state after a list of moves, if each is possible in turn. -/
def run? (s : CredentialCache) : List Move → Option CredentialCache
  | [] => some s
  | m :: ms => (s.step m).bind (·.run? ms)

theorem run?_append (s : CredentialCache) (ms ms' : List Move) :
    s.run? (ms ++ ms') = (s.run? ms).bind (·.run? ms') := by
  induction ms generalizing s with
  | nil => rfl
  | cons m ms ih =>
    cases h : s.step m with
    | none => simp [run?, h]
    | some t => simp [run?, h, ih]

/-! ## Watching -/

/-- The targets of the fetches among some notices. -/
def fetchedTargets (s : CredentialCache) (notices : List Notice) : List Url :=
  notices.filterMap fun
    | .fetchStarted i => s.calls[i]?.map Call.target
    | .published _ => none

/-- Whether a credential is published among some notices. -/
def publishes (notices : List Notice) : Bool :=
  notices.any fun
    | .published _ => true
    | .fetchStarted _ => false

/-- The description of a cache. -/
def describe (s : CredentialCache) : String :=
  "ClientTokenCache \x7b current: " ++ described Credential.describe s.current
    ++ ", refresh_timeout: " ++ described describeMillis s.timeout ++ ", .. \x7d"

end CredentialCache

end BearerBridge
