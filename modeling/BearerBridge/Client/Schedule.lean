/-
# Schedules

The cache says which moves are possible; a schedule chooses among them.  Here calls arrive at the
same moment and move in their order, each for as long as it need not wait.  Then time passes, and
the line is served from its front.  The token page answers from a script.

* `Schedule.concurrent` : the outcomes of calls that arrive at the same moment.
-/
import BearerBridge.Client.Cache

namespace BearerBridge

/-- An answer of the token page, and how many milliseconds it takes. -/
structure Reply where
  delay : Nat
  token : Except ClientFault String

/-- The answer of a token page that has no more answers. -/
def Reply.exhausted : Reply :=
  ⟨0, .error (.transport "no response left")⟩

/-- A cache in front of a scripted token page. -/
structure Schedule where
  cache : CredentialCache
  replies : List Reply
  /-- The answer that is on its way. -/
  pending : Reply

namespace Schedule

/-- A cache in front of a token page with certain answers. -/
def start (timeout : Option Nat) (replies : List Reply) : Schedule :=
  ⟨.empty timeout, replies, .exhausted⟩

/-- The schedule after a move; what is not possible changes nothing. -/
def move (w : Schedule) (m : Move) : Schedule :=
  { w with cache := (w.cache.step m).getD w.cache }

/-- Whether an answer arrives in time. -/
def isInTime (w : Schedule) (r : Reply) : Bool :=
  r.delay = 0 || w.cache.timeout.all (r.delay ≤ ·)

/-- The next answer of the token page is on its way. -/
def takeReply (w : Schedule) : Schedule :=
  match w.replies with
  | [] => { w with pending := .exhausted }
  | r :: rs => { w with replies := rs, pending := r }

/-- The fetch of a call comes to its end, in time or not. -/
def arrival (w : Schedule) (i : Nat) : Schedule :=
  let ended := if w.isInTime w.pending then .answer i w.pending.token else .expire i
  (w.move ended).move (.leave i)

/-- The call at the front of the line looks again and perhaps starts a fetch. -/
def front (w : Schedule) (i : Nat) : Schedule :=
  let w := (w.move (.enter i)).move (.lookAgain i)
  if w.cache.isFetching i then w.takeReply else w.move (.leave i)

/-- A call moves for as long as it need not wait. -/
def begin (w : Schedule) (i : Nat) : Schedule :=
  let w := (w.move (.look i)).move (.queue i)
  if w.cache.line = [i] then
    let w := w.front i
    if w.cache.isFetching i && w.pending.delay = 0 then w.arrival i else w
  else w

/-- Time passes until a call that is at the front of the line is over. -/
def complete (w : Schedule) (i : Nat) : Schedule :=
  let w := if w.cache.isFetching i then w else w.front i
  if w.cache.isFetching i then w.arrival i else w

/-- The numbers that the next calls get. -/
def nextCalls (w : Schedule) (count : Nat) : List Nat :=
  (List.range count).map (w.cache.calls.length + ·)

/-- Calls that arrive at the same moment, served until all are over. -/
def serve (w : Schedule) (arrivals : List Move) : Schedule :=
  let ids := w.nextCalls arrivals.length
  let w := ids.foldl begin (arrivals.foldl move w)
  w.cache.line.foldl complete w

/-- **The outcomes of calls that arrive at the same moment**, in their order. -/
def concurrent (w : Schedule) (arrivals : List Move) :
    Schedule × List (Except ClientFault Credential) :=
  let w' := w.serve arrivals
  (w', (w.nextCalls arrivals.length).filterMap w'.cache.outcome?)

end Schedule

end BearerBridge
