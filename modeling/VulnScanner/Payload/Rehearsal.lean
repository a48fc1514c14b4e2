import VulnScanner.Number.Arithmetic
import VulnScanner.Payload.Wait

/-!
# Rehearsals

A world that is known beforehand: the replies of the network in order, a clock that goes on by a
fixed amount at each reading and by the length of each pause, and a pause that cancels.
-/

namespace VulnScanner

/-- The state of a rehearsed world. -/
structure Rehearsal where
  /-- The replies that are left; the last one is repeated. -/
  replies : List Http.Reply := []
  clock : Binary64 := 0
  /-- What each reading adds to the clock. -/
  tick : Binary64 := 0
  /-- The number of pauses after which the wait is cancelled. -/
  cancelAfter : Option Nat := none
  /-- The requests so far, the latest first. -/
  requests : List Http.Request := []
  /-- The pauses so far, the latest first. -/
  pauses : List Binary64 := []

namespace Rehearsal

/-- The reply when none is given. -/
def emptyReply : Http.Reply := .answer 200 [0x7b, 0x7d] []

/-- The next reply, and the replies that are left. -/
def nextReply : List Http.Reply → Http.Reply × List Http.Reply
  | [] => (emptyReply, [])
  | [reply] => (reply, [reply])
  | reply :: rest => (reply, rest)

/-- Reads the clock. -/
def now (r : Rehearsal) : Binary64 × Rehearsal := (r.clock, { r with clock := r.clock + r.tick })

/-- Answers a request. -/
def exchange (request : Http.Request) (r : Rehearsal) : Http.Reply × Rehearsal :=
  let (reply, rest) := nextReply r.replies
  (reply, { r with replies := rest, requests := request :: r.requests })

/-- Whether the wait is cancelled. -/
def isCancelled (r : Rehearsal) : Bool :=
  match r.cancelAfter with
  | some count => count ≤ r.pauses.length
  | none => false

/-- Lets time pass. -/
def pause (length : Binary64) (r : Rehearsal) : Rehearsal :=
  { r with clock := r.clock + length, pauses := length :: r.pauses }

/-- The rehearsed world. -/
def world : World Rehearsal Binary64 := ⟨now, exchange, isCancelled, pause⟩

end Rehearsal
end VulnScanner
