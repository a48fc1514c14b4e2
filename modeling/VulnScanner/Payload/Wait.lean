import VulnScanner.Payload.Generator

/-!
# Waiting for a callback

The callback server is asked again and again until something has been recorded, the time is up, or
the wait is cancelled. Cancelling is looked at before each look-up and the clock after it, so
there is at least one look-up unless the wait is cancelled from the start, and none follows a hit.
-/

namespace VulnScanner

/-- The world around a wait: a clock, a network, and a signal to stop. `W` is the state of the
world and `T` the type of times. -/
structure World (W T : Type) where
  now : W → T × W
  exchange : Http.Request → W → Http.Reply × W
  isCancelled : W → Bool
  pause : T → W → W

section Times

variable {T : Type} [LT T] [DecidableLT T]

/-- The later of two times. -/
def laterOf (a b : T) : T := if a < b then b else a

/-- The sooner of two times. -/
def soonerOf (a b : T) : T := if b < a then b else a

end Times

/-- How a wait ends. -/
inductive WaitEnd where
  | recorded
  | expired
  | cancelled
  /-- The server cannot be asked at all. -/
  | impossible (fault : Http.UrlFault)
  deriving DecidableEq, Repr

variable {W T : Type} [Add T] [Sub T] [Zero T] [LT T] [DecidableLT T] [LE T] [DecidableLE T]

/-- Asks a callback server once. A reply that cannot be used counts as no. -/
def Callback.Client.lookUp (client : Callback.Client) (world : World W T) (secret : String)
    (since : Binary64) (w : W) : Except Http.UrlFault Bool × W :=
  match client.lookupRequest secret (some since) with
  | .error fault => (.error fault, w)
  | .ok request =>
    let (reply, w) := world.exchange request w
    match Callback.Client.verdict reply with
    | .ok hit => (.ok hit, w)
    | .error _ => (.ok false, w)

/-- Polls until the wait ends. A pause is as long as the interval, but does not go beyond the
deadline. The number bounds the polls; without an end in that many there is no result. -/
def waitUntil (world : World W T) (poll : W → Except Http.UrlFault Bool × W)
    (interval deadline : T) : Nat → W → Option (WaitEnd × W)
  | 0, _ => none
  | polls + 1, w =>
    if world.isCancelled w then some (.cancelled, w)
    else match poll w with
      | (.error fault, w) => some (.impossible fault, w)
      | (.ok true, w) => some (.recorded, w)
      | (.ok false, w) =>
        let (now, w) := world.now w
        let remaining := deadline - now
        if remaining ≤ 0 then some (.expired, w)
        else waitUntil world poll interval deadline polls
          (world.pause (soonerOf interval remaining) w)

/-- What becomes of waiting for the callback of a payload. -/
inductive CallbackVerdict (T : Type) where
  | notConfigured
  | recorded
  /-- Nothing was recorded within a time. -/
  | expired (timeout : T)
  | cancelled
  | impossible (fault : Http.UrlFault)
  deriving DecidableEq, Repr

/-- The verdict at the end of a wait. -/
def WaitEnd.verdict (timeout : T) : WaitEnd → CallbackVerdict T
  | recorded => .recorded
  | expired => .expired timeout
  | cancelled => .cancelled
  | impossible fault => .impossible fault

/-- Validates payloads, with a callback server or without. -/
structure Validator (T : Type) where
  client : Option Callback.Client := none
  /-- The time between two look-ups. -/
  interval : T
  /-- How long to wait if nothing else is said. -/
  defaultTimeout : T

namespace Validator

/-- A validator whose interval is at least `least`. -/
def make (client : Option Callback.Client) (least interval defaultTimeout : T) : Validator T :=
  ⟨client, laterOf interval least, defaultTimeout⟩

/-- How long to wait; a negative time counts as none. -/
def effectiveTimeout (v : Validator T) : Option T → T
  | none => v.defaultTimeout
  | some timeout => laterOf timeout 0

/-- Waits for the callback of a payload. Without a server or a secret there is nothing to wait
for. -/
def waitForCallback (v : Validator T) (world : World W T) (polls : Nat) (p : Payload)
    (timeout : Option T) (w : W) : Option (CallbackVerdict T × W) :=
  match v.client, p.callbackSecret.filter (· != "") with
  | some client, some secret =>
    let limit := v.effectiveTimeout timeout
    let (start, w) := world.now w
    let poll := client.lookUp world secret p.createdAt
    (waitUntil world poll v.interval (start + limit) polls w).map fun (e, w) ↦
      (e.verdict limit, w)
  | _, _ => some (.notConfigured, w)

end Validator
end VulnScanner
