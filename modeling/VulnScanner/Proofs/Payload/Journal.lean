import VulnScanner.Payload.Wait

/-!
# The journal of a wait

A world can be made to keep a journal of what is asked of it. A wait in such a world ends as it
does without the journal, and its journal is a course: look-ups, readings of the clock and pauses
in the order in which one turn of the wait asks for them.
-/

namespace VulnScanner

variable {W T : Type}

/-! ### Journals -/

/-- What a wait asks of the world. -/
inductive Deed (T : Type) where
  | asked (request : Http.Request) (reply : Http.Reply)
  | read (time : T)
  | paused (length : T)

/-- A deed and the state of the world behind it. -/
structure Entry (W T : Type) where
  deed : Deed T
  after : W

namespace Entry

/-- Holds for look-ups. -/
def isPoll (e : Entry W T) : Bool :=
  match e.deed with
  | .asked _ _ => true
  | _ => false

/-- Holds for look-ups that find something recorded. -/
def isHit (e : Entry W T) : Bool :=
  match e.deed with
  | .asked _ reply => (Callback.Client.verdict reply).toOption.getD false
  | _ => false

end Entry

/-- The look-ups of a journal. -/
def pollsOf (journal : List (Entry W T)) : List (Entry W T) := journal.filter Entry.isPoll

namespace World

/-- The entry for a look-up. -/
def asking (world : World W T) (request : Http.Request) (w : W) : Entry W T :=
  ⟨.asked request (world.exchange request w).1, (world.exchange request w).2⟩

/-- The entry for a reading of the clock. -/
def reading (world : World W T) (w : W) : Entry W T := ⟨.read (world.now w).1, (world.now w).2⟩

/-- The entry for a pause. -/
def pausing (world : World W T) (length : T) (w : W) : Entry W T :=
  ⟨.paused length, world.pause length w⟩

/-- The same world with a journal, the latest entry at its end. -/
def journaled (world : World W T) : World (W × List (Entry W T)) T where
  now s := ((world.now s.1).1, (world.reading s.1).after, s.2 ++ [world.reading s.1])
  exchange request s := ((world.exchange request s.1).1, (world.asking request s.1).after,
    s.2 ++ [world.asking request s.1])
  isCancelled s := world.isCancelled s.1
  pause length s := ((world.pausing length s.1).after, s.2 ++ [world.pausing length s.1])

end World

section PollsOf

variable (world : World W T) (request : Http.Request) (length : T) (w : W)
variable (rest : List (Entry W T))

/-- An empty journal has no look-ups. -/
@[simp] theorem pollsOf_nil : pollsOf ([] : List (Entry W T)) = [] := rfl

/-- A look-up counts. -/
@[simp] theorem pollsOf_asking_cons :
    pollsOf (world.asking request w :: rest) = world.asking request w :: pollsOf rest := rfl

/-- A reading of the clock is no look-up. -/
@[simp] theorem pollsOf_reading_cons : pollsOf (world.reading w :: rest) = pollsOf rest := rfl

/-- A pause is no look-up. -/
@[simp] theorem pollsOf_pausing_cons :
    pollsOf (world.pausing length w :: rest) = pollsOf rest := rfl

end PollsOf

/-! ### Courses -/

section Courses

variable [Sub T] [Zero T] [LT T] [DecidableLT T] [LE T]

/-- How a wait can go on from the head of its loop: what it writes into the journal and how it
ends. -/
inductive Course (world : World W T) (request : Http.Request) (interval deadline : T) :
    W → List (Entry W T) → WaitEnd → Prop
  | cancelled {w : W} (hc : world.isCancelled w = true) :
      Course world request interval deadline w [] .cancelled
  | recorded {w : W} (hc : world.isCancelled w = false)
      (hh : (world.asking request w).isHit = true) :
      Course world request interval deadline w [world.asking request w] .recorded
  | expired {w w₁ : W} {t : T} (hc : world.isCancelled w = false)
      (hh : (world.asking request w).isHit = false) (hw : (world.asking request w).after = w₁)
      (ht : (world.now w₁).1 = t) (hd : deadline - t ≤ 0) :
      Course world request interval deadline w [world.asking request w, world.reading w₁] .expired
  | again {w w₁ w₂ w₃ : W} {t : T} {rest : List (Entry W T)} {e : WaitEnd}
      (hc : world.isCancelled w = false) (hh : (world.asking request w).isHit = false)
      (hw : (world.asking request w).after = w₁) (ht : (world.now w₁).1 = t)
      (hd : ¬ deadline - t ≤ 0) (hr : (world.reading w₁).after = w₂)
      (hp : (world.pausing (soonerOf interval (deadline - t)) w₂).after = w₃)
      (h : Course world request interval deadline w₃ rest e) :
      Course world request interval deadline w
        (world.asking request w :: world.reading w₁ ::
          world.pausing (soonerOf interval (deadline - t)) w₂ :: rest) e

end Courses

/-! ### Waits with a journal -/

section Waits

variable (world : World W T) (client : Callback.Client) (secret : String) (since : Binary64)

/-- A look-up finds what its entry says. -/
theorem lookUp_of_request {request : Http.Request}
    (hr : client.lookupRequest secret (some since) = .ok request) (w : W) :
    client.lookUp world secret since w =
      (.ok (world.asking request w).isHit, (world.asking request w).after) := by
  unfold Callback.Client.lookUp
  rw [hr]
  simp only [World.asking, Entry.isHit]
  cases Callback.Client.verdict (world.exchange request w).1 <;> rfl

variable [Sub T] [Zero T] [LT T] [DecidableLT T] [LE T] [DecidableLE T]
variable {world client secret since} {request : Http.Request} {interval deadline : T}

/-- One turn of a wait that can ask the server. -/
theorem waitUntil_succ (hr : client.lookupRequest secret (some since) = .ok request) (polls : Nat)
    {w w₁ w₂ : W} {t : T} (hw : (world.asking request w).after = w₁) (ht : (world.now w₁).1 = t)
    (hr₁ : (world.reading w₁).after = w₂) :
    waitUntil world (client.lookUp world secret since) interval deadline (polls + 1) w =
      if world.isCancelled w then some (.cancelled, w)
      else if (world.asking request w).isHit then some (.recorded, w₁)
      else if deadline - t ≤ 0 then some (.expired, w₂)
      else waitUntil world (client.lookUp world secret since) interval deadline polls
        (world.pausing (soonerOf interval (deadline - t)) w₂).after := by
  subst hw ht hr₁
  rw [waitUntil, lookUp_of_request world client secret since hr]
  cases world.isCancelled w with
  | true => rfl
  | false =>
    cases (world.asking request w).isHit with
    | true => rfl
    | false => rfl

/-- A wait that cannot ask the server ends at once. -/
theorem waitUntil_succ_of_fault {fault : Http.UrlFault}
    (hr : client.lookupRequest secret (some since) = .error fault) (polls : Nat) (w : W) :
    waitUntil world (client.lookUp world secret since) interval deadline (polls + 1) w =
      if world.isCancelled w then some (.cancelled, w) else some (.impossible fault, w) := by
  have hlook : client.lookUp world secret since w = (.error fault, w) := by
    unfold Callback.Client.lookUp
    rw [hr]
  rw [waitUntil, hlook]

/-- A journal does not change how a wait ends. -/
theorem waitUntil_journaled (polls : Nat) (s : W × List (Entry W T)) :
    waitUntil world (client.lookUp world secret since) interval deadline polls s.1 =
      (waitUntil world.journaled (client.lookUp world.journaled secret since) interval deadline
        polls s).map fun r ↦ (r.1, r.2.1) := by
  induction polls generalizing s with
  | zero => rfl
  | succ polls ih =>
    cases hr : client.lookupRequest secret (some since) with
    | error fault =>
      rw [waitUntil_succ_of_fault hr, waitUntil_succ_of_fault hr, apply_ite (Option.map _)]
      rfl
    | ok request =>
      have hrest := ih (world.journaled.pausing
        (soonerOf interval (deadline - (world.now (world.asking request s.1).after).1))
        (world.journaled.reading (world.journaled.asking request s).after).after).after
      rw [waitUntil_succ hr polls rfl rfl rfl, waitUntil_succ hr polls rfl rfl rfl,
        apply_ite (Option.map _), apply_ite (Option.map _), apply_ite (Option.map _)]
      refine ite_congr rfl (fun _ ↦ rfl) fun _ ↦ ite_congr rfl (fun _ ↦ rfl) fun _ ↦ ?_
      exact ite_congr rfl (fun _ ↦ rfl) fun _ ↦ hrest

/-- A wait that can ask the server writes a course into its journal. -/
theorem course_of_waitUntil (hr : client.lookupRequest secret (some since) = .ok request)
    {polls : Nat} {s s' : W × List (Entry W T)} {e : WaitEnd}
    (h : waitUntil world.journaled (client.lookUp world.journaled secret since) interval deadline
      polls s = some (e, s')) :
    ∃ course, s'.2 = s.2 ++ course ∧ Course world request interval deadline s.1 course e := by
  induction polls generalizing s with
  | zero => cases h
  | succ polls ih =>
    rw [waitUntil_succ hr polls rfl rfl rfl] at h
    split at h
    · next hc =>
      cases h
      exact ⟨[], (List.append_nil _).symm, .cancelled hc⟩
    · next hc =>
      have hc : world.isCancelled s.1 = false := Bool.eq_false_iff.mpr hc
      split at h
      · next hh =>
        cases h
        exact ⟨_, rfl, .recorded hc hh⟩
      · next hh =>
        have hh : (world.asking request s.1).isHit = false := Bool.eq_false_iff.mpr hh
        split at h
        · next hd =>
          cases h
          exact ⟨_, List.append_assoc _ _ _, .expired hc hh rfl rfl hd⟩
        · next hd =>
          obtain ⟨course, hs, hcourse⟩ := ih h
          refine ⟨_, ?_, .again hc hh rfl rfl hd rfl rfl hcourse⟩
          rw [hs]
          simp only [World.journaled, World.asking, World.reading, World.pausing,
            List.append_assoc, List.cons_append, List.nil_append]

/-- A wait that does not fail writes a course into its journal. -/
theorem exists_course_of_waitUntil {polls : Nat} {s s' : W × List (Entry W T)} {e : WaitEnd}
    (h : waitUntil world.journaled (client.lookUp world.journaled secret since) interval deadline
      polls s = some (e, s')) (he : ∀ fault, e ≠ .impossible fault) :
    ∃ request course, s'.2 = s.2 ++ course ∧
      Course world request interval deadline s.1 course e := by
  cases hr : client.lookupRequest secret (some since) with
  | ok request =>
    obtain ⟨course, hs, hcourse⟩ := course_of_waitUntil hr h
    exact ⟨request, course, hs, hcourse⟩
  | error fault =>
    -- a server that cannot be asked shows unless the wait is cancelled before
    cases polls with
    | zero => cases h
    | succ polls =>
      rw [waitUntil_succ_of_fault hr] at h
      split at h
      · next hc =>
        cases h
        exact ⟨⟨"GET", ⟨[], []⟩, [], none, .null, false⟩, [], (List.append_nil _).symm,
          .cancelled hc⟩
      · cases h
        exact absurd rfl (he fault)

end Waits

/-! ### Validators -/

/-- The verdict is that something was recorded exactly if the wait ended so. -/
theorem WaitEnd.verdict_eq_recorded_iff (timeout : T) (e : WaitEnd) :
    e.verdict timeout = .recorded ↔ e = .recorded := by
  cases e <;> simp [verdict]

/-- The verdict is that the time was up exactly if the wait ended so. -/
theorem WaitEnd.verdict_eq_expired_iff (timeout : T) (e : WaitEnd) :
    e.verdict timeout = .expired timeout ↔ e = .expired := by
  cases e <;> simp [verdict]

namespace Validator

variable [Add T] [Sub T] [Zero T] [LT T] [DecidableLT T] [LE T] [DecidableLE T]
variable {v : Validator T} {p : Payload} {secret : String} {client : Callback.Client}
variable (hc : v.client = some client) (hs : p.callbackSecret = some secret) (hne : secret ≠ "")

include hc hs hne

/-- With a server and a secret a validator waits until its deadline. -/
theorem waitForCallback_eq (world : World W T) (polls : Nat) (timeout : Option T) (w : W) :
    v.waitForCallback world polls p timeout w =
      (waitUntil world (client.lookUp world secret p.createdAt) v.interval
        ((world.now w).1 + v.effectiveTimeout timeout) polls (world.now w).2).map fun r ↦
          (r.1.verdict (v.effectiveTimeout timeout), r.2) := by
  have hfilter : p.callbackSecret.filter (· != "") = some secret := by
    rw [hs, Option.filter_some, if_pos (bne_iff_ne.mpr hne)]
  unfold waitForCallback
  rw [hc, hfilter]

/-- A wait of a validator that does not fail is the reading of its start and then a course. -/
theorem exists_course {world : World W T} {polls : Nat} {timeout : Option T} {w w' : W}
    {verdict : CallbackVerdict T}
    (h : v.waitForCallback world polls p timeout w = some (verdict, w'))
    (hv : ∀ fault, verdict ≠ .impossible fault) :
    ∃ request course e,
      v.waitForCallback world.journaled polls p timeout (w, []) =
        some (verdict, w', world.reading w :: course) ∧
      Course world request v.interval ((world.now w).1 + v.effectiveTimeout timeout)
        (world.now w).2 course e ∧ verdict = e.verdict (v.effectiveTimeout timeout) := by
  rw [waitForCallback_eq hc hs hne,
    waitUntil_journaled polls ((world.now w).2, [world.reading w]), Option.map_map] at h
  rw [waitForCallback_eq hc hs hne]
  obtain ⟨⟨e, s⟩, hrun, hverdict⟩ := Option.map_eq_some_iff.mp h
  cases hverdict
  have he : ∀ fault, e ≠ .impossible fault := fun fault h ↦ hv fault (congrArg _ h)
  obtain ⟨request, course, hjournal, hcourse⟩ := exists_course_of_waitUntil hrun he
  refine ⟨request, course, e, ?_, hcourse, rfl⟩
  rw [Option.map_eq_some_iff]
  exact ⟨(e, s), hrun, Prod.ext rfl (Prod.ext rfl hjournal)⟩

end Validator
end VulnScanner
