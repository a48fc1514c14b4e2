import VulnScanner.Payload.Rehearsal
import VulnScanner.Proofs.Number.Difference
import VulnScanner.Proofs.Payload.Journal
import VulnScanner.Settings

/-!
# How a wait ends

What the journal of a wait says about its end: a hit is the last look-up and the only one, an end
without a hit comes from a reading of the clock directly behind a look-up, nothing is asked once
the head of the loop has seen the signal to stop, and each pause ends at the deadline at the
latest.
-/

namespace VulnScanner

variable {W T : Type} [Sub T] [Zero T] [LT T] [DecidableLT T] [LE T]
variable {world : World W T} {request : Http.Request} {interval deadline : T}
variable {w : W} {course : List (Entry W T)} {e : WaitEnd}

/-! ### Look-ups of a course -/

/-- Every look-up but the last is no hit. -/
theorem Course.isHit_of_mem_dropLast (h : Course world request interval deadline w course e) :
    ∀ poll ∈ (pollsOf course).dropLast, poll.isHit = false := by
  induction h with
  | cancelled hc => simp
  | recorded hc hh => simp
  | expired hc hh hw ht hd => simp
  | @again w w₁ w₂ w₃ t rest e hc hh hw ht hd hr hp h ih =>
    intro poll hpoll
    simp only [pollsOf_asking_cons, pollsOf_reading_cons, pollsOf_pausing_cons] at hpoll
    cases hrest : pollsOf rest with
    | nil =>
      rw [hrest] at hpoll
      cases hpoll
    | cons next others =>
      rw [hrest, List.dropLast_cons_cons] at hpoll
      rcases List.mem_cons.mp hpoll with rfl | hpoll
      · exact hh
      · exact ih poll (hrest ▸ hpoll)

/-- A wait ends with a recorded interaction exactly if its last look-up is a hit. -/
theorem Course.recorded_iff (h : Course world request interval deadline w course e) :
    e = .recorded ↔ ∃ poll, (pollsOf course).getLast? = some poll ∧ poll.isHit = true := by
  induction h with
  | cancelled hc => simp
  | recorded hc hh => simp [hh]
  | expired hc hh hw ht hd => simp [hh]
  | @again w w₁ w₂ w₃ t rest e hc hh hw ht hd hr hp h ih =>
    simp only [pollsOf_asking_cons, pollsOf_reading_cons, pollsOf_pausing_cons]
    rw [ih]
    cases pollsOf rest with
    | nil => simp [hh]
    | cons next others => rw [List.getLast?_cons_cons]

/-- Without a signal to stop there is a look-up, and with one there is nothing. -/
theorem Course.head (h : Course world request interval deadline w course e) :
    (world.isCancelled w = true → course = [] ∧ e = .cancelled) ∧
      (world.isCancelled w = false → pollsOf course ≠ []) := by
  cases h with
  | cancelled hc => simp [hc]
  | recorded hc hh => simp [hc]
  | expired hc hh hw ht hd => simp [hc]
  | again hc hh hw ht hd hr hp h => simp [hc]

/-! ### Readings and pauses of a course -/

/-- A wait ends by time exactly if the reading of the clock directly behind the last look-up, which
is no hit, leaves nothing. -/
theorem Course.expired_iff (h : Course world request interval deadline w course e) :
    e = .expired ↔ ∃ before poll t s after, course = before ++ poll :: ⟨.read t, s⟩ :: after ∧
      poll.isPoll = true ∧ pollsOf after = [] ∧ poll.isHit = false ∧ deadline - t ≤ 0 := by
  constructor
  · intro he
    induction h with
    | cancelled hc => cases he
    | recorded hc hh => cases he
    | @expired w w₁ t hc hh hw ht hd =>
      subst ht
      exact ⟨[], world.asking request w, _, _, [], rfl, rfl, rfl, hh, hd⟩
    | again hc hh hw ht hd hr hp h ih =>
      obtain ⟨before, poll, t, s, after, rfl, hpoll⟩ := ih he
      exact ⟨_ :: _ :: _ :: before, poll, t, s, after, rfl, hpoll⟩
  · rintro ⟨before, poll, t, s, after, hcourse, hpoll, hafter, hhit, hpast⟩
    induction h generalizing before with
    | cancelled hc => simp at hcourse
    | recorded hc hh =>
      have hlength := congrArg List.length hcourse
      simp at hlength
      omega
    | expired hc hh hw ht hd => rfl
    | again hc hh hw ht hd hr hp h ih =>
      rcases before with _ | ⟨_, _ | ⟨_, _ | ⟨_, before⟩⟩⟩
      · -- the reading of this turn is not past the deadline
        simp only [List.nil_append, List.cons.injEq, World.reading, Entry.mk.injEq,
          Deed.read.injEq] at hcourse
        rw [← hcourse.2.1.1, ht] at hpast
        exact absurd hpast hd
      · simp only [List.cons_append, List.nil_append, List.cons.injEq] at hcourse
        rw [← hcourse.2.1] at hpoll
        cases hpoll
      · simp only [List.cons_append, List.nil_append, List.cons.injEq] at hcourse
        rw [← hcourse.2.2.1] at hpoll
        cases hpoll
      · simp only [List.cons_append, List.cons.injEq] at hcourse
        exact ih before hcourse.2.2.2

/-- Behind a pause the wait goes on at the head of its loop, and a reading of the clock before the
deadline stands in front of it. -/
theorem Course.of_pause (h : Course world request interval deadline w course e)
    {before after : List (Entry W T)} {length : T} {s : W}
    (hp : course = before ++ ⟨.paused length, s⟩ :: after) :
    Course world request interval deadline s after e ∧
      ∃ earlier t s', before = earlier ++ [⟨.read t, s'⟩] ∧ ¬ deadline - t ≤ 0 ∧
        length = soonerOf interval (deadline - t) := by
  induction h generalizing before with
  | cancelled hc => simp at hp
  | recorded hc hh =>
    rcases before with _ | ⟨_, before⟩ <;> simp [World.asking] at hp
  | expired hc hh hw ht hd =>
    rcases before with _ | ⟨_, _ | ⟨_, before⟩⟩ <;>
      simp [World.asking, World.reading] at hp
  | @again w w₁ w₂ w₃ t rest e hc hh hw ht hd hr hn h ih =>
    rcases before with _ | ⟨_, _ | ⟨_, _ | ⟨_, before⟩⟩⟩
    · simp [World.asking] at hp
    · simp [World.reading] at hp
    · simp only [List.cons_append, List.nil_append, List.cons.injEq, World.pausing,
        Entry.mk.injEq, Deed.paused.injEq] at hp hn
      obtain ⟨rfl, rfl, ⟨rfl, rfl⟩, rfl⟩ := hp
      refine ⟨hn ▸ h, [world.asking request w], t, (world.now w₁).2, ?_, hd, rfl⟩
      rw [World.reading, ht]
      rfl
    · simp only [List.cons_append, List.cons.injEq] at hp
      obtain ⟨rfl, rfl, rfl, hrest⟩ := hp
      obtain ⟨hcourse, earlier, t', s', rfl, hleft⟩ := ih hrest
      exact ⟨hcourse, _ :: _ :: _ :: earlier, t', s', rfl, hleft⟩

/-! ### Verdicts -/

/-- The outcome of a wait that does not fail, in terms of its journal: which look-up confirms, when
there is none at all, which reading of the clock ends it, what the signal to stop does at the head
of the loop, and how long each pause is. An infinite reading at an infinite deadline is left out,
because their difference is no number. -/
theorem Validator.waitForCallback_outcome {W : Type} (world : World W Binary64)
    (client : Callback.Client) (interval defaultTimeout : Binary64) (p : Payload) (secret : String)
    (hs : p.callbackSecret = some secret) (hne : secret ≠ "") (timeout : Option Binary64)
    (polls : Nat) (w w' : W) (v : Validator Binary64)
    (hm : v = .make (some client) Settings.leastPollInterval interval defaultTimeout)
    (verdict : CallbackVerdict Binary64)
    (h : v.waitForCallback world polls p timeout w = some (verdict, w'))
    (hv : ∀ fault, verdict ≠ .impossible fault) (limit deadline : Binary64)
    (hl : limit = v.effectiveTimeout timeout) (hd : deadline = (world.now w).1 + limit) :
    ∃ journal,
      v.waitForCallback world.journaled polls p timeout (w, []) =
        some (verdict, w', world.reading w :: journal) ∧
      ((verdict = .recorded ↔
          ∃ poll, (pollsOf journal).getLast? = some poll ∧ poll.isHit = true) ∧
        ∀ poll ∈ (pollsOf journal).dropLast, poll.isHit = false) ∧
      ((world.isCancelled (world.now w).2 = true → pollsOf journal = []) ∧
        (world.isCancelled (world.now w).2 = false → pollsOf journal ≠ [])) ∧
      (verdict = .expired limit ↔ ∃ before poll t s after,
        journal = before ++ poll :: ⟨.read t, s⟩ :: after ∧ poll.isPoll = true ∧
          pollsOf after = [] ∧ poll.isHit = false ∧ deadline ≤ t ∧
          ¬ (deadline = t ∧ deadline.isInfinite = true)) ∧
      ((world.isCancelled (world.now w).2 = true → journal = [] ∧ verdict = .cancelled) ∧
        ∀ before length s after, journal = before ++ ⟨.paused length, s⟩ :: after →
          world.isCancelled s = true → after = [] ∧ verdict = .cancelled) ∧
      ∀ before length s after, journal = before ++ ⟨.paused length, s⟩ :: after →
        ∃ earlier t s', before = earlier ++ [⟨.read t, s'⟩] ∧
          length = soonerOf (laterOf interval Settings.leastPollInterval) (deadline - t) := by
  subst hm hl hd
  obtain ⟨request, course, e, hrun, hcourse, rfl⟩ := exists_course rfl hs hne h hv
  refine ⟨course, hrun, ⟨?_, hcourse.isHit_of_mem_dropLast⟩, ⟨?_, hcourse.head.2⟩, ?_, ⟨?_, ?_⟩, ?_⟩
  · rw [WaitEnd.verdict_eq_recorded_iff, hcourse.recorded_iff]
  · intro hc
    rw [(hcourse.head.1 hc).1]
    rfl
  · rw [WaitEnd.verdict_eq_expired_iff, hcourse.expired_iff]
    simp only [Binary64.sub_le_zero_iff]
  · intro hc
    obtain ⟨hnil, he⟩ := hcourse.head.1 hc
    exact ⟨hnil, congrArg _ he⟩
  · intro before length s after hp hc
    obtain ⟨hnil, he⟩ := (hcourse.of_pause hp).1.head.1 hc
    exact ⟨hnil, congrArg _ he⟩
  · intro before length s after hp
    obtain ⟨-, earlier, t, s', hbefore, -, hlength⟩ := hcourse.of_pause hp
    exact ⟨earlier, t, s', hbefore, hlength⟩

namespace Rehearsal

/-- A client of a server at some address. -/
def client : Callback.Client := ⟨{ address := "192.0.2.10" }, by decide, {}⟩

/-- A payload that has its target ask the server. -/
def payload : Payload where
  definition :=
    { name := "linux_callback", interpretation := .linuxShell, execution := .interpretation,
      usesCallback := true, template := "curl $TOKEN_URL", validation := .callback,
      regex := none, vulnerabilities := [.blindRce] }
  text := ""
  randomToken := "t"
  callbackSecret := some "s"
  createdAt := 0

/-- A validator that asks every second for ten seconds. -/
def validator : Validator Binary64 :=
  .make (some client) Settings.leastPollInterval (.ofInt 1) (.ofInt 10)

end Rehearsal

/-- With no time to wait there is still one look-up, and then the time is up. -/
theorem Validator.waitForCallback_outcome_without_time :
    ∃ w' journal, Rehearsal.validator.waitForCallback Rehearsal.world.journaled 1
        Rehearsal.payload (some 0) ({}, []) = some (.expired 0, w', journal) ∧
      pollsOf journal ≠ [] := by
  have hrun : (Rehearsal.validator.waitForCallback Rehearsal.world 1 Rehearsal.payload (some 0)
      {}).map (·.1) = some (.expired 0) := by decide +kernel
  obtain ⟨⟨verdict, w'⟩, h, rfl⟩ := Option.map_eq_some_iff.mp hrun
  obtain ⟨journal, hjournal, -, ⟨-, hpolls⟩, -⟩ := waitForCallback_outcome Rehearsal.world
    Rehearsal.client (.ofInt 1) (.ofInt 10) Rehearsal.payload "s" rfl (by decide) (some 0) 1 {} w'
    Rehearsal.validator rfl (.expired 0) h (by rintro fault ⟨⟩) 0 _ (by decide) rfl
  exact ⟨w', _, hjournal, hpolls rfl⟩

/-- What an entry tells about time and hits. -/
def Entry.mark? {W T : Type} (e : Entry W T) : Option (Bool ⊕ T) :=
  match e.deed with
  | .asked _ _ => some (.inl e.isHit)
  | .read t => some (.inr t)
  | .paused _ => none

/-- A wait goes on although the clock has reached its infinite deadline directly behind a look-up
that is no hit, and is cancelled later. -/
theorem Validator.not_expired_at_infinity :
    let large : Binary64 := .ofDecimal false 17 307
    ((Rehearsal.validator.waitForCallback Rehearsal.world.journaled 2 Rehearsal.payload
        (some large) ({ clock := large, tick := large, cancelAfter := some 1 }, [])).map
          fun r ↦ (r.1, r.2.2.filterMap Entry.mark?)) =
        some (.cancelled, [.inr large, .inl false, .inr (.infinity false)]) ∧
      large + Rehearsal.validator.effectiveTimeout (some large) ≤ Binary64.infinity false := by
  decide +kernel

end VulnScanner
