import Mathlib.Algebra.Order.Floor.Semiring
import Mathlib.Data.Rat.Floor
import Mathlib.Tactic.FieldSimp
import Mathlib.Tactic.Linarith
import VulnScanner.Proofs.Payload.Outcome
import VulnScanner.Proofs.Steps

/-!
# How often a wait asks

With exact times, and a clock that moves in pauses only, the look-ups of a wait stand at whole
intervals from its start, and the last one stands at the deadline. Pauses that take longer leave
fewer of them. What is recorded before the deadline is found less than an interval later.
-/

namespace VulnScanner

variable {W : Type} {world : World W ℚ} {clock : W → ℚ}

/-! ### Clocks -/

/-- A world with a clock that readings and look-ups leave as it is, and without a signal to stop. -/
structure World.Steady (world : World W ℚ) (clock : W → ℚ) : Prop where
  now_eq : ∀ w, (world.now w).1 = clock w
  clock_reading : ∀ w, clock (world.reading w).after = clock w
  clock_asking : ∀ request w, clock (world.asking request w).after = clock w
  isCancelled_eq : ∀ w, world.isCancelled w = false

/-- At the end of a turn the clock stands where it stood at its start. -/
theorem World.Steady.of_turn (hs : world.Steady clock) {request : Http.Request} {w w₁ w₂ : W}
    {t : ℚ} (hw : (world.asking request w).after = w₁) (ht : (world.now w₁).1 = t)
    (hr : (world.reading w₁).after = w₂) : t = clock w ∧ clock w₂ = clock w := by
  constructor
  · rw [← ht, hs.now_eq, ← hw, hs.clock_asking]
  · rw [← hr, hs.clock_reading, ← hw, hs.clock_asking]

/-- Pauses take as long as they should. -/
def World.PausesExactly (world : World W ℚ) (clock : W → ℚ) : Prop :=
  ∀ length w, 0 < length → clock (world.pausing length w).after = clock w + length

/-- Pauses take at least as long as they should. -/
def World.PausesAtLeast (world : World W ℚ) (clock : W → ℚ) : Prop :=
  ∀ length w, 0 < length → clock w + length ≤ clock (world.pausing length w).after

/-- The number of whole intervals that have begun before a time has passed. -/
def turnsIn (interval left : ℚ) : ℕ := ⌈left / interval⌉₊

/-- No turn fits into no time. -/
theorem turnsIn_of_nonpos {interval left : ℚ} (hi : 0 < interval) (hl : left ≤ 0) :
    turnsIn interval left = 0 :=
  Nat.ceil_eq_zero.mpr (div_nonpos_of_nonpos_of_nonneg hl hi.le)

/-- Behind a turn there is one turn less to go. -/
theorem turnsIn_of_pos {interval left : ℚ} (hi : 0 < interval) (hl : 0 < left) :
    turnsIn interval left = turnsIn interval (left - min interval left) + 1 := by
  rcases le_total interval left with h | h
  · have hone : left / interval = (left - interval) / interval + 1 := by field_simp; ring
    have hrest : 0 ≤ (left - interval) / interval := div_nonneg (sub_nonneg.mpr h) hi.le
    rw [min_eq_left h, turnsIn, hone, Nat.ceil_add_one hrest, turnsIn]
  · rw [min_eq_right h, sub_self, turnsIn_of_nonpos hi le_rfl, turnsIn,
      Nat.ceil_eq_iff (by decide)]
    constructor
    · simpa using div_pos hl hi
    · simpa using (div_le_one hi).mpr h

/-- More time has more turns. -/
theorem turnsIn_mono {interval : ℚ} (hi : 0 < interval) : Monotone (turnsIn interval) :=
  fun _ _ h ↦ Nat.ceil_mono (div_le_div_of_nonneg_right h hi.le)

/-- Less time than none has as many turns as none. -/
theorem turnsIn_max {interval left : ℚ} (hi : 0 < interval) :
    turnsIn interval (max left 0) = turnsIn interval left := by
  rcases le_total left 0 with h | h
  · rw [max_eq_right h, turnsIn_of_nonpos hi le_rfl, turnsIn_of_nonpos hi h]
  · rw [max_eq_left h]

/-- The sooner of two times is the smaller one. -/
theorem soonerOf_eq_min (a b : ℚ) : soonerOf a b = min a b := by
  rw [soonerOf]
  split
  · next h => exact (min_eq_right h.le).symm
  · next h => exact (min_eq_left (not_lt.mp h)).symm

/-- The later of two times is the larger one. -/
theorem laterOf_eq_max (a b : ℚ) : laterOf a b = max a b := by
  rw [laterOf]
  split
  · next h => exact (max_eq_right h.le).symm
  · next h => exact (max_eq_left (not_lt.mp h)).symm

/-! ### Look-ups of a course -/

/-- The times of the look-ups of a wait with some time left: one at the start of each interval,
and one at the end. -/
def pollTimes (interval start left : ℚ) : List ℚ :=
  (List.range (turnsIn interval left)).map (fun i : ℕ ↦ start + i * interval) ++
    [start + max left 0]

/-- With no time left there is one look-up, at once. -/
theorem pollTimes_of_nonpos {interval left : ℚ} (hi : 0 < interval) (start : ℚ) (hl : left ≤ 0) :
    pollTimes interval start left = [start] := by
  rw [pollTimes, turnsIn_of_nonpos hi hl, max_eq_right hl, add_zero]
  rfl

/-- With time left there is a look-up at once, and then those behind a pause. -/
theorem pollTimes_of_pos {interval left : ℚ} (hi : 0 < interval) (start : ℚ) (hl : 0 < left) :
    pollTimes interval start left =
      start :: pollTimes interval (start + min interval left) (left - min interval left) := by
  have hend : start + max left 0 =
      start + min interval left + max (left - min interval left) 0 := by
    rw [max_eq_left hl.le, max_eq_left (sub_nonneg.mpr (min_le_right _ _))]
    ring
  have hturns : (List.range (turnsIn interval (left - min interval left))).map
        ((fun i : ℕ ↦ start + i * interval) ∘ Nat.succ) =
      (List.range (turnsIn interval (left - min interval left))).map
        fun i : ℕ ↦ start + min interval left + i * interval := by
    rcases le_total interval left with h | h
    · rw [min_eq_left h]
      refine List.map_congr_left fun i _ ↦ ?_
      simp only [Function.comp_apply, Nat.succ_eq_add_one, Nat.cast_add, Nat.cast_one]
      ring
    · rw [min_eq_right h, sub_self, turnsIn_of_nonpos hi le_rfl]
      rfl
  rw [pollTimes, pollTimes, turnsIn_of_pos hi hl, List.range_succ_eq_map, List.map_cons,
    List.map_map, List.cons_append, hend, hturns, Nat.cast_zero, zero_mul, add_zero]

section Courses

variable {request : Http.Request} {interval deadline : ℚ} {w : W} {course : List (Entry W ℚ)}
variable {e : WaitEnd} (hs : world.Steady clock) (hi : 0 < interval)

include hs hi

/-- Without hits and with exact pauses a wait asks at the start of each interval and at the
deadline. -/
theorem Course.polls_of_pausesExactly (hp : world.PausesExactly clock)
    (hn : ∀ request w, (world.asking request w).isHit = false)
    (h : Course world request interval deadline w course e) :
    e = .expired ∧ (pollsOf course).map (fun poll ↦ clock poll.after) =
      pollTimes interval (clock w) (deadline - clock w) := by
  induction h with
  | cancelled hc => simp [hs.isCancelled_eq] at hc
  | recorded hc hh => simp [hn] at hh
  | @expired w w₁ t hc hh hw ht hd =>
    rw [(hs.of_turn hw ht rfl).1] at hd
    refine ⟨rfl, ?_⟩
    rw [pollTimes_of_nonpos hi _ hd]
    simp [hs.clock_asking]
  | @again w w₁ w₂ w₃ t rest e hc hh hw ht hd hr hpause h ih =>
    obtain ⟨rfl, hclock⟩ := hs.of_turn hw ht hr
    have hleft : 0 < deadline - clock w := not_le.mp hd
    have hnext : clock w₃ = clock w + min interval (deadline - clock w) := by
      rw [← hpause, soonerOf_eq_min, hp _ _ (lt_min hi hleft), hclock]
    refine ⟨ih.1, ?_⟩
    rw [pollTimes_of_pos hi _ hleft, pollsOf_asking_cons, pollsOf_reading_cons,
      pollsOf_pausing_cons, List.map_cons, ih.2, hs.clock_asking, hnext, sub_add_eq_sub_sub]

/-- Without hits and with pauses that may take longer a wait asks no more often. -/
theorem Course.polls_of_pausesAtLeast (hp : world.PausesAtLeast clock)
    (hn : ∀ request w, (world.asking request w).isHit = false)
    (h : Course world request interval deadline w course e) :
    e = .expired ∧ (pollsOf course).length ≤ turnsIn interval (deadline - clock w) + 1 := by
  induction h with
  | cancelled hc => simp [hs.isCancelled_eq] at hc
  | recorded hc hh => simp [hn] at hh
  | expired hc hh hw ht hd => exact ⟨rfl, by simp⟩
  | @again w w₁ w₂ w₃ t rest e hc hh hw ht hd hr hpause h ih =>
    obtain ⟨rfl, hclock⟩ := hs.of_turn hw ht hr
    have hleft : 0 < deadline - clock w := not_le.mp hd
    have hnext : clock w + min interval (deadline - clock w) ≤ clock w₃ := by
      rw [← hpause, soonerOf_eq_min, ← hclock]
      exact hp _ w₂ (lt_min hi (by rwa [hclock]))
    have hturns : turnsIn interval (deadline - clock w₃) ≤
        turnsIn interval (deadline - clock w - min interval (deadline - clock w)) :=
      turnsIn_mono hi (by linarith)
    refine ⟨ih.1, ?_⟩
    rw [turnsIn_of_pos hi hleft, pollsOf_asking_cons, pollsOf_reading_cons, pollsOf_pausing_cons,
      List.length_cons]
    exact Nat.succ_le_succ (ih.2.trans (Nat.succ_le_succ hturns))

/-- With exact pauses, and hits from some time on, a wait finds what is there at its end, less than
an interval later. -/
theorem Course.recorded_of_pausesExactly (hp : world.PausesExactly clock) {since : ℚ}
    (hh : ∀ request w, (world.asking request w).isHit = true ↔ since ≤ clock w)
    (h : Course world request interval deadline w course e) :
    (e = .recorded ↔ since ≤ max deadline (clock w)) ∧
      (clock w < since + interval → e = .recorded →
        ∃ poll, (pollsOf course).getLast? = some poll ∧
          since ≤ clock poll.after ∧ clock poll.after < since + interval) := by
  have hmiss : ∀ request w, (world.asking request w).isHit = false ↔ clock w < since := by
    intro request w
    rw [← Bool.not_eq_true, hh, not_le]
  induction h with
  | cancelled hc => simp [hs.isCancelled_eq] at hc
  | @recorded w hc hhit =>
    have hsince := (hh _ _).mp hhit
    refine ⟨iff_of_true rfl (le_max_of_le_right hsince), fun hlt _ ↦ ?_⟩
    refine ⟨world.asking request w, rfl, ?_⟩
    rw [hs.clock_asking]
    exact ⟨hsince, hlt⟩
  | @expired w w₁ t hc hhit hw ht hd =>
    obtain ⟨rfl, -⟩ := hs.of_turn hw ht rfl
    have hsince := (hmiss _ _).mp hhit
    have hmax : max deadline (clock w) = clock w := max_eq_right (sub_nonpos.mp hd)
    refine ⟨iff_of_false (by simp) ?_, by simp⟩
    rw [hmax]
    exact not_le.mpr hsince
  | @again w w₁ w₂ w₃ t rest e hc hhit hw ht hd hr hpause h ih =>
    obtain ⟨rfl, hclock⟩ := hs.of_turn hw ht hr
    have hsince := (hmiss _ _).mp hhit
    have hleft : 0 < deadline - clock w := not_le.mp hd
    have hnext : clock w₃ = clock w + min interval (deadline - clock w) := by
      rw [← hpause, soonerOf_eq_min, hp _ _ (lt_min hi hleft), hclock]
    have hend : clock w₃ ≤ deadline := by
      linarith [min_le_right interval (deadline - clock w)]
    have hmax : max deadline (clock w₃) = max deadline (clock w) := by
      rw [max_eq_left hend, max_eq_left (sub_pos.mp hleft).le]
    refine ⟨by rw [ih.1, hmax], fun _ he ↦ ?_⟩
    have hlt : clock w₃ < since + interval := by
      linarith [min_le_left interval (deadline - clock w)]
    obtain ⟨poll, hlast, hpoll⟩ := ih.2 hlt he
    refine ⟨poll, ?_, hpoll⟩
    rw [pollsOf_asking_cons, pollsOf_reading_cons, pollsOf_pausing_cons, List.getLast?_cons,
      hlast]
    rfl

end Courses

/-! ### The end of a wait -/

/-- Exact pauses are long enough. -/
theorem World.PausesExactly.atLeast (h : world.PausesExactly clock) :
    world.PausesAtLeast clock :=
  fun length w hl ↦ (h length w hl).ge

/-- A wait that can ask the server ends within one look-up more than there are turns. -/
theorem exists_waitUntil (hs : world.Steady clock) (hp : world.PausesAtLeast clock)
    {client : Callback.Client} {secret : String} {since : Binary64} {request : Http.Request}
    (hr : client.lookupRequest secret (some since) = .ok request) {interval deadline : ℚ}
    (hi : 0 < interval) {polls : ℕ} {w : W} (hw : turnsIn interval (deadline - clock w) < polls) :
    ∃ r, waitUntil world (client.lookUp world secret since) interval deadline polls w =
      some r := by
  induction polls generalizing w with
  | zero => exact absurd hw (Nat.not_lt_zero _)
  | succ polls ih =>
    obtain ⟨hclock, hclock'⟩ : (world.now (world.asking request w).after).1 = clock w ∧
        clock (world.reading (world.asking request w).after).after = clock w :=
      hs.of_turn rfl rfl rfl
    rw [waitUntil_succ hr polls rfl rfl rfl, hclock,
      if_neg (Bool.eq_false_iff.mp (hs.isCancelled_eq w))]
    split_ifs with hh hd
    · exact ⟨_, rfl⟩
    · exact ⟨_, rfl⟩
    · apply ih
      have hleft : 0 < deadline - clock w := not_le.mp hd
      have hnext := hp _ (world.reading (world.asking request w).after).after (lt_min hi hleft)
      rw [hclock'] at hnext
      rw [turnsIn_of_pos hi hleft] at hw
      refine Nat.lt_of_le_of_lt (turnsIn_mono hi ?_) (Nat.succ_lt_succ_iff.mp hw)
      rw [soonerOf_eq_min]
      linarith

namespace Validator

/-- A wait that can ask the server comes to its end, and its journal is a course. -/
theorem exists_course_of_steady (hs : world.Steady clock) (hp : world.PausesAtLeast clock)
    {v : Validator ℚ} {client : Callback.Client} (hc : v.client = some client) {p : Payload}
    {secret : String} (hsecret : p.callbackSecret = some secret) (hne : secret ≠ "")
    {request : Http.Request} (hr : client.lookupRequest secret (some p.createdAt) = .ok request)
    (hi : 0 < v.interval) (timeout : Option ℚ) (polls : ℕ) (w : W)
    (hw : turnsIn v.interval (v.effectiveTimeout timeout) < polls) :
    ∃ w' course e, v.waitForCallback world.journaled polls p timeout (w, []) =
        some (e.verdict (v.effectiveTimeout timeout), w', world.reading w :: course) ∧
      Course world request v.interval (clock w + v.effectiveTimeout timeout)
        (world.now w).2 course e := by
  have hclock : clock (world.now w).2 = clock w := hs.clock_reading w
  have hturns : turnsIn v.interval
      (clock w + v.effectiveTimeout timeout - clock (world.now w).2) < polls := by
    rwa [hclock, add_sub_cancel_left]
  obtain ⟨⟨e, w'⟩, hplain⟩ := exists_waitUntil hs hp hr hi hturns
  rw [waitUntil_journaled polls ((world.now w).2, [world.reading w])] at hplain
  obtain ⟨⟨e, s⟩, hrun, hend⟩ := Option.map_eq_some_iff.mp hplain
  obtain ⟨course, hjournal, hcourse⟩ := course_of_waitUntil hr hrun
  refine ⟨s.1, course, e, ?_, hcourse⟩
  rw [waitForCallback_eq hc hsecret hne, Option.map_eq_some_iff]
  refine ⟨(e, s), ?_, Prod.ext rfl (Prod.ext rfl hjournal)⟩
  rw [← hrun, ← hs.now_eq w]
  rfl

/-- With exact times, without a signal to stop and with look-ups that take no time, a wait that
finds nothing asks once more than intervals begin in its time, at the start of each interval and at
its end, and no more often when pauses take longer. If the server says yes from some time on, that
is recorded exactly if the time is not past the deadline, and less than an interval later. -/
theorem waitForCallback_polls (hs : world.Steady clock) (client : Callback.Client)
    (interval defaultTimeout : ℚ) (v : Validator ℚ)
    (hm : v = .make (some client) (1 / 20) interval defaultTimeout) (p : Payload) (secret : String)
    (hsecret : p.callbackSecret = some secret) (hne : secret ≠ "") (request : Http.Request)
    (hr : client.lookupRequest secret (some p.createdAt) = .ok request) (timeout : Option ℚ)
    (w : W) (limit time step : ℚ) (hl : limit = v.effectiveTimeout timeout)
    (ht : time = max limit 0) (hstep : step = max interval (1 / 20)) (polls : ℕ)
    (hpolls : ⌈time / step⌉₊ + 1 ≤ polls) :
    (world.PausesExactly clock → (∀ request w, (world.asking request w).isHit = false) →
      ∃ w' journal, v.waitForCallback world.journaled polls p timeout (w, []) =
          some (.expired limit, w', journal) ∧
        (pollsOf journal).length = ⌈time / step⌉₊ + 1 ∧
        (pollsOf journal).map (fun poll ↦ clock poll.after) =
          (List.range ⌈time / step⌉₊).map (fun i : ℕ ↦ clock w + i * step) ++
            [clock w + time]) ∧
    (world.PausesAtLeast clock → (∀ request w, (world.asking request w).isHit = false) →
      ∃ w' journal, v.waitForCallback world.journaled polls p timeout (w, []) =
          some (.expired limit, w', journal) ∧
        (pollsOf journal).length ≤ ⌈time / step⌉₊ + 1) ∧
    (world.PausesExactly clock → ∀ since : ℚ,
      (∀ request w, (world.asking request w).isHit = true ↔ since ≤ clock w) →
      ∃ verdict w' journal, v.waitForCallback world.journaled polls p timeout (w, []) =
          some (verdict, w', journal) ∧
        (verdict = .recorded ↔ since ≤ clock w + time) ∧
        (clock w ≤ since → verdict = .recorded →
          ∃ poll, (pollsOf journal).getLast? = some poll ∧ poll.isHit = true ∧
            since ≤ clock poll.after ∧ clock poll.after < since + step)) := by
  have hi : 0 < v.interval := by
    rw [hm, make, laterOf_eq_max]
    exact lt_max_of_lt_right (by norm_num)
  have hinterval : v.interval = step := by rw [hm, make, laterOf_eq_max, hstep]
  have hturns : turnsIn v.interval limit = ⌈time / step⌉₊ := by
    rw [← turnsIn_max hi, ← ht, hinterval, turnsIn]
  have hclock : clock (world.now w).2 = clock w := hs.clock_reading w
  have hcourse : world.PausesAtLeast clock → _ := fun hp ↦
    exists_course_of_steady hs hp (v := v) (by rw [hm]; rfl) hsecret hne hr hi timeout polls
      w (by rw [← hl, hturns]; exact hpolls)
  rw [← hl] at hcourse
  refine ⟨fun hp hn ↦ ?_, fun hp hn ↦ ?_, fun hp since hh ↦ ?_⟩
  · obtain ⟨w', course, e, hrun, h⟩ := hcourse hp.atLeast
    obtain ⟨rfl, htimes⟩ := h.polls_of_pausesExactly hs hi hp hn
    rw [hclock, add_sub_cancel_left, pollTimes, hturns, hinterval, ← ht] at htimes
    refine ⟨w', _, hrun, ?_, htimes⟩
    have hlength := congrArg List.length htimes
    simpa using hlength
  · obtain ⟨w', course, e, hrun, h⟩ := hcourse hp
    obtain ⟨rfl, hlength⟩ := h.polls_of_pausesAtLeast hs hi hp hn
    rw [hclock, add_sub_cancel_left, hturns] at hlength
    exact ⟨w', _, hrun, hlength⟩
  · obtain ⟨w', course, e, hrun, h⟩ := hcourse hp.atLeast
    obtain ⟨hiff, hsoon⟩ := h.recorded_of_pausesExactly hs hi hp hh
    have hend : max (clock w + limit) (clock w) = clock w + time := by
      rw [ht, ← max_add_add_left, add_zero]
    rw [hclock, hend] at hiff
    rw [hclock, hinterval] at hsoon
    refine ⟨_, w', _, hrun, (e.verdict_eq_recorded_iff limit).trans hiff, ?_⟩
    intro hstart hrecorded
    have he := (e.verdict_eq_recorded_iff limit).mp hrecorded
    obtain ⟨poll, hlast, hpoll⟩ := hsoon (by linarith) he
    obtain ⟨poll', hlast', hhit⟩ := h.recorded_iff.mp he
    rw [hlast] at hlast'
    cases hlast'
    exact ⟨poll, hlast, hhit, hpoll⟩

end Validator

/-- A world that is its own clock and in which nothing is ever recorded. -/
def idleWorld : World ℚ ℚ where
  now w := (w, w)
  exchange _ w := (Rehearsal.emptyReply, w)
  isCancelled _ := false
  pause length w := w + length

/-- An eighth of a second holds two and a half of the shortest intervals, and so four look-ups. -/
theorem Validator.waitForCallback_polls_eighth :
    ∃ w' journal, (Validator.make (some Rehearsal.client) (1 / 20) 0 10).waitForCallback
        idleWorld.journaled 4 Rehearsal.payload (some (1 / 8)) (0, []) =
          some (.expired (1 / 8), w', journal) ∧
      (pollsOf journal).map Entry.after = [0, 1 / 20, 1 / 10, 1 / 8] := by
  have hsteady : idleWorld.Steady id := ⟨fun _ ↦ rfl, fun _ ↦ rfl, fun _ _ ↦ rfl, fun _ ↦ rfl⟩
  have hrequest : (Rehearsal.client.lookupRequest "s" (some 0)).toOption.isSome = true := by
    decide +kernel
  obtain ⟨request, hr⟩ := Option.isSome_iff_exists.mp hrequest
  have hmiss : (Callback.Client.verdict Rehearsal.emptyReply).toOption.getD false = false := by
    decide +kernel
  have hlimit : (1 / 8 : ℚ) = (Validator.make (some Rehearsal.client) (1 / 20) 0
      10).effectiveTimeout (some (1 / 8)) := by
    rw [effectiveTimeout, laterOf_eq_max]
    norm_num
  have hturns : ⌈(1 / 8 : ℚ) / (1 / 20)⌉₊ = 3 := by
    rw [Nat.ceil_eq_iff (by decide)]
    norm_num
  obtain ⟨w', journal, hrun, -, htimes⟩ := (waitForCallback_polls hsteady Rehearsal.client 0 10 _
    rfl Rehearsal.payload "s" rfl (by decide) request (toOption_eq_some_iff.mp hr)
    (some (1 / 8)) 0 (1 / 8) (1 / 8) (1 / 20) hlimit (by norm_num) (by norm_num) 4
    (by rw [hturns])).1 (fun _ _ _ ↦ rfl) (fun _ _ ↦ hmiss)
  refine ⟨w', journal, hrun, htimes.trans ?_⟩
  rw [hturns]
  simp only [List.range_succ, List.range_zero, List.nil_append, List.map_append, List.map_cons,
    List.map_nil, id]
  norm_num

end VulnScanner
