import Mathlib.Logic.Relation
import VulnScanner.Proofs.Scan.Tasks

/-!
# The pool of workers

Tasks wait until a worker is free, run, and end; what has ended is gathered into the summary, in
any order. Each of these steps is one of `Pool.Step`, and a run is any row of steps. Nothing is lost
and nothing is counted twice on the way, every run can be brought to its end, and the summary at
the end is that of a schedule: it does not depend on the number of workers, and on the order
of the steps only in its own order.
-/

namespace VulnScanner

/-- A pool with the summary gathered so far. Tasks are known by their numbers. -/
structure Pool where
  waiting : List Nat
  running : List Nat := []
  /-- The tasks that have ended, each with its outcome, in the order in which they ran. -/
  ended : List (Nat × Outcome) := []
  /-- The tasks whose outcomes were added to the summary, in order. -/
  gathered : List Nat := []
  session : Session
  summary : ScanSummary

namespace Pool

variable {workers workers' : Int} {target : String} {tasks : List Selection} {s : Session}
  {p q : Pool} {number : Nat}

/-- The pool in which all tasks wait. -/
def start (target : String) (tasks : List Selection) (s : Session) : Pool where
  waiting := List.range tasks.length
  session := s
  summary := { target := target }

/-- A step of a pool with a number of workers. -/
inductive Step (workers : Int) (target : String) (tasks : List Selection) : Pool → Pool → Prop
  /-- A free worker takes a task. -/
  | take {p : Pool} {number : Nat} (hwaiting : number ∈ p.waiting)
      (hfree : p.running.length < workers) :
      Step workers target tasks p
        { p with waiting := p.waiting.erase number, running := number :: p.running }
  /-- A running task ends. -/
  | finish {p : Pool} {number : Nat} {task : Selection} {outcome : Outcome} {t : Session}
      (hrunning : number ∈ p.running) (htask : tasks[number]? = some task)
      (hrun : (Scanner.execute target task).run p.session = (outcome, t)) :
      Step workers target tasks p
        { p with
          running := p.running.erase number
          ended := p.ended ++ [(number, outcome)]
          session := t }
  /-- The outcome of a task that has ended is added to the summary. -/
  | gather {p : Pool} {number : Nat} {task : Selection} {outcome : Outcome}
      (hended : (number, outcome) ∈ p.ended) (hnew : number ∉ p.gathered)
      (htask : tasks[number]? = some task) :
      Step workers target tasks p
        { p with
          gathered := p.gathered ++ [number]
          summary := p.summary.add task.definition.pluginId outcome }

/-- A run of a pool: any row of steps. -/
abbrev Run (workers : Int) (target : String) (tasks : List Selection) : Pool → Pool → Prop :=
  Relation.ReflTransGen (Step workers target tasks)

/-- Nothing waits, nothing runs, and all that has ended is gathered. -/
structure IsDone (p : Pool) : Prop where
  waiting : p.waiting = []
  running : p.running = []
  gathered : ∀ number ∈ p.ended.map Prod.fst, number ∈ p.gathered

/-! ### What every step keeps -/

/-- What holds in every pool on the way from the start: each task stands in exactly one place,
those that have ended ran one after the other, and the summary holds what was gathered of them. -/
structure Valid (target : String) (tasks : List Selection) (s : Session) (p : Pool) : Prop where
  placed : (p.waiting ++ p.running ++ p.ended.map Prod.fst).Perm (List.range tasks.length)
  ran : (Scanner.runTasks target tasks (p.ended.map Prod.fst)).run s = (p.ended, p.session)
  nodup : p.gathered.Nodup
  subset : p.gathered ⊆ p.ended.map Prod.fst
  summary : p.summary = Scanner.gather target tasks p.ended p.gathered

/-- Everything holds at the start. -/
theorem valid_start : Valid target tasks s (start target tasks s) where
  placed := by simp [start]
  ran := rfl
  nodup := List.nodup_nil
  subset := List.nil_subset _
  summary := rfl

/-- Each number stands in one place. -/
theorem Valid.nodup_places (h : Valid target tasks s p) :
    (p.waiting ++ p.running ++ p.ended.map Prod.fst).Nodup :=
  h.placed.nodup_iff.mpr List.nodup_range

/-- What stands in some place is the number of a task. -/
theorem Valid.getElem?_eq_some (h : Valid target tasks s p)
    (hn : number ∈ p.waiting ++ p.running ++ p.ended.map Prod.fst) :
    ∃ task, tasks[number]? = some task :=
  ⟨_, List.getElem?_eq_getElem (List.mem_range.mp (h.placed.mem_iff.mp hn))⟩

/-- No task has ended twice. -/
theorem Valid.nodup_ended (h : Valid target tasks s p) : (p.ended.map Prod.fst).Nodup :=
  h.nodup_places.sublist (List.sublist_append_right ..)

/-- A step keeps everything. -/
theorem Valid.step (h : Valid target tasks s p) (hstep : Step workers target tasks p q) :
    Valid target tasks s q := by
  cases hstep with
  | @take number hwaiting _ =>
    have hmoved : (p.waiting.erase number ++ number :: p.running).Perm (p.waiting ++ p.running) :=
      List.perm_middle.trans ((List.perm_cons_erase hwaiting).symm.append_right _)
    exact ⟨(hmoved.append_right _).trans h.placed, h.ran, h.nodup, h.subset, h.summary⟩
  | @finish number task outcome t hrunning htask hrun =>
    have hkeys : (p.ended ++ [(number, outcome)]).map Prod.fst =
        p.ended.map Prod.fst ++ [number] := List.map_append
    have hmoved : (p.running.erase number ++ (p.ended.map Prod.fst ++ [number])).Perm
        (p.running ++ p.ended.map Prod.fst) := by
      rw [← List.append_assoc]
      refine List.perm_append_comm.trans ?_
      exact ((List.perm_cons_erase hrunning).symm.append_right _)
    refine ⟨?_, ?_, h.nodup, ?_, ?_⟩
    · rw [hkeys, List.append_assoc]
      refine (hmoved.append_left _).trans ?_
      rw [← List.append_assoc]
      exact h.placed
    · rw [hkeys]
      exact Scanner.runTasks_concat h.ran htask hrun
    · rw [hkeys]
      exact fun n hn ↦ List.mem_append_left _ (h.subset hn)
    · rw [Scanner.gather_append h.subset]
      exact h.summary
  | @gather number task outcome hended hnew htask =>
    refine ⟨h.placed, h.ran, ?_, ?_, ?_⟩
    · rw [List.nodup_append_comm]
      exact List.nodup_cons.mpr ⟨hnew, h.nodup⟩
    · refine List.append_subset.mpr ⟨h.subset, ?_⟩
      intro n hn
      rw [List.mem_singleton.mp hn]
      exact List.mem_map_of_mem hended
    · have hlookup := (lookup_eq_some_iff_mem h.nodup_ended).mpr hended
      rw [Scanner.gather_concat htask hlookup, ← h.summary]

/-- A run keeps everything. -/
theorem Valid.run (h : Valid target tasks s p) (hrun : Run workers target tasks p q) :
    Valid target tasks s q := by
  induction hrun with
  | refl => exact h
  | tail _ hstep ih => exact ih.step hstep

/-! ### Coming to an end -/

/-- As long as a pool with a worker is not done, some step can be made. -/
theorem Valid.exists_step (h : Valid target tasks s p) (hw : 1 ≤ workers) (hp : ¬ p.IsDone) :
    ∃ q, Step workers target tasks p q := by
  cases hrunning : p.running with
  | cons number rest =>
    have hmem : number ∈ p.running := hrunning ▸ List.mem_cons_self
    have hplace : number ∈ p.waiting ++ p.running ++ p.ended.map Prod.fst :=
      List.mem_append_left _ (List.mem_append_right _ hmem)
    obtain ⟨task, htask⟩ := h.getElem?_eq_some hplace
    obtain ⟨t, hrun, -⟩ := Scanner.execute_run target task p.session
    exact ⟨_, .finish hmem htask hrun⟩
  | nil =>
    cases hwaiting : p.waiting with
    | cons number rest =>
      have hfree : (p.running.length : Int) < workers := by
        rw [hrunning, List.length_nil]
        omega
      exact ⟨_, .take (hwaiting ▸ List.mem_cons_self) hfree⟩
    | nil =>
      have hleft : ∃ e ∈ p.ended, e.1 ∉ p.gathered := by
        by_contra hnone
        refine hp ⟨hwaiting, hrunning, fun number hn ↦ ?_⟩
        obtain ⟨e, he, rfl⟩ := List.mem_map.mp hn
        by_contra hnot
        exact hnone ⟨e, he, hnot⟩
      obtain ⟨⟨number, outcome⟩, he, hnew⟩ := hleft
      obtain ⟨task, htask⟩ := h.getElem?_eq_some
        (List.mem_append_right _ (List.mem_map_of_mem he))
      exact ⟨_, .gather he hnew htask⟩

/-- How many steps are left. -/
def left (tasks : List Selection) (p : Pool) : Nat :=
  2 * p.waiting.length + p.running.length + (tasks.length - p.gathered.length)

/-- No more is gathered than there are tasks. -/
theorem Valid.length_gathered_le (h : Valid target tasks s p) :
    p.gathered.length ≤ tasks.length := by
  have hended := h.nodup.length_le_of_subset h.subset
  have hplaced := h.placed.length_eq
  simp only [List.length_append, List.length_range] at hplaced
  omega

/-- With each step fewer are left. -/
theorem Valid.left_lt (h : Valid target tasks s p) (hstep : Step workers target tasks p q) :
    left tasks q < left tasks p := by
  have hq := (h.step hstep).length_gathered_le
  unfold left
  cases hstep with
  | @take number hwaiting _ =>
    have hlength := List.length_erase_add_one hwaiting
    simp only [List.length_cons] at hq ⊢
    omega
  | @finish number task outcome t hrunning _ _ =>
    have hlength := List.length_erase_add_one hrunning
    dsimp only
    omega
  | gather =>
    simp only [List.length_append, List.length_singleton] at hq ⊢
    omega

/-- Every run of a pool with a worker can be brought to its end. -/
theorem Valid.exists_done (h : Valid target tasks s p) (hw : 1 ≤ workers) :
    ∃ q, Run workers target tasks p q ∧ q.IsDone := by
  induction hleft : left tasks p using Nat.strongRecOn generalizing p with
  | ind count ih =>
    by_cases hp : p.IsDone
    · exact ⟨p, .refl, hp⟩
    · obtain ⟨q, hstep⟩ := h.exists_step hw hp
      obtain ⟨r, hrun, hr⟩ := ih _ (hleft ▸ h.left_lt hstep) (h.step hstep) rfl
      exact ⟨r, .head hstep hrun, hr⟩

/-- The orders in which tasks ran and were gathered are a complete schedule once all is done. -/
theorem Valid.isComplete (h : Valid target tasks s p) (hp : p.IsDone) :
    (Schedule.mk (p.ended.map Prod.fst) p.gathered).IsComplete tasks.length := by
  have hended : (p.ended.map Prod.fst).Perm (List.range tasks.length) := by
    have hplaced := h.placed
    rwa [hp.waiting, hp.running, List.append_nil, List.nil_append] at hplaced
  refine ⟨hended, List.Perm.trans ?_ hended⟩
  exact (List.perm_ext_iff_of_nodup h.nodup h.nodup_ended).mpr fun n ↦
    ⟨fun hn ↦ h.subset hn, hp.gathered n⟩

/-- Once all is done, the summary is that of what each task comes to by itself, in some order. -/
theorem Valid.exists_summary_eq (h : Valid target tasks s p) (hp : p.IsDone)
    (hids : (tasks.map (·.definition.pluginId)).Nodup) (hobj : (tasks.map (·.object)).Nodup) :
    ∃ order : List Selection, order.Perm tasks ∧
      p.summary = Scanner.summaryOf target (order.map (Scanner.resultOf target s)) := by
  obtain ⟨order, horder, hsummary⟩ := Scanner.gather_runTasks hids hobj (h.isComplete hp)
  rw [h.ran] at hsummary
  exact ⟨order, horder, h.summary.trans hsummary⟩

/-- Whatever the number of workers, every run of the tasks chosen for a report can be brought to its
end. The summary at the end is that of a complete schedule and accounts for all of the tasks, and
the ends of any two runs, with any numbers of workers, differ in the order of their entries at
most. -/
theorem run_summary {scanner : Scanner} {report : Option ReconReport} {s₀ : Session}
    (hr : scanner.registry.Reached)
    (htasks : (scanner.selector.detectors report).Gives s₀ tasks s)
    (hobj : (tasks.map (·.object)).Nodup) (target : String) :
    (∀ p, Run scanner.workerCount target tasks (start target tasks s) p →
      ∃ q, Run scanner.workerCount target tasks p q ∧ q.IsDone) ∧
    ∀ p, Run scanner.workerCount target tasks (start target tasks s) p → p.IsDone →
      (∃ plan : Schedule, plan.IsComplete tasks.length ∧
        (scanner.detect (fun _ ↦ plan) target report).Gives s₀ p.summary p.session) ∧
      Scanner.Accounts target s tasks p.summary ∧
      ∀ (workers : Int) (q : Pool),
        Run ({ scanner with workers := workers } : Scanner).workerCount target tasks
          (start target tasks s) q → q.IsDone → q.summary.SameUpToOrder p.summary := by
  have hids := Selector.nodup_ids_of_gives_detectors rfl hr htasks
  refine ⟨fun p hrun ↦ (valid_start.run hrun).exists_done (Int.le_max_left ..), fun p hrun hp ↦ ?_⟩
  have hvalid := valid_start.run hrun
  obtain ⟨order, horder, hsummary⟩ := hvalid.exists_summary_eq hp hids hobj
  refine ⟨⟨_, hvalid.isComplete hp, ?_⟩, ?_, fun workers q hrun' hq ↦ ?_⟩
  · rw [Scanner.gives_detect_iff]
    refine ⟨tasks, s, htasks, ?_, ?_⟩ <;>
    rw [hvalid.ran]
    exact hvalid.summary.symm
  · rw [hsummary]
    exact Scanner.accounts_summaryOf hids horder
  · obtain ⟨order', horder', hsummary'⟩ := (valid_start.run hrun').exists_summary_eq hq hids hobj
    rw [hsummary, hsummary']
    exact Scanner.summaryOf_perm ((horder'.trans horder.symm).map _)

/-- Three detectors: one that finds something, one that fails, and one that gives nothing. -/
def unevenDetectors : List Blueprint :=
  [fixedDetector (.ok (some [{ pluginId := "a", service := none, title := "found" }])),
    fixedDetector (.error (.raised "boom")), fixedDetector (.ok none)]

/-- A scanner of these detectors with a number of workers that makes no sense. -/
def unevenScanner : Scanner where
  registry :=
    { entries :=
        [({ pluginId := "a", pluginType := .vulnDetection }, { make := .ok unevenDetectors[0] }),
          ({ pluginId := "b", pluginType := .remoteVulnDetection },
            { make := .ok unevenDetectors[1] }),
          ({ pluginId := "c", pluginType := .vulnDetection }, { make := .ok unevenDetectors[2] })] }
  workers := -3

/-- A run of these detectors comes to an end at which one of them failed. -/
theorem run_summary_uneven :
    ∃ tasks s q, (unevenScanner.selector.detectors none).Gives {} tasks s ∧
      Run unevenScanner.workerCount "t" tasks (start "t" tasks s) q ∧ q.IsDone ∧
      (q.summary.executed ++ q.summary.failed.map Prod.fst).Perm ["a", "b", "c"] ∧
      ("b", "boom") ∈ q.summary.failed := by
  have htasks : (unevenScanner.selector.detectors none).Gives {}
      (unevenScanner.definitions.zipIdx.map fun e ↦ { definition := e.1, object := e.2 })
      { objects := unevenDetectors.map fun b ↦ { blueprint := b }, calls := ["a", "b", "c"] } := rfl
  have hsummary := run_summary (by decide +kernel) htasks (by decide) "t"
  obtain ⟨q, hrun, hq⟩ := hsummary.1 _ .refl
  obtain ⟨-, haccounts, -⟩ := hsummary.2 q hrun hq
  refine ⟨_, _, q, htasks, hrun, hq, haccounts.plugins, (haccounts.mem_failed_iff ..).mpr ?_⟩
  refine ⟨_, List.mem_of_getElem? (i := 1) rfl, rfl, { blueprint := unevenDetectors[1] },
    .raised "boom", rfl, rfl, rfl⟩

end Pool
end VulnScanner
