import Mathlib.Data.List.Induction
import Mathlib.Data.List.Nodup
import VulnScanner.Proofs.Lists
import VulnScanner.Proofs.Plugin.Detectors
import VulnScanner.Scan.Summary

/-!
# What tasks come to

The outcome of a task is that of its detector on its own object, so tasks on different objects do
not notice each other: whatever the order in which they run and finish, each comes to what it comes
to by itself. A summary is the list of these outcomes, in the order in which they were gathered.
-/

namespace VulnScanner

/-- Under a complete schedule all tasks are started and all are finished, each once. -/
structure Schedule.IsComplete (plan : Schedule) (count : Nat) : Prop where
  starts : plan.starts.Perm (List.range count)
  finishes : plan.finishes.Perm (List.range count)

/-- One task after the other is a complete schedule. -/
theorem Schedule.isComplete_sequential (count : Nat) : (sequential count).IsComplete count :=
  ⟨.refl _, .refl _⟩

/-- Two summaries have the same entries, in orders of their own. -/
structure ScanSummary.SameUpToOrder (a b : ScanSummary) : Prop where
  target : a.target = b.target
  executed : a.executed.Perm b.executed
  failed : a.failed.Perm b.failed
  reports : a.reports.Perm b.reports

/-- A detector that always comes to the same. -/
def fixedDetector (outcome : Except PluginFault (Option (List DetectionReport))) : Blueprint where
  className := "Fixed"
  kind := .remoteDetector
  detect := fun _ _ ↦ outcome

namespace Scanner

variable {target : String} {s t u : Session} {tasks order : List Selection} {task : Selection}
  {outcome : Outcome} {outcomes : List (Nat × Outcome)} {starts : List Nat} {number : Nat}
  {results results' : List (String × Outcome)}

/-! ### One task -/

/-- What the task of a selection comes to by itself: a fault of its detector, or what the detector
answers of the reports that its object has made before and the new ones, or nothing if it gives
none. -/
def outcomeOf (target : String) (s : Session) (task : Selection) : Outcome :=
  match s.object? task.object with
  | none => .ok []
  | some o =>
    match o.blueprint.detect target task.services with
    | .error fault => .error fault
    | .ok none => .ok []
    | .ok (some reports) => .ok (o.blueprint.answer o.results reports)

/-- A task fails exactly if its detector raises a fault. -/
theorem outcomeOf_eq_error_iff {fault : PluginFault} :
    outcomeOf target s task = .error fault ↔
      ∃ o, s.object? task.object = some o ∧
        o.blueprint.detect target task.services = .error fault := by
  unfold outcomeOf
  cases s.object? task.object with
  | none => simp
  | some o =>
    simp only [Option.some.injEq, exists_eq_left']
    split <;> simp_all

/-- A task looks at no object but its own. -/
theorem outcomeOf_congr (h : t.object? task.object = s.object? task.object) :
    outcomeOf target t task = outcomeOf target s task := by
  unfold outcomeOf
  rw [h]

/-- Running a task gives what it comes to by itself, and changes no object but its own. -/
theorem execute_run (target : String) (task : Selection) (s : Session) :
    ∃ t, (execute target task).run s = (outcomeOf target s task, t) ∧
      ∀ number ≠ task.object, t.object? number = s.object? number := by
  have hrun : (execute target task).run s =
      (match s.object? task.object with
        | none => pure (.ok [])
        | some o =>
          match o.blueprint.detect target task.services with
          | .error fault => pure (.error fault)
          | .ok none => pure (.ok [])
          | .ok (some reports) => do
            modify fun s ↦ s.update task.object (·.addReports reports)
            return .ok (o.blueprint.answer o.results reports) : StateM Session Outcome).run s := rfl
  rw [hrun]
  unfold outcomeOf
  cases s.object? task.object with
  | none => exact ⟨s, rfl, fun _ _ ↦ rfl⟩
  | some o =>
    dsimp only
    cases o.blueprint.detect target task.services with
    | error fault => exact ⟨s, rfl, fun _ _ ↦ rfl⟩
    | ok reports? =>
      cases reports? with
      | none => exact ⟨s, rfl, fun _ _ ↦ rfl⟩
      | some reports =>
        refine ⟨s.update task.object (·.addReports reports), rfl, fun number h ↦ ?_⟩
        exact List.getElem?_modify_ne _ _ h.symm

/-! ### Tasks in the order in which they run -/

private def runTask (target : String) (tasks : List Selection) (number : Nat) :
    StateM Session (Option (Nat × Outcome)) := do
  match tasks[number]? with
  | none => return none
  | some task => return some (number, ← execute target task)

private theorem run_runTasks (target : String) (tasks : List Selection) (starts : List Nat)
    (s : Session) :
    (runTasks target tasks starts).run s =
      ((((starts.mapM (runTask target tasks)).run s).1.filterMap id),
        ((starts.mapM (runTask target tasks)).run s).2) := rfl

private theorem run_runTask (htask : tasks[number]? = some task)
    (hrun : (execute target task).run s = (outcome, t)) :
    (runTask target tasks number).run s = (some (number, outcome), t) := by
  unfold runTask
  rw [htask]
  dsimp only
  rw [StateT.run_bind, hrun]
  rfl

private theorem runTasks_cons {rest : List Nat} (htask : tasks[number]? = some task)
    (hrun : (execute target task).run s = (outcome, t)) :
    (runTasks target tasks (number :: rest)).run s =
      ((number, outcome) :: ((runTasks target tasks rest).run t).1,
        ((runTasks target tasks rest).run t).2) := by
  have hstep := run_runTask htask hrun
  have hrun : ((number :: rest).mapM (runTask target tasks)).run s =
      (some (number, outcome) :: ((rest.mapM (runTask target tasks)).run t).1,
        ((rest.mapM (runTask target tasks)).run t).2) := by
    rw [List.mapM_cons, StateT.run_bind, hstep]
    rfl
  rw [run_runTasks, hrun, run_runTasks]
  rfl

/-- The task that runs last adds its outcome at the end. -/
theorem runTasks_concat (h : (runTasks target tasks starts).run s = (outcomes, t))
    (htask : tasks[number]? = some task) (hrun : (execute target task).run t = (outcome, u)) :
    (runTasks target tasks (starts ++ [number])).run s = (outcomes ++ [(number, outcome)], u) := by
  rw [run_runTasks, Prod.mk.injEq] at h
  obtain ⟨houtcomes, ht⟩ := h
  have hstep := run_runTask htask hrun
  have hrun : ((starts ++ [number]).mapM (runTask target tasks)).run s =
      (((starts.mapM (runTask target tasks)).run s).1 ++ [some (number, outcome)], u) := by
    rw [List.mapM_append, StateT.run_bind]
    change ((do
      let more ← [number].mapM (runTask target tasks)
      pure (((starts.mapM (runTask target tasks)).run s).1 ++ more)).run
        ((starts.mapM (runTask target tasks)).run s).2) = _
    rw [ht, StateT.run_bind, List.mapM_cons, StateT.run_bind, hstep]
    rfl
  rw [run_runTasks, hrun, List.filterMap_append, houtcomes]
  rfl

private theorem eq_of_object_eq (hobj : (tasks.map (·.object)).Nodup) {n m : Nat} {a b : Selection}
    (ha : tasks[n]? = some a) (hb : tasks[m]? = some b) (h : a.object = b.object) : n = m := by
  have hn : n < (tasks.map (·.object)).length := by
    rw [List.length_map]
    exact (List.getElem?_eq_some_iff.mp ha).1
  refine (List.getElem?_inj hn hobj).mp ?_
  rw [List.getElem?_map, List.getElem?_map, ha, hb, Option.map_some, Option.map_some, h]

/-- Tasks on different objects come to what each of them comes to by itself, in any order. -/
theorem runTasks_outcomes (hobj : (tasks.map (·.object)).Nodup) (hnodup : starts.Nodup)
    (hlt : ∀ n ∈ starts, n < tasks.length) :
    ((runTasks target tasks starts).run s).1 =
      starts.filterMap fun n ↦ tasks[n]?.map fun task ↦ (n, outcomeOf target s task) := by
  induction starts generalizing s with
  | nil => rfl
  | cons n rest ih =>
    rw [List.forall_mem_cons] at hlt
    rw [List.nodup_cons] at hnodup
    have htask : tasks[n]? = some tasks[n] := List.getElem?_eq_getElem hlt.1
    obtain ⟨t, hrun, hframe⟩ := execute_run target tasks[n] s
    rw [runTasks_cons htask hrun, ih hnodup.2 hlt.2, List.filterMap_cons, htask]
    refine congrArg _ (List.filterMap_congr fun m hm ↦ ?_)
    cases hother : tasks[m]? with
    | none => rfl
    | some task =>
      -- the task that has run leaves the objects of all others alone
      have hne : task.object ≠ tasks[n].object := fun h ↦
        hnodup.1 (eq_of_object_eq hobj hother htask h ▸ hm)
      rw [Option.map_some, Option.map_some, outcomeOf_congr (hframe _ hne)]

/-- Each task that runs leaves one outcome beside its number. -/
theorem map_fst_runTasks (hlt : ∀ n ∈ starts, n < tasks.length) :
    ((runTasks target tasks starts).run s).1.map Prod.fst = starts := by
  induction starts generalizing s with
  | nil => rfl
  | cons n rest ih =>
    rw [List.forall_mem_cons] at hlt
    obtain ⟨t, hrun, -⟩ := execute_run target tasks[n] s
    rw [runTasks_cons (List.getElem?_eq_getElem hlt.1) hrun, List.map_cons, ih hlt.2]

/-! ### Summaries -/

/-- The failure that a result adds to a summary. -/
def failureOf (result : String × Outcome) : Option (String × String) :=
  match result.2 with
  | .error fault => some (result.1, fault.message)
  | .ok _ => none

/-- The plugin that a result adds to those that were executed. -/
def executedOf (result : String × Outcome) : Option String :=
  match result.2 with
  | .error _ => none
  | .ok _ => some result.1

/-- The reports that a result adds to a summary. -/
def reportsOf (result : String × Outcome) : List DetectionReport :=
  match result.2 with
  | .error _ => []
  | .ok reports => reports

/-- The summary of results that were gathered in an order. -/
def summaryOf (target : String) (results : List (String × Outcome)) : ScanSummary where
  target := target
  reports := results.flatMap reportsOf
  failed := results.filterMap failureOf
  executed := results.filterMap executedOf

/-- The result of a task by itself, under the identifier of its plugin. -/
def resultOf (target : String) (s : Session) (task : Selection) : String × Outcome :=
  (task.definition.pluginId, outcomeOf target s task)

private theorem putFailure_of_not_mem {failed : List (String × String)} {pluginId text : String}
    (h : pluginId ∉ failed.map Prod.fst) :
    putFailure failed pluginId text = failed ++ [(pluginId, text)] := by
  unfold putFailure
  rw [if_neg]
  simpa using h

private theorem fst_mem_of_failureOf_mem {pluginId : String}
    (h : pluginId ∈ (results.filterMap failureOf).map Prod.fst) :
    pluginId ∈ results.map Prod.fst := by
  obtain ⟨failure, hfailure, rfl⟩ := List.mem_map.mp h
  obtain ⟨⟨id, outcome⟩, hresult, he⟩ := List.mem_filterMap.mp hfailure
  refine List.mem_map.mpr ⟨_, hresult, ?_⟩
  cases outcome with
  | error fault =>
    cases he
    rfl
  | ok reports => cases he

/-- Gathering the results of different plugins one after the other gives their summary. -/
theorem foldl_add (hids : (results.map Prod.fst).Nodup) :
    results.foldl (fun summary result ↦ summary.add result.1 result.2) { target := target } =
      summaryOf target results := by
  induction results using List.reverseRecOn with
  | nil => rfl
  | append_singleton results result ih =>
    rw [List.map_append, List.map_singleton, List.nodup_append_comm, List.singleton_append,
      List.nodup_cons] at hids
    rw [List.foldl_append, ih hids.2]
    obtain ⟨pluginId, outcome⟩ := result
    have hnew := fun h ↦ hids.1 (fst_mem_of_failureOf_mem h)
    cases outcome with
    | error fault =>
      simp [summaryOf, ScanSummary.add, putFailure_of_not_mem hnew, reportsOf, failureOf,
        executedOf]
    | ok reports => simp [summaryOf, ScanSummary.add, reportsOf, failureOf, executedOf]

/-- Results in another order give a summary in another order. -/
theorem summaryOf_perm (h : results.Perm results') :
    (summaryOf target results).SameUpToOrder (summaryOf target results') :=
  ⟨rfl, h.filterMap _, h.filterMap _, h.flatMap_right _⟩

private theorem executed_append_failed_perm :
    ((summaryOf target results).executed ++ (summaryOf target results).failed.map Prod.fst).Perm
      (results.map Prod.fst) := by
  unfold summaryOf
  dsimp only
  induction results with
  | nil => exact .nil
  | cons result rest ih =>
    obtain ⟨pluginId, outcome⟩ := result
    cases outcome with
    | error fault => exact List.perm_middle.trans (ih.cons pluginId)
    | ok reports => exact ih.cons pluginId

/-- A plugin failed exactly if its result is a fault, and with the message of this fault. -/
theorem mem_failed_summaryOf_iff {pluginId text : String} :
    (pluginId, text) ∈ (summaryOf target results).failed ↔
      ∃ fault, (pluginId, .error fault) ∈ results ∧ text = fault.message := by
  constructor
  · intro h
    obtain ⟨⟨id, outcome⟩, hresult, he⟩ := List.mem_filterMap.mp h
    cases outcome with
    | error fault =>
      cases he
      exact ⟨fault, hresult, rfl⟩
    | ok reports => cases he
  · rintro ⟨fault, hresult, rfl⟩
    exact List.mem_filterMap.mpr ⟨_, hresult, rfl⟩

/-- A summary accounts for tasks: each plugin was either executed or failed, and not both; it failed
exactly if its detector did, and with the message of that fault; and the reports are those of the
executed plugins, one plugin after the other. -/
structure Accounts (target : String) (s : Session) (tasks : List Selection)
    (summary : ScanSummary) : Prop where
  target_eq : summary.target = target
  plugins : (summary.executed ++ summary.failed.map Prod.fst).Perm
    (tasks.map (·.definition.pluginId))
  nodup : (summary.executed ++ summary.failed.map Prod.fst).Nodup
  mem_failed_iff : ∀ pluginId text, (pluginId, text) ∈ summary.failed ↔
    ∃ task ∈ tasks, task.definition.pluginId = pluginId ∧
      ∃ o fault, s.object? task.object = some o ∧
        o.blueprint.detect target task.services = .error fault ∧ text = fault.message
  exists_executed : ∃ executed : List (Selection × List DetectionReport),
    summary.executed = executed.map (·.1.definition.pluginId) ∧
      summary.reports = executed.flatMap (·.2) ∧
      ∀ e ∈ executed, e.1 ∈ tasks ∧ outcomeOf target s e.1 = .ok e.2

private theorem exists_executed (target : String) (s : Session) (order : List Selection) :
    ∃ executed : List (Selection × List DetectionReport),
      (summaryOf target (order.map (resultOf target s))).executed =
          executed.map (·.1.definition.pluginId) ∧
        (summaryOf target (order.map (resultOf target s))).reports = executed.flatMap (·.2) ∧
        ∀ e ∈ executed, e.1 ∈ order ∧ outcomeOf target s e.1 = .ok e.2 := by
  induction order with
  | nil => exact ⟨[], rfl, rfl, by simp⟩
  | cons task rest ih =>
    obtain ⟨executed, hexecuted, hreports, hmem⟩ := ih
    have hmem : ∀ e ∈ executed, e.1 ∈ task :: rest ∧ outcomeOf target s e.1 = .ok e.2 :=
      fun e he ↦ ⟨List.mem_cons_of_mem _ (hmem e he).1, (hmem e he).2⟩
    unfold summaryOf at hexecuted hreports ⊢
    simp only [List.map_cons, List.filterMap_cons, List.flatMap_cons] at hexecuted hreports ⊢
    cases houtcome : outcomeOf target s task with
    | error fault =>
      refine ⟨executed, ?_, ?_, hmem⟩ <;>
      simp [resultOf, executedOf, reportsOf, houtcome, hexecuted, hreports]
    | ok reports =>
      refine ⟨(task, reports) :: executed, ?_, ?_, ?_⟩
      · simp [resultOf, executedOf, houtcome, hexecuted]
      · simp [resultOf, reportsOf, houtcome, hreports]
      · exact List.forall_mem_cons.mpr ⟨⟨List.mem_cons_self, houtcome⟩, hmem⟩

/-- The summary of what tasks of different plugins come to accounts for them, in any order. -/
theorem accounts_summaryOf (hids : (tasks.map (·.definition.pluginId)).Nodup)
    (horder : order.Perm tasks) :
    Accounts target s tasks (summaryOf target (order.map (resultOf target s))) := by
  have hplugins : ((summaryOf target (order.map (resultOf target s))).executed ++
      (summaryOf target (order.map (resultOf target s))).failed.map Prod.fst).Perm
        (tasks.map (·.definition.pluginId)) := by
    refine executed_append_failed_perm.trans ?_
    rw [List.map_map]
    exact horder.map _
  refine ⟨rfl, hplugins, hplugins.nodup_iff.mpr hids, fun pluginId text ↦ ?_, ?_⟩
  · rw [mem_failed_summaryOf_iff]
    simp only [List.mem_map, resultOf, Prod.mk.injEq, horder.mem_iff, outcomeOf_eq_error_iff]
    constructor
    · rintro ⟨fault, ⟨task, htask, hid, o, ho, hfault⟩, htext⟩
      exact ⟨task, htask, hid, o, fault, ho, hfault, htext⟩
    · rintro ⟨task, htask, hid, o, fault, ho, hfault, htext⟩
      exact ⟨fault, ⟨task, htask, hid, o, ho, hfault⟩, htext⟩
  · obtain ⟨executed, hexecuted, hreports, hmem⟩ := exists_executed target s order
    exact ⟨executed, hexecuted, hreports, fun e he ↦
      ⟨horder.mem_iff.mp (hmem e he).1, (hmem e he).2⟩⟩

/-- Outcomes of tasks that are not gathered yet do not matter. -/
theorem gather_append {more : List (Nat × Outcome)} {finishes : List Nat}
    (h : finishes ⊆ outcomes.map Prod.fst) :
    gather target tasks (outcomes ++ more) finishes = gather target tasks outcomes finishes := by
  refine List.foldl_ext _ _ _ fun summary number hnumber ↦ ?_
  rw [lookup_append_of_mem (h hnumber)]

/-- The task that finishes last is added last. -/
theorem gather_concat {finishes : List Nat} (htask : tasks[number]? = some task)
    (houtcome : outcomes.lookup number = some outcome) :
    gather target tasks outcomes (finishes ++ [number]) =
      (gather target tasks outcomes finishes).add task.definition.pluginId outcome := by
  unfold gather
  rw [List.foldl_append, List.foldl_cons, List.foldl_nil, htask, houtcome]

private theorem filterMap_getElem?_range (xs : List Selection) :
    (List.range xs.length).filterMap (xs[·]?) = xs := by
  have hmap : (List.range xs.length).map (xs[·]?) = xs.map some :=
    List.ext_getElem (by simp) (by simp)
  have hsome := congrArg (List.filterMap id) hmap
  rw [List.filterMap_map, List.filterMap_map, Function.id_comp, Function.id_comp,
    List.filterMap_some] at hsome
  exact hsome

private theorem lookup_runTasks (hobj : (tasks.map (·.object)).Nodup) (hnodup : starts.Nodup)
    (hlt : ∀ n ∈ starts, n < tasks.length) (hn : number ∈ starts)
    (htask : tasks[number]? = some task) :
    ((runTasks target tasks starts).run s).1.lookup number = some (outcomeOf target s task) := by
  rw [lookup_eq_some_iff_mem (by rwa [map_fst_runTasks hlt]), runTasks_outcomes hobj hnodup hlt]
  exact List.mem_filterMap.mpr ⟨number, hn, by rw [htask, Option.map_some]⟩

/-- Under a complete schedule, the summary of tasks on different objects is that of what each comes
to by itself, in the order in which they finish. -/
theorem gather_runTasks {plan : Schedule} (hids : (tasks.map (·.definition.pluginId)).Nodup)
    (hobj : (tasks.map (·.object)).Nodup) (hplan : plan.IsComplete tasks.length) :
    ∃ order : List Selection, order.Perm tasks ∧
      gather target tasks ((runTasks target tasks plan.starts).run s).1 plan.finishes =
        summaryOf target (order.map (resultOf target s)) := by
  have horder : (plan.finishes.filterMap (tasks[·]?)).Perm tasks := by
    have hperm := hplan.finishes.filterMap (tasks[·]?)
    rwa [filterMap_getElem?_range] at hperm
  have hresults : ((plan.finishes.filterMap (tasks[·]?)).map (resultOf target s)).map Prod.fst =
      (plan.finishes.filterMap (tasks[·]?)).map (·.definition.pluginId) := List.map_map
  refine ⟨_, horder, ?_⟩
  rw [← foldl_add (hresults ▸ (horder.map _).nodup_iff.mpr hids), List.foldl_map,
    List.foldl_filterMap]
  refine List.foldl_ext _ _ _ fun summary number hnumber ↦ ?_
  cases htask : tasks[number]? with
  | none => rfl
  | some task =>
    have hstarts : ∀ n ∈ plan.starts, n < tasks.length := fun n hn ↦
      List.mem_range.mp (hplan.starts.mem_iff.mp hn)
    have hstarted : number ∈ plan.starts :=
      hplan.starts.mem_iff.mpr (hplan.finishes.mem_iff.mp hnumber)
    have hnodup := hplan.starts.nodup_iff.mpr List.nodup_range
    dsimp only
    rw [lookup_runTasks hobj hnodup hstarts hstarted htask]
    rfl

/-! ### Whole runs -/

variable {scanner : Scanner} {plan : Nat → Schedule} {report : Option ReconReport}
  {summary : ScanSummary} {fault : PluginFault}

/-- A run gives the summary of the tasks that were chosen. -/
theorem gives_detect_iff :
    (scanner.detect plan target report).Gives s summary u ↔
      ∃ tasks t, (scanner.selector.detectors report).Gives s tasks t ∧
        ((runTasks target tasks (plan tasks.length).starts).run t).2 = u ∧
        gather target tasks ((runTasks target tasks (plan tasks.length).starts).run t).1
          (plan tasks.length).finishes = summary := by
  unfold detect
  simp only [SessionM.gives_bind_iff, SessionM.gives_pure_iff, SessionM.gives_liftM_iff]
  constructor
  · rintro ⟨tasks, t, htasks, outcomes, _, hrun, rfl, rfl⟩
    refine ⟨tasks, t, htasks, ?_, ?_⟩ <;>
    rw [hrun]
  · rintro ⟨tasks, t, htasks, rfl, rfl⟩
    exact ⟨tasks, t, htasks, _, _, rfl, rfl, rfl⟩

/-- Under complete schedules, a run of tasks on different objects gives the summary of what each
comes to by itself, in some order. -/
theorem exists_gives_detect (hr : scanner.registry.Reached)
    (htasks : (scanner.selector.detectors report).Gives s tasks t)
    (hobj : (tasks.map (·.object)).Nodup) (hplan : ∀ count, (plan count).IsComplete count) :
    ∃ order : List Selection, order.Perm tasks ∧
      ∃ u, (scanner.detect plan target report).Gives s
        (summaryOf target (order.map (resultOf target t))) u := by
  have hids := Selector.nodup_ids_of_gives_detectors rfl hr htasks
  obtain ⟨order, horder, hsummary⟩ := gather_runTasks hids hobj (hplan tasks.length)
  exact ⟨order, horder, _, gives_detect_iff.mpr ⟨tasks, t, htasks, rfl, hsummary⟩⟩

/-- A run fails exactly if the choice of its detectors does. -/
theorem fails_detect_iff :
    (scanner.detect plan target report).Fails s fault t ↔
      (scanner.selector.detectors report).Fails s fault t := by
  unfold detect
  simp only [SessionM.fails_bind_iff, SessionM.not_fails_pure, SessionM.not_fails_liftM, and_false,
    exists_false, or_false]

end Scanner
end VulnScanner
