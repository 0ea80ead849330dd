import Px4Ros2.Mission.Reporting

/-! The queue of the reports is an `AsyncFunctionCalls`: every run of a mission executor is matched
by a run of it. -/

set_option autoImplicit false

namespace Px4Ros2.MissionExecutor

open AsyncFunctionCalls (Accepts Runs DeliversAll)

/-- The reports as functions of `AsyncFunctionCalls`, with their past. -/
abbrev Reports :=
  Lib.Config (Lib.Recorded (AsyncFunctionCalls Report) (AsyncFunctionCalls.CallHistory Report))
    AsyncFunctionCalls.Task

abbrev ReportedConfig := Lib.Config (Lib.Recorded MissionExecutor ReportHistory) Task

/-- No task of a firing of the timer. -/
def Silent (agenda : List Task) : Prop :=
  ∀ task ∈ agenda, task.isReporting = false

/-- How far a firing of the timer is, in both machines. -/
inductive Drain (reporting : List Report) :
    List Task → List AsyncFunctionCalls.Task → Prop where
  | outside {agenda : List Task} : Silent agenda → Drain reporting agenda []
  | loop : Drain reporting [.runReports] [.loop]
  | entering {report : Report} : reporting.head? = some report →
      Drain reporting [.enter (.report report), .popReport] [.loop]
  | inside {inner : List Task} : Silent inner → reporting ≠ [] →
      Drain reporting (inner ++ [.popReport]) [.callback, .pop]

theorem Drain.quiescent {reporting : List Report} {tasks : List AsyncFunctionCalls.Task}
    (drain : Drain reporting [] tasks) : tasks = [] := by
  generalize empty : ([] : List Task) = agenda at drain
  cases drain with
  | outside => rfl
  | loop | entering => cases empty
  | inside => simp at empty

structure Simulates (calls : Reports) (reached : ReportedConfig) : Prop where
  pending : calls.state.state.pending = reached.state.state.reporting
  timer : calls.state.state.updateTimer = reached.state.state.reportingTimer
  called : calls.state.history.called = reached.state.history.called
  queued : calls.state.history.queued.filter Report.ofIndex =
    reached.state.history.indexCalls.filterMap (·.2)
  drain : Drain reached.state.state.reporting reached.agenda calls.agenda

variable {config : Configuration} {executor : MissionExecutor} {history : ReportHistory}
  {reporting : List Report} {task : Task} {input : Input} {after : MissionExecutor × List Task}
  {agenda rest : List Task} {calls : Reports} {reached next : ReportedConfig}

theorem Silent.append {first second : List Task} (one : Silent first) (two : Silent second) :
    Silent (first ++ second) := by
  intro task member
  cases List.mem_append.mp member with
  | inl inFirst => exact one task inFirst
  | inr inSecond => exact two task inSecond

theorem Silent.tail (silent : Silent (task :: rest)) : Silent rest :=
  fun other member => silent other (List.mem_cons_of_mem _ member)

/-- A step outside of the firing's own tasks queues reports, and no more than that. -/
theorem Simulates.queues {reports : List Report} {indexCalls : List (Int × Option Report)}
    (simulates : Simulates calls ⟨⟨executor, history⟩, agenda⟩) (runs : Runs calls)
    (queues : Queues executor after reports) (accepts : Accepts calls.agenda)
    (drain : Drain after.1.reporting rest calls.agenda)
    (indices : indexCalls.filterMap (·.2) =
      history.indexCalls.filterMap (·.2) ++ reports.filter Report.ofIndex) :
    ∃ calls, Runs calls ∧
      Simulates calls ⟨⟨after.1, { history with indexCalls }⟩, rest⟩ := by
  rcases calls with ⟨⟨state, recorded⟩, tasks⟩
  refine ⟨_, runs.callAsyncAll accepts reports, ?_, ?_, simulates.called, ?_, drain⟩
  · have pending : state.pending = executor.reporting := simulates.pending
    simp [AsyncFunctionCalls.callAsyncAll, pending, queues.reporting]
  · have timer : state.updateTimer = executor.reportingTimer := simulates.timer
    simp [AsyncFunctionCalls.callAsyncAll, timer, queues.timer]
  · have queued : recorded.queued.filter Report.ofIndex = history.indexCalls.filterMap (·.2) :=
      simulates.queued
    simp [queued, indices]

/-- What the recorder writes of a step outside of the firing's own tasks. -/
theorem record_plain (plain : task.isReporting = false) :
    (reportRecorder config).task history executor task input =
      { history with
        indexCalls := history.indexCalls ++
          ((executor.indexSet config task input).map fun index =>
            (index, executor.indexReport index)).toList } := by
  have none : task.calledReport input = .none := by
    unfold Task.calledReport
    split
    · cases plain
    · rfl
  simp [reportRecorder, none]

theorem record_reporting (reports : task.isReporting = true) :
    (reportRecorder config).task history executor task input =
      { history with called := history.called ++ (task.calledReport input).toList } := by
  have unset : executor.indexSet config task input = none := by
    unfold indexSet
    split <;> first | rfl | cases reports
  simp [reportRecorder, unset]

theorem filterMap_indexCalls (index : Option Int) :
    (history.indexCalls ++
        (index.map fun index => (index, executor.indexReport index)).toList).filterMap (·.2) =
      history.indexCalls.filterMap (·.2) ++ (index.bind executor.indexReport).toList := by
  cases index with
  | none => simp
  | some index =>
      cases reported : executor.indexReport index with
      | none => simp [reported]
      | some report => simp [reported]

/-- A task that is not the firing's own, in any place. -/
theorem Simulates.plain (simulates : Simulates calls ⟨⟨executor, history⟩, task :: rest⟩)
    (runs : Runs calls) (executed : executor.exec config task input = some after)
    (plain : task.isReporting = false) (accepts : Accepts calls.agenda)
    (drain : ∀ reporting, (executor.reporting ≠ [] → reporting ≠ []) → Silent after.2 →
      Drain reporting (after.2 ++ rest) calls.agenda) :
    ∃ calls, Runs calls ∧
      Simulates calls ⟨⟨after.1, (reportRecorder config).task history executor task input⟩,
        after.2 ++ rest⟩ := by
  obtain ⟨reports, queues, ofIndex⟩ := exec_queuesIndex executed plain
  rw [record_plain plain]
  refine simulates.queues runs queues accepts (drain _ ?_ queues.tasks) ?_
  · intro some none
    rw [queues.reporting] at none
    exact some (List.append_eq_nil_iff.mp none).1
  · rw [filterMap_indexCalls, ofIndex]

/-- A firing's own task only sees a landing, or goes on. -/
theorem exec_reporting (executed : executor.exec config task input = some after)
    (reports : task.isReporting = true) :
    (∃ landed, input = .landDetected landed ∧ after = ({ executor with landed }, [task])) ∨
      (input = .proceed ∧ after = executor.internal config task) := by
  obtain ⟨_, landing | ⟨task', rfl, -⟩ | ⟨inRun, op, requested, rfl, -⟩ | ⟨inRun, rfl, -⟩ |
    ⟨valid, reached, rfl, -⟩ | ⟨rfl, -⟩ | ⟨proceeds, -, same⟩⟩ := exec_cases executed
  · exact .inl landing
  · cases reports
  · cases reports
  · cases reports
  · cases reports
  · cases reports
  · exact .inr ⟨proceeds, same⟩

/-- A landing that a firing's own task sees changes nothing of the reports. -/
theorem Simulates.landing (simulates : Simulates calls ⟨⟨executor, history⟩, agenda⟩)
    (landed : Bool) : Simulates calls ⟨⟨{ executor with landed }, history⟩, agenda⟩ :=
  ⟨simulates.pending, simulates.timer, simulates.called, simulates.queued, simulates.drain⟩

theorem record_landDetected (landed : Bool) (reports : task.isReporting = true) :
    (reportRecorder config).task history executor task (.landDetected landed) = history := by
  have none : task.calledReport (.landDetected landed) = .none := by
    unfold Task.calledReport
    split
    · contradiction
    · rfl
  simp [record_reporting reports, none]

/-- The loop: the queue is empty, the callback of its front is called, or there is none to call. -/
theorem runReports_cases :
    (executor.reporting = [] ∧ executor.runReports = (executor, [])) ∨
      (∃ report, executor.reporting.head? = some report ∧
        executor.runReports = (executor, [.enter (.report report), .popReport])) ∨
      executor.runReports.1.crashed = true := by
  unfold runReports
  split
  · rename_i empty
    exact .inl ⟨empty, rfl⟩
  · rename_i report others shape
    have front : executor.reporting.head? = some report := by simp [shape]
    cases report with
    | progressUpdate index =>
        simp only [callReport]
        split
        · exact .inr (.inl ⟨_, front, rfl⟩)
        · exact .inr (.inr rfl)
    | completed => exact .inr (.inl ⟨_, front, rfl⟩)
    | readynessUpdate report =>
        simp only [callReport]
        split
        · exact .inr (.inl ⟨_, front, rfl⟩)
        · exact .inr (.inr rfl)

/-- The timer's own tasks are the loop of `AsyncFunctionCalls`. -/
theorem Simulates.firing (simulates : Simulates calls ⟨⟨executor, history⟩, task :: rest⟩)
    (runs : Runs calls) (executed : executor.exec config task input = some after)
    (reports : task.isReporting = true) (running : after.1.crashed = false) :
    ∃ calls, Runs calls ∧
      Simulates calls ⟨⟨after.1, (reportRecorder config).task history executor task input⟩,
        after.2 ++ rest⟩ := by
  rcases calls with ⟨⟨state, recorded⟩, tasks⟩
  obtain ⟨landed, rfl, rfl⟩ | ⟨rfl, rfl⟩ := exec_reporting executed reports
  · rw [record_landDetected landed reports]
    exact ⟨_, runs, simulates.landing landed⟩
  obtain ⟨pending, timer, called, queued, drain⟩ := simulates
  rw [record_reporting reports]
  simp only at pending timer called queued drain
  generalize shape : task :: rest = agenda at drain
  cases drain with
  | outside silent =>
      subst shape
      exact absurd (silent task List.mem_cons_self) (by simp [reports])
  | loop =>
      cases shape
      rcases executor.runReports_cases with ⟨empty, same⟩ | ⟨report, front, same⟩ | crashed
      · simp only [internal, same, Task.calledReport, Option.toList_none, List.append_nil]
        have done : Runs ⟨⟨state, recorded⟩, []⟩ := runs.empty (by rw [pending, empty])
        exact ⟨_, done, pending, timer, called, queued, .outside (by simp [Silent])⟩
      · simp only [internal, same, Task.calledReport, Option.toList_none, List.append_nil]
        exact ⟨_, runs, pending, timer, called, queued, .entering front⟩
      · exact absurd crashed (by simpa [internal] using running)
  | entering front =>
      cases shape
      rename_i report
      have some : executor.reporting ≠ [] := by
        intro empty
        simp [empty] at front
      have drain : Drain executor.reporting ([.user false] ++ [.popReport]) [.callback, .pop] :=
        .inside (by simp [Silent, Task.isReporting]) some
      refine ⟨_, runs.front (by rwa [pending]), pending, timer, ?_, queued, drain⟩
      simp [Task.calledReport, called]
  | inside silent some =>
      rename_i inner
      cases inner with
      | cons other inner =>
          cases shape
          exact absurd (silent task List.mem_cons_self) (by simp [reports])
      | nil =>
          cases shape
          refine ⟨_, runs.returned, ?_, timer, ?_, queued, .loop⟩
          · simp [internal, pending]
          · simpa [Task.calledReport] using called

theorem idle_reportingTimer {executor : MissionExecutor} {after : MissionExecutor × List Task}
    (taken : executor.idle config .reportingTimer = some after) :
    executor.reportingTimer = true ∧
      after = ({ executor with reportingTimer := false }, [.runReports]) := by
  simp only [idle] at taken
  split at taken
  · cases taken
  · split at taken
    · rename_i armed
      exact ⟨armed, (Option.some.inj taken).symm⟩
    · cases taken

/-- Every step of a mission executor that does not end the process is matched. -/
theorem Simulates.step (simulates : Simulates calls reached) (runs : Runs calls)
    (stepped : ((machine config).recorded (reportRecorder config)).step reached input = some next)
    (running : next.state.state.crashed = false) :
    ∃ calls, Runs calls ∧ Simulates calls next := by
  rcases reached with ⟨⟨executor, history⟩, agenda⟩
  rcases Lib.Machine.recorded_step_cases stepped with
    ⟨quiescent, after, tasks, taken, rfl⟩ | ⟨task, rest, after, tasks, shape, executed, rfl⟩
  · obtain rfl : agenda = [] := quiescent
    obtain ⟨state, rfl⟩ : ∃ state, calls = ⟨state, []⟩ := by
      rcases calls with ⟨state, callsAgenda⟩
      exact ⟨state, congrArg _ simulates.drain.quiescent⟩
    by_cases fires : input = .reportingTimer
    · subst fires
      obtain ⟨armed, same⟩ := @idle_reportingTimer config executor _ taken
      cases same
      have fired := runs.fire (by rw [simulates.timer, armed])
      exact ⟨_, fired, simulates.pending, rfl, simulates.called, simulates.queued, .loop⟩
    · obtain ⟨reports, queues, ofIndex⟩ := idle_queues taken fires
      refine simulates.queues runs queues .outside (.outside queues.tasks) ?_
      simp [ofIndex]
  · obtain rfl : agenda = task :: rest := shape
    cases reports : task.isReporting with
    | true => exact simulates.firing runs executed reports running
    | false =>
        have drain : Drain executor.reporting (task :: rest) calls.agenda := simulates.drain
        rcases calls with ⟨state, callsAgenda⟩
        generalize shape : task :: rest = agenda at drain
        cases drain with
        | outside silent =>
            subst shape
            refine simulates.plain runs executed reports .outside fun _ _ pushed => ?_
            exact .outside (pushed.append silent.tail)
        | loop | entering =>
            cases shape
            cases reports
        | inside silent some =>
            rename_i inner
            cases inner with
            | nil =>
                cases shape
                cases reports
            | cons other inner =>
                cases shape
                refine simulates.plain runs executed reports .inside fun _ keeps pushed => ?_
                have inner := Drain.inside (pushed.append silent.tail) (keeps some)
                rwa [List.append_assoc] at inner

/-- A mission executor that ended with an exception takes no step. -/
theorem running_of_step
    (stepped : ((machine config).recorded (reportRecorder config)).step reached input = some next) :
    reached.state.state.crashed = false := by
  rcases Lib.Machine.recorded_step_cases stepped with
    ⟨_, after, tasks, taken, rfl⟩ | ⟨task, rest, after, tasks, _, executed, rfl⟩
  · have taken : reached.state.state.idle config input = some (after, tasks) := taken
    unfold idle at taken
    split at taken
    · cases taken
    · rename_i running
      simpa using running
  · have executed : reached.state.state.exec config task input = some (after, tasks) := executed
    exact (exec_cases executed).1

/-! ### What the callbacks see -/

/-- What the user is expected to be told of the calls of `setCurrentMissionIndex`. -/
structure ReportsInOrder (config : Configuration) (reached : ReportedConfig) : Prop where
  /-- In the order of the calls, none twice and none left out. -/
  inOrder : reached.state.history.called.filter Report.ofIndex <+:
    reached.state.history.indexCalls.filterMap (·.2)
  /-- What was not reported yet is still in the queue, outside of a firing of the timer. -/
  pending : Silent reached.agenda → reached.state.history.indexCalls.filterMap (·.2) =
    reached.state.history.called.filter Report.ofIndex ++
      reached.state.state.reporting.filter Report.ofIndex
  /-- No wake-up is lost. -/
  armed : Silent reached.agenda → reached.state.state.reporting ≠ [] →
    reached.state.state.reportingTimer = true
  /-- When a firing of the timer is over, everything was reported. -/
  drained : ∀ input next, ¬ Silent reached.agenda →
    ((machine config).recorded (reportRecorder config)).step reached input = some next →
    next.state.state.crashed = false → Silent next.agenda →
      next.state.history.called.filter Report.ofIndex =
        next.state.history.indexCalls.filterMap (·.2)
  /-- Before the completion of the mission came the reports of all calls before it. -/
  completed : ∀ before after, reached.state.history.called = before ++ .completed :: after →
    ∃ earlier index later,
      reached.state.history.indexCalls = earlier ++ (index, some .completed) :: later ∧
        before.filter Report.ofIndex = earlier.filterMap (·.2)

/-- A run of the reports that matches, as long as no exception ends the process. -/
theorem simulated {start : ReportedConfig} (initial : Simulates ⟨⟨{}, {}⟩, []⟩ start)
    (reached : ((machine config).recorded (reportRecorder config)).Reaches
      (fun config => Lib.Machine.unrestricted config.forget) start next)
    (running : next.state.state.crashed = false) : ∃ calls, Runs calls ∧ Simulates calls next := by
  induction reached with
  | refl => exact ⟨_, .refl, initial⟩
  | step _ _ stepped ih =>
      obtain ⟨calls, runs, simulates⟩ := ih (running_of_step stepped)
      exact simulates.step runs stepped running

theorem Drain.silent {tasks : List AsyncFunctionCalls.Task} (drain : Drain reporting agenda tasks)
    (silent : Silent agenda) : tasks = [] := by
  cases drain with
  | outside => rfl
  | loop => exact absurd (silent .runReports (by simp)) (by simp [Task.isReporting])
  | entering => exact absurd (silent .popReport (by simp)) (by simp [Task.isReporting])
  | inside => exact absurd (silent .popReport (by simp)) (by simp [Task.isReporting])

/-- A firing ends with an empty queue. -/
theorem Simulates.ends (simulates : Simulates calls reached)
    (stepped : ((machine config).recorded (reportRecorder config)).step reached input = some next)
    (running : next.state.state.crashed = false) (firing : ¬ Silent reached.agenda)
    (silent : Silent next.agenda) : next.state.state.reporting = [] := by
  rcases reached with ⟨⟨executor, history⟩, agenda⟩
  rcases calls with ⟨state, callsAgenda⟩
  rcases Lib.Machine.recorded_step_cases stepped with
    ⟨quiescent, -⟩ | ⟨task, rest, after, tasks, shape, executed, rfl⟩
  · obtain rfl : agenda = [] := quiescent
    exact absurd (by simp [Silent]) firing
  · obtain rfl : agenda = task :: rest := shape
    have executed : executor.exec config task input = some (after, tasks) := executed
    have drain : Drain executor.reporting (task :: rest) callsAgenda := simulates.drain
    have noPop : .popReport ∉ tasks ++ rest := fun member => by
      simpa [Task.isReporting] using silent _ member
    have noLoop : .runReports ∉ tasks ++ rest := fun member => by
      simpa [Task.isReporting] using silent _ member
    generalize shape : task :: rest = agenda at drain firing
    cases drain with
    | outside none => exact absurd none firing
    | loop =>
        cases shape
        obtain ⟨landed, -, same⟩ | ⟨-, same⟩ := exec_reporting executed rfl
        · cases same
          simp at noLoop
        · rcases executor.runReports_cases with ⟨empty, runs⟩ | ⟨report, -, runs⟩ | crashed
          · simp only [internal, runs] at same
            cases same
            exact empty
          · simp only [internal, runs] at same
            cases same
            simp at noPop
          · simp only [internal] at same
            rw [← same] at crashed
            exact absurd crashed (by simpa using running)
    | entering front =>
        cases shape
        simp at noPop
    | inside inner some =>
        rename_i before
        cases before with
        | cons other before =>
            cases shape
            simp at noPop
        | nil =>
            cases shape
            obtain ⟨landed, -, same⟩ | ⟨-, same⟩ := exec_reporting executed rfl
            · cases same
              simp at noPop
            · cases same
              simp at noLoop

theorem Simulates.reportsInOrder (simulates : Simulates calls reached) (runs : Runs calls) :
    ReportsInOrder config reached := by
  have delivers := AsyncFunctionCalls.deliversAll runs
  have inOrder : reached.state.history.called.filter Report.ofIndex <+:
      reached.state.history.indexCalls.filterMap (·.2) := by
    rw [← simulates.called, ← simulates.queued]
    exact delivers.inOrder.filter _
  refine ⟨inOrder, ?_, ?_, ?_, ?_⟩
  · intro silent
    have pending := delivers.pending (simulates.drain.silent silent)
    rw [← simulates.queued, pending, List.filter_append, simulates.called, simulates.pending]
  · intro silent some
    rw [← simulates.timer]
    exact delivers.armed (simulates.drain.silent silent) (by rwa [simulates.pending])
  · intro input next firing stepped running silent
    obtain ⟨after, matched, simulated⟩ := simulates.step runs stepped running
    have pending := (AsyncFunctionCalls.deliversAll matched).pending (simulated.drain.silent silent)
    have empty := simulates.ends stepped running firing silent
    rw [simulated.pending, empty, List.append_nil] at pending
    rw [← simulated.queued, ← simulated.called, pending]
  · intro before after shape
    obtain ⟨rest, whole⟩ := inOrder
    rw [shape, List.filter_append, List.filter_cons_of_pos (by rfl), List.append_assoc,
      List.cons_append] at whole
    obtain ⟨first, second, split, reports, completes⟩ :=
      List.filterMap_eq_append_iff.mp whole.symm
    obtain ⟨without, ⟨index, report⟩, later, place, none, completed, -⟩ :=
      List.filterMap_eq_cons_iff.mp completes
    obtain rfl : report = some .completed := completed
    refine ⟨first ++ without, index, later, by simp [split, place], ?_⟩
    rw [List.filterMap_append, reports, List.filterMap_eq_nil_iff.mpr none, List.append_nil]

/-- `AsyncFunctionCalls` calls what was queued, once and in order, and so the user is told of the
calls of `setCurrentMissionIndex` in order, as long as no exception ends the process. -/
theorem reports_delivered {Function : Type} {registered : Bool} {id : UInt8} {ownedMode : ModeBase}
    {file : PersistenceFile}
    {calls : Lib.Config (Lib.Recorded (AsyncFunctionCalls Function)
      (AsyncFunctionCalls.CallHistory Function)) AsyncFunctionCalls.Task}
    (runs : Runs calls)
    (reachable : ((machine config).recorded (reportRecorder config)).Reaches
      (fun config => Lib.Machine.unrestricted config.forget)
      ⟨⟨(initial registered id ownedMode file).state, {}⟩, []⟩ reached) :
    DeliversAll calls ∧
      (reached.state.state.crashed = false → ReportsInOrder config reached) := by
  constructor
  · exact AsyncFunctionCalls.deliversAll runs
  · intro running
    have start : Simulates ⟨⟨{}, {}⟩, []⟩
        ⟨⟨(initial registered id ownedMode file).state, {}⟩, []⟩ :=
      ⟨rfl, rfl, rfl, rfl, .outside (by simp [Silent])⟩
    obtain ⟨matching, matched, simulates⟩ := simulated start reachable running
    exact simulates.reportsInOrder matched

/-- The first function queues the second one while it is called. -/
def queuedInside : List (AsyncFunctionCalls.Input Nat) :=
  [.callAsync 1, .updateTimer, .proceed, .callAsync 2, .ret, .proceed, .proceed, .ret, .proceed,
    .proceed]

def filmConfiguration : Configuration :=
  { customActions := [("film", .custom (fun _ => false) false)], hash := fun _ => 0 }

def filmMission : Mission :=
  { items := [.action { name := "film" }] }

def filmMode : ModeBase := { id := 23, activateEvenWhileDisarmed := false }

/-- The mission completes, and the timer fires after that. -/
def completeFilm : List Input :=
  [.userEvent, .op (.setCallback .onProgressUpdate true fun _ => none),
    .op (.setCallback .onCompleted true fun _ => none),
    .op (.setMission filmMission fun _ => none), .ret, armedStatus 23 1] ++ proceeds 7 ++
  [.op (.call (.nextItem 0 0))] ++ proceeds 4 ++ [.command .success, .ret] ++ proceeds 4 ++
  [.reportingTimer] ++ proceeds 2 ++ [.ret] ++ proceeds 3 ++ [.ret]

theorem reports_delivered_of_completion :
    ∃ (calls : Lib.Config (Lib.Recorded (AsyncFunctionCalls Nat)
        (AsyncFunctionCalls.CallHistory Nat)) AsyncFunctionCalls.Task) (reached : ReportedConfig),
      calls.state.history.called = [1, 2] ∧
      reached.state.history.called = [.progressUpdate 0, .completed] ∧
      DeliversAll calls ∧ ReportsInOrder filmConfiguration reached := by
  obtain ⟨calls, runs, both⟩ :=
    Lib.Machine.reaches_of_run_any
      ((AsyncFunctionCalls.machine Nat).recorded AsyncFunctionCalls.callRecorder)
      (fun config => Lib.Machine.unrestricted config.forget) ⟨⟨{}, {}⟩, []⟩
      (fun calls => calls.state.history.called = [1, 2]) queuedInside (by decide)
  obtain ⟨reached, reachable, reports, running⟩ :=
    Lib.Machine.reaches_of_run_any
      ((machine filmConfiguration).recorded (reportRecorder filmConfiguration))
      (fun config => Lib.Machine.unrestricted config.forget)
      ⟨⟨(initial true 1 filmMode .missing).state, {}⟩, []⟩
      (fun reached => reached.state.history.called = [.progressUpdate 0, .completed] ∧
        reached.state.state.crashed = false)
      completeFilm (by decide)
  obtain ⟨delivers, ordered⟩ := reports_delivered runs reachable
  exact ⟨calls, reached, both, reports, delivers, ordered running⟩

end Px4Ros2.MissionExecutor
