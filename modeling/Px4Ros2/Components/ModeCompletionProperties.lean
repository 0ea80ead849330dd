import Px4Ros2.Components.ModeCompletion

/-! Which schedule a mode completion resolves, and which completions are published. The latch of a
mode is read off the log: it is set by a `completed` call that no activation followed. -/

set_option autoImplicit false

namespace Px4Ros2

/-- What a mode does with its latch on any vehicle status: it is cleared by an activation only. -/
def ModeBase.Evolves (before after : ModeBase) : Prop :=
  after.id = before.id ∧
  after.isCompleted = if !before.isActive && after.isActive then false else before.isCompleted

theorem ModeBase.Evolves.refl (mode : ModeBase) : mode.Evolves mode := by
  refine ⟨rfl, ?_⟩
  cases mode.isActive <;> simp

theorem ModeBase.vehicleStatusUpdated_evolves (mode : ModeBase) (msg : VehicleStatus)
    (doNotActivate : Bool) : mode.Evolves (mode.vehicleStatusUpdated msg doNotActivate).1 := by
  unfold vehicleStatusUpdated
  dsimp only
  split
  · rename_i differs
    split
    · rename_i active
      split
      · refine ⟨rfl, ?_⟩
        have inactive : mode.isActive = false := by simpa [active] using differs
        simp [callOnActivate, inactive]
      · exact Evolves.refl _
    · exact ⟨rfl, by simp [callOnDeactivate]⟩
  · exact Evolves.refl _

theorem ModeBase.resume_evolves (mode : ModeBase) (task : ModeBase.Task) :
    mode.Evolves (mode.resume task).1 := by
  cases task with
  | hook => exact Evolves.refl _
  | activated =>
      simp only [resume]
      split <;> exact Evolves.refl _
  | updateSetpointUpdateTimer =>
      simp only [resume, updateSetpointUpdateTimer]
      split
      · split <;> exact Evolves.refl _
      · exact Evolves.refl _

theorem ModeExecutorBase.resume_ownedMode_evolves {Callback : Type}
    (executor : ModeExecutorBase Callback) (commandResult : Result) (task : Task Callback) :
    executor.ownedMode.Evolves (executor.resume commandResult task).1.ownedMode := by
  cases task with
  | mode task =>
      cases task with
      | hook => exact ModeBase.Evolves.refl _
      | activated | updateSetpointUpdateTimer => exact ModeBase.resume_evolves _ _
  | updateOwnedMode msg changedToArmed => exact ModeBase.vehicleStatusUpdated_evolves _ msg _
  | hook | callOnActivate | callOnDeactivate | leaveCharge => exact ModeBase.Evolves.refl _
  | cancelScheduledMode =>
      simp only [resume, cancelScheduledMode]
      split <;> exact ModeBase.Evolves.refl _
  | cancelWaitVehicleStatus =>
      simp only [resume, cancelWaitVehicleStatus]
      split <;> exact ModeBase.Evolves.refl _
  | sendScheduleMode | sendArmDisarm | reactivateOnModeSwitch | notifyFailsafeDeferred =>
      simp only [resume]
      split <;> exact ModeBase.Evolves.refl _
  | finishStatusUpdate msg =>
      simp only [resume, updateWaitVehicleStatus]
      split
      · split <;> exact ModeBase.Evolves.refl _
      · exact ModeBase.Evolves.refl _

namespace ExecutorProcess

variable {process : ExecutorProcess} {task : Task} {input : Input}
  {after : ExecutorProcess × List Task}

/-- A request touches neither the owned mode nor the scheduling slot before its command. -/
theorem request_frame (process : ExecutorProcess) (request : Request) :
    (process.request request).1.executor.ownedMode = process.executor.ownedMode ∧
    (process.request request).1.executor.currentScheduledMode =
      process.executor.currentScheduledMode := by
  cases request with
  | scheduleMode | takeoff | land | rtl =>
      simp only [ExecutorProcess.request, apply, ModeExecutorBase.scheduleMode,
        ModeExecutorBase.takeoff, ModeExecutorBase.land, ModeExecutorBase.rtl,
        ModeExecutorBase.scheduleModeCommand]
      split <;> exact ⟨rfl, rfl⟩
  | arm | disarm | waitReadyToArm | waitUntilDisarmed =>
      simp only [ExecutorProcess.request, apply, ModeExecutorBase.arm, ModeExecutorBase.disarm,
        ModeExecutorBase.waitReadyToArm, ModeExecutorBase.waitUntilDisarmed]
      split <;> exact ⟨rfl, rfl⟩

theorem enter_executor (process : ExecutorProcess)
    (hook : ModeExecutorBase.Hook CompletedCallback) :
    (process.enter hook).1.executor = process.executor := by
  cases hook <;> rfl

theorem exec_ownedMode_evolves (executed : exec process task input = some after) :
    process.executor.ownedMode.Evolves after.1.executor.ownedMode := by
  cases task with
  | user =>
      rcases exec_user executed with ⟨request, _, rfl⟩ | ⟨_, rfl⟩
      · rw [(request_frame process request).1]
        exact ModeBase.Evolves.refl _
      · exact ModeBase.Evolves.refl _
  | executor task =>
      rcases exec_executor executed with ⟨hook, _, rfl⟩ | ⟨result, _, _, rfl⟩
      · rw [enter_executor]
        exact ModeBase.Evolves.refl _
      · exact process.executor.resume_ownedMode_evolves result task

/-- The scheduling slot is filled only by a command that is accepted in this very step. -/
theorem exec_currentScheduledMode (executed : exec process task input = some after) :
    after.1.executor.currentScheduledMode = process.executor.currentScheduledMode ∨
    after.1.executor.currentScheduledMode = process.executor.currentScheduledMode.release ∨
    ∃ modeId cmd onCompleted, task = .executor (.sendScheduleMode modeId cmd onCompleted) ∧
      input = .command .success ∧ after.1.executor.currentScheduledMode =
        process.executor.currentScheduledMode.activate modeId onCompleted := by
  cases task with
  | user =>
      rcases exec_user executed with ⟨request, _, rfl⟩ | ⟨_, rfl⟩
      · exact .inl (request_frame process request).2
      · exact .inl rfl
  | executor task =>
      rcases exec_executor executed with ⟨hook, _, rfl⟩ | ⟨result, _, answered, rfl⟩
      · exact .inl (by rw [enter_executor])
      · rcases process.executor.resume_currentScheduledMode result task with
          same | released | ⟨modeId, cmd, onCompleted, rfl, rfl, activated⟩
        · exact .inl same
        · exact .inr (.inl released)
        · rcases answered with answered | answered
          · exact .inr (.inr ⟨modeId, cmd, onCompleted, rfl, answered, activated⟩)
          · exact absurd rfl (answered.1 modeId cmd onCompleted)

end ExecutorProcess

namespace CompletionSystem

variable {log : List CompletionEvent} {event : CompletionEvent} {modeId : ModeID}

private theorem occursAt_lt {position : Nat} (occurs : OccursAt log position event) :
    position < log.length :=
  (List.getElem?_eq_some_iff.mp occurs).1

private theorem occursAt_append {position : Nat} {found : CompletionEvent} :
    OccursAt (log ++ [event]) position found ↔
      OccursAt log position found ∨ position = log.length ∧ found = event := by
  rcases Nat.lt_trichotomy position log.length with before | atEnd | beyond
  · simp only [OccursAt, List.getElem?_append_left before]
    exact ⟨.inl, fun either => either.resolve_right (by omega)⟩
  · subst atEnd
    simp [OccursAt, eq_comm]
  · have outside : log.length ≤ position := by omega
    simp only [OccursAt, List.getElem?_append_right outside, List.getElem?_eq_none outside]
    have : 0 < position - log.length := by omega
    simp only [List.getElem?_singleton]
    simp
    omega

/-- Older positions do not see what is appended. -/
private theorem occursAt_append_of_lt {position : Nat} {found : CompletionEvent}
    (before : position < log.length) :
    OccursAt (log ++ [event]) position found ↔ OccursAt log position found := by
  rw [occursAt_append]
  exact ⟨fun either => either.resolve_right (by omega), .inl⟩

private theorem completesAt_append_of_lt {position : Nat} (before : position < log.length) :
    CompletesAt (log ++ [event]) position modeId ↔ CompletesAt log position modeId := by
  simp only [CompletesAt, occursAt_append_of_lt before]

/-- A `completed` call of the mode that no activation of it followed. -/
private def Latched (log : List CompletionEvent) (modeId : ModeID) : Prop :=
  ∃ call, CompletesAt log call modeId ∧
    ∀ position, call < position → ¬ OccursAt log position (.activated modeId)

private theorem latched_append_completed (result : Result) (published : Bool) :
    Latched (log ++ [.completed modeId result published]) modeId := by
  refine ⟨log.length, ⟨result, published, occursAt_append.mpr (.inr ⟨rfl, rfl⟩)⟩, ?_⟩
  intro position later occurs
  have := occursAt_lt occurs
  simp only [List.length_append, List.length_singleton] at this
  omega

private theorem not_latched_append_activated :
    ¬ Latched (log ++ [.activated modeId]) modeId := by
  rintro ⟨call, ⟨result, published, called⟩, quiet⟩
  rcases occursAt_append.mp called with older | ⟨_, same⟩
  · exact quiet log.length (occursAt_lt older) (occursAt_append.mpr (.inr ⟨rfl, rfl⟩))
  · cases same

/-- Events of other modes, and events of other kinds, leave the latch alone. -/
private theorem latched_append_other
    (notCompleted : ∀ result published, event ≠ .completed modeId result published)
    (notActivated : event ≠ .activated modeId) :
    Latched (log ++ [event]) modeId ↔ Latched log modeId := by
  constructor
  · rintro ⟨call, ⟨result, published, called⟩, quiet⟩
    rcases occursAt_append.mp called with older | ⟨_, same⟩
    · exact ⟨call, ⟨result, published, older⟩,
        fun position later occurs => quiet position later (occursAt_append.mpr (.inl occurs))⟩
    · exact absurd same.symm (notCompleted result published)
  · rintro ⟨call, ⟨result, published, called⟩, quiet⟩
    refine ⟨call, ⟨result, published, occursAt_append.mpr (.inl called)⟩, ?_⟩
    intro position later occurs
    rcases occursAt_append.mp occurs with older | ⟨_, same⟩
    · exact quiet position later older
    · exact notActivated same.symm

/-- The latches of all modes as the log tells them, and what was published so far. -/
private structure LatchesTracked (modes : ModeID → ModeBase) (log : List CompletionEvent) :
    Prop where
  ids : ∀ modeId, (modes modeId).id = modeId
  latched : ∀ modeId, (modes modeId).isCompleted = true ↔ Latched log modeId
  published : PublishedOncePerActivation log

private theorem published_append (before : PublishedOncePerActivation log)
    (step : ∀ modeId result published, event = .completed modeId result published →
      (published = true ↔ ¬ Latched log modeId)) :
    PublishedOncePerActivation (log ++ [event]) := by
  intro call modeId result published called
  rcases occursAt_append.mp called with older | ⟨rfl, same⟩
  · have bound := occursAt_lt older
    rw [before call modeId result published older]
    refine forall_congr' fun earlier => ?_
    refine forall_congr' fun earlierBound => ?_
    rw [completesAt_append_of_lt (by omega)]
    refine forall_congr' fun _ => exists_congr fun activation => ?_
    refine and_congr_right fun _ => and_congr_right fun inside => ?_
    exact (occursAt_append_of_lt (by omega)).symm
  · rw [step modeId result published same.symm]
    constructor
    · intro unlatched earlier bound completes
      rw [completesAt_append_of_lt bound] at completes
      by_contra missing
      refine unlatched ⟨earlier, completes, ?_⟩
      intro position later occurs
      exact missing ⟨position, later, occursAt_lt occurs, occursAt_append.mpr (.inl occurs)⟩
    · rintro followed ⟨earlier, ⟨result', published', completes⟩, quiet⟩
      have bound := occursAt_lt completes
      obtain ⟨activation, later, inside, activated⟩ := followed earlier bound
        ⟨result', published', occursAt_append.mpr (.inl completes)⟩
      exact quiet activation later ((occursAt_append_of_lt inside).mp activated)

variable {modes : ModeID → ModeBase}

/-- An event that says nothing about latches. -/
private theorem LatchesTracked.append_other (tracked : LatchesTracked modes log)
    (event : CompletionEvent)
    (notCompleted : ∀ modeId result published, event ≠ .completed modeId result published)
    (notActivated : ∀ modeId, event ≠ .activated modeId) :
    LatchesTracked modes (log ++ [event]) where
  ids := tracked.ids
  latched modeId := by
    rw [latched_append_other (notCompleted modeId) (notActivated modeId)]
    exact tracked.latched modeId
  published := published_append tracked.published fun modeId result published same =>
    absurd same (notCompleted modeId result published)

/-- A mode handles a vehicle status. -/
private theorem LatchesTracked.evolve (tracked : LatchesTracked modes log) (modeId : ModeID)
    (after : ModeBase) (evolves : (modes modeId).Evolves after) :
    LatchesTracked (Function.update modes modeId after)
      (log ++ activationEvents (modes modeId) after) := by
  obtain ⟨sameId, latch⟩ := evolves
  have ids : ∀ other, (Function.update modes modeId after other).id = other := by
    intro other
    by_cases same : other = modeId
    · subst same
      simp [sameId, tracked.ids]
    · simp [Function.update_of_ne same, tracked.ids]
  unfold activationEvents
  split
  · rename_i activated
    rw [if_pos activated] at latch
    have idOfAfter : after.id = modeId := by rw [sameId, tracked.ids]
    rw [idOfAfter]
    refine ⟨ids, ?_, published_append tracked.published (by simp)⟩
    intro other
    by_cases same : other = modeId
    · subst same
      simp [latch, not_latched_append_activated]
    · rw [Function.update_of_ne same, tracked.latched other]
      exact (latched_append_other (by simp) (by simpa using Ne.symm same)).symm
  · rename_i quiet
    rw [if_neg quiet] at latch
    rw [List.append_nil]
    refine ⟨ids, ?_, tracked.published⟩
    intro other
    by_cases same : other = modeId
    · subst same
      simp [latch, tracked.latched]
    · rw [Function.update_of_ne same, tracked.latched other]

/-- A mode calls `completed`: the message goes out exactly when its latch is not set. -/
private theorem LatchesTracked.complete (tracked : LatchesTracked modes log) (modeId : ModeID)
    (result : Result) :
    LatchesTracked (Function.update modes modeId ((modes modeId).completed result).1)
      (log ++ [.completed modeId result !(modes modeId).isCompleted]) := by
  have latch : ((modes modeId).completed result).1.isCompleted = true := by
    unfold ModeBase.completed
    split
    · assumption
    · rfl
  have sameId : ((modes modeId).completed result).1.id = modeId := by
    unfold ModeBase.completed
    split <;> exact tracked.ids modeId
  constructor
  · intro other
    by_cases same : other = modeId
    · subst same
      simp [sameId]
    · simp [Function.update_of_ne same, tracked.ids]
  · intro other
    by_cases same : other = modeId
    · subst same
      simp [latch, latched_append_completed]
    · rw [Function.update_of_ne same, tracked.latched other]
      refine (latched_append_other ?_ (by simp)).symm
      rintro result' published' same'
      cases same'
      exact same rfl
  · refine published_append tracked.published ?_
    intro other result' published same
    cases same
    rw [← tracked.latched]
    simp

/-- Every message in flight belongs to one call that nothing was delivered for, and the scheduling
slot to an accepted schedule. -/
private structure DeliveriesTracked (slot : ScheduledMode CompletedCallback)
    (completions : List (ModeCompleted × Nat)) (log : List CompletionEvent) : Prop where
  calls : ∀ entry ∈ completions, ∃ result, entry.1.result = result.code ∧
    OccursAt log entry.2 (.completed entry.1.navState result true)
  distinct : (completions.map Prod.snd).Nodup
  undelivered : ∀ entry ∈ completions, ∀ delivery resolves,
    ¬ OccursAt log delivery (.delivered entry.2 resolves)
  older : ∀ delivery call resolves, OccursAt log delivery (.delivered call resolves) →
    call < delivery
  schedule : ∀ request, slot.onCompletedCallback = some (.scheduled request) →
    ∃ accepted, OccursAt log accepted (.scheduled request slot.modeId)
  results : ResultsFollowQuietSchedules log

variable {slot : ScheduledMode CompletedCallback} {completions : List (ModeCompleted × Nat)}

/-- Appending to the log does not change what was in flight at an older position. -/
private theorem noCompletionInFlight_append {position : Nat} (bound : position ≤ log.length)
    (quiet : NoCompletionInFlight (log ++ [event]) modeId position) :
    NoCompletionInFlight log modeId position := by
  intro call callBound result called
  obtain ⟨delivery, deliveryBound, resolves, delivered⟩ :=
    quiet call callBound result (occursAt_append.mpr (.inl called))
  exact ⟨delivery, deliveryBound, resolves, (occursAt_append_of_lt (by omega)).mp delivered⟩

private theorem results_append (before : ResultsFollowQuietSchedules log)
    (step : ∀ call request result, event = .delivered call (some (request, result)) →
      ∃ accepted modeId, OccursAt log accepted (.scheduled request modeId) ∧
        OccursAt log call (.completed modeId result true) ∧
        (NoCompletionInFlight log modeId accepted → accepted < call)) :
    ResultsFollowQuietSchedules (log ++ [event]) := by
  intro position call request result delivered
  have explained : ∃ accepted modeId, OccursAt log accepted (.scheduled request modeId) ∧
      OccursAt log call (.completed modeId result true) ∧
      (NoCompletionInFlight log modeId accepted → accepted < call) := by
    rcases occursAt_append.mp delivered with older | ⟨_, same⟩
    · exact before position call request result older
    · exact step call request result same.symm
  obtain ⟨accepted, modeId, scheduled, called, follows⟩ := explained
  refine ⟨accepted, modeId, occursAt_append.mpr (.inl scheduled),
    occursAt_append.mpr (.inl called), fun quiet => follows ?_⟩
  exact noCompletionInFlight_append (Nat.le_of_lt (occursAt_lt scheduled)) quiet

private theorem DeliveriesTracked.append_other (tracked : DeliveriesTracked slot completions log)
    (event : CompletionEvent)
    (notDelivered : ∀ call resolves, event ≠ .delivered call resolves) :
    DeliveriesTracked slot completions (log ++ [event]) where
  calls entry member := by
    obtain ⟨result, sameResult, called⟩ := tracked.calls entry member
    exact ⟨result, sameResult, occursAt_append.mpr (.inl called)⟩
  distinct := tracked.distinct
  undelivered entry member delivery resolves delivered := by
    rcases occursAt_append.mp delivered with older | ⟨_, same⟩
    · exact tracked.undelivered entry member delivery resolves older
    · exact notDelivered _ _ same.symm
  older delivery call resolves delivered := by
    rcases occursAt_append.mp delivered with older | ⟨_, same⟩
    · exact tracked.older delivery call resolves older
    · exact absurd same.symm (notDelivered call resolves)
  schedule request held := by
    obtain ⟨accepted, scheduled⟩ := tracked.schedule request held
    exact ⟨accepted, occursAt_append.mpr (.inl scheduled)⟩
  results := results_append tracked.results fun call request result same =>
    absurd same (notDelivered call _)

private theorem DeliveriesTracked.append_activationEvents
    (tracked : DeliveriesTracked slot completions log) (before after : ModeBase) :
    DeliveriesTracked slot completions (log ++ activationEvents before after) := by
  unfold activationEvents
  split
  · exact tracked.append_other _ (by simp)
  · rw [List.append_nil]
    exact tracked

/-- The slot is emptied, or stays as it is. -/
private theorem DeliveriesTracked.of_slot (tracked : DeliveriesTracked slot completions log)
    {after : ScheduledMode CompletedCallback} (change : after = slot ∨ after = slot.release) :
    DeliveriesTracked after completions log := by
  rcases change with rfl | rfl
  · exact tracked
  · exact ⟨tracked.calls, tracked.distinct, tracked.undelivered, tracked.older,
      by simp [ScheduledMode.release], tracked.results⟩

/-- A published call puts its message in flight. -/
private theorem DeliveriesTracked.publish (tracked : DeliveriesTracked slot completions log)
    (result : Result) :
    DeliveriesTracked slot (completions ++ [(⟨modeId, result.code⟩, log.length)])
      (log ++ [.completed modeId result true]) := by
  have appended := tracked.append_other (.completed modeId result true) (by simp)
  have older : ∀ entry ∈ completions, entry.2 < log.length := by
    intro entry member
    obtain ⟨_, _, called⟩ := tracked.calls entry member
    exact occursAt_lt called
  refine ⟨?_, ?_, ?_, appended.older, appended.schedule, appended.results⟩
  · intro entry member
    rcases List.mem_append.mp member with inFlight | new
    · exact appended.calls entry inFlight
    · cases List.mem_singleton.mp new
      exact ⟨result, rfl, occursAt_append.mpr (.inr ⟨rfl, rfl⟩)⟩
  · rw [List.map_append, List.nodup_append]
    refine ⟨tracked.distinct, by simp, ?_⟩
    intro call member call' new
    obtain ⟨entry, inFlight, rfl⟩ := List.mem_map.mp member
    have bound := older entry inFlight
    simp only [List.map_cons, List.map_nil, List.mem_singleton] at new
    omega
  · intro entry member delivery resolves delivered
    rcases List.mem_append.mp member with inFlight | new
    · exact appended.undelivered entry inFlight delivery resolves delivered
    · cases List.mem_singleton.mp new
      have := appended.older delivery _ _ delivered
      have := occursAt_lt delivered
      simp only [List.length_append, List.length_singleton] at this
      omega

/-- The oldest message in flight reaches the executor. -/
private theorem DeliveriesTracked.deliver {msg : ModeCompleted} {call : Nat}
    (executor : ModeExecutorBase CompletedCallback)
    (tracked : DeliveriesTracked executor.currentScheduledMode ((msg, call) :: completions) log) :
    DeliveriesTracked (executor.modeCompletedReceived msg).1.currentScheduledMode completions
      (log ++ [.delivered call (resolvedRequest (executor.modeCompletedReceived msg).2)]) := by
  obtain ⟨result, sameResult, called⟩ := tracked.calls (msg, call) List.mem_cons_self
  have distinct := tracked.distinct
  simp only [List.map_cons, List.nodup_cons] at distinct
  have change : (executor.modeCompletedReceived msg).1.currentScheduledMode =
        executor.currentScheduledMode ∨
      (executor.modeCompletedReceived msg).1.currentScheduledMode =
        executor.currentScheduledMode.release := by
    unfold ModeExecutorBase.modeCompletedReceived
    split
    · exact .inr rfl
    · exact .inl rfl
  have resolves : ∀ request result',
      resolvedRequest (executor.modeCompletedReceived msg).2 = some (request, result') →
      msg.navState = executor.currentScheduledMode.modeId ∧ result' = result ∧
        executor.currentScheduledMode.onCompletedCallback = some (.scheduled request) := by
    intro request result' resolved
    unfold ModeExecutorBase.modeCompletedReceived at resolved
    split at resolved
    · rename_i matched
      simp only [Bool.and_eq_true, beq_iff_eq] at matched
      cases held : executor.currentScheduledMode.onCompletedCallback with
      | none => simp [held, resolvedRequest] at resolved
      | some callback =>
          cases callback with
          | waiting => simp [held, resolvedRequest] at resolved
          | scheduled id =>
              simp only [held, resolvedRequest, Option.some.injEq, Prod.mk.injEq] at resolved
              obtain ⟨rfl, rfl⟩ := resolved
              exact ⟨matched.2, congrArg Result.mk sameResult, rfl⟩
    · simp [resolvedRequest] at resolved
  constructor
  · intro entry member
    obtain ⟨result, sameResult, called⟩ := tracked.calls entry (List.mem_cons_of_mem _ member)
    exact ⟨result, sameResult, occursAt_append.mpr (.inl called)⟩
  · exact distinct.2
  · intro entry member delivery resolves delivered
    rcases occursAt_append.mp delivered with older | ⟨_, same⟩
    · exact tracked.undelivered entry (List.mem_cons_of_mem _ member) delivery resolves older
    · cases same
      exact distinct.1 (List.mem_map_of_mem member)
  · intro delivery other resolves delivered
    rcases occursAt_append.mp delivered with older | ⟨atEnd, same⟩
    · exact tracked.older delivery other resolves older
    · cases same
      have := occursAt_lt called
      omega
  · intro request held
    obtain ⟨accepted, scheduled⟩ := (tracked.of_slot change).schedule request held
    exact ⟨accepted, occursAt_append.mpr (.inl scheduled)⟩
  · refine results_append tracked.results ?_
    intro call' request result' same
    obtain ⟨rfl, resolved⟩ := CompletionEvent.delivered.inj same
    obtain ⟨sameMode, rfl, held⟩ := resolves request result' resolved
    obtain ⟨accepted, scheduled⟩ := tracked.schedule request held
    refine ⟨accepted, _, scheduled, sameMode ▸ called, ?_⟩
    intro quiet
    by_contra notAfter
    have apart : call ≠ accepted := by
      rintro rfl
      simp [OccursAt, scheduled] at called
    obtain ⟨delivery, _, resolves', delivered⟩ :=
      quiet call (by omega) result' (sameMode ▸ called)
    exact tracked.undelivered (msg, call) List.mem_cons_self delivery resolves' delivered

private structure Tracked (system : CompletionSystem) : Prop where
  latches : LatchesTracked system.modeOf system.log
  deliveries : DeliveriesTracked system.process.executor.currentScheduledMode
    system.completions system.log

/-- A new owned mode changes the view of that mode only. -/
private theorem modeOf_ownedMode (system after : CompletionSystem)
    (sameId : after.process.executor.ownedMode.id = system.process.executor.ownedMode.id)
    (sameModes : after.modes = system.modes) :
    after.modeOf = Function.update system.modeOf system.process.executor.ownedMode.id
      after.process.executor.ownedMode := by
  funext modeId
  by_cases same : modeId = system.process.executor.ownedMode.id
  · simp [modeOf, sameId, same]
  · simp [modeOf, sameId, sameModes, same]

private theorem modeOf_of_same {system after : CompletionSystem}
    (sameMode : after.process.executor.ownedMode = system.process.executor.ownedMode)
    (sameModes : after.modes = system.modes) : after.modeOf = system.modeOf := by
  funext modeId
  simp only [modeOf, sameMode, sameModes]

private theorem modeOf_setMode (system : CompletionSystem) (modeId : ModeID) {mode : ModeBase}
    (sameId : mode.id = modeId) :
    (system.setMode modeId mode).modeOf = Function.update system.modeOf modeId mode := by
  unfold setMode
  split
  · rename_i owned
    subst owned
    exact modeOf_ownedMode _ _ sameId rfl
  · rename_i other
    funext query
    by_cases same : query = modeId
    · subst same
      simp [modeOf, other]
    · by_cases owned : query = system.process.executor.ownedMode.id
      · simp [modeOf, owned, Function.update_of_ne (Ne.symm other)]
      · simp [modeOf, owned, Function.update_of_ne same]

private theorem setMode_frame (system : CompletionSystem) (modeId : ModeID) (mode : ModeBase) :
    (system.setMode modeId mode).process.executor.currentScheduledMode =
        system.process.executor.currentScheduledMode ∧
      (system.setMode modeId mode).completions = system.completions ∧
      (system.setMode modeId mode).log = system.log := by
  unfold setMode
  split <;> exact ⟨rfl, rfl, rfl⟩

private theorem publishStatus_tracked {system : CompletionSystem} (before : Tracked system)
    (status : VehicleStatus) : Tracked (system.publishStatus status) :=
  ⟨before.latches, before.deliveries⟩

private theorem completeMode_tracked {system : CompletionSystem} (before : Tracked system)
    (modeId : ModeID) (result : Result) : Tracked (system.completeMode modeId result) := by
  have sameId : ((system.modeOf modeId).completed result).1.id = modeId := by
    unfold ModeBase.completed
    split <;> exact before.latches.ids modeId
  have latches := before.latches.complete modeId result
  rw [← modeOf_setMode system modeId sameId] at latches
  obtain ⟨slot, completions, _⟩ :=
    setMode_frame system modeId ((system.modeOf modeId).completed result).1
  cases latch : (system.modeOf modeId).isCompleted with
  | true =>
      have silent : (system.modeOf modeId).completed result = (system.modeOf modeId, none) := by
        simp [ModeBase.completed, latch]
      simp only [silent, latch, Bool.not_true] at latches slot completions
      simp only [completeMode, silent]
      refine ⟨latches, ?_⟩
      have deliveries := before.deliveries.append_other (.completed modeId result false)
        (by simp)
      simpa only [slot, completions] using deliveries
  | false =>
      have sent : ((system.modeOf modeId).completed result).2 = some ⟨modeId, result.code⟩ := by
        simp [ModeBase.completed, latch, before.latches.ids modeId]
      simp only [latch, Bool.not_false] at latches
      simp only [completeMode, sent]
      refine ⟨latches, ?_⟩
      simpa only [slot] using before.deliveries.publish result

private theorem updateMode_tracked {system after : CompletionSystem} (before : Tracked system)
    {modeId : ModeID} (updated : system.updateMode modeId = some after) : Tracked after := by
  unfold updateMode at updated
  split at updated
  · cases updated
  · rename_i other
    split at updated
    · cases updated
    · rename_i msg rest _
      cases updated
      have sameMode : system.modeOf modeId = system.modes modeId := by simp [modeOf, other]
      have evolves := ModeBase.vehicleStatusUpdated_evolves (system.modes modeId) msg false
      rw [← sameMode] at evolves ⊢
      have sameModes : { system with
          modes := Function.update system.modes modeId
            ((system.modeOf modeId).vehicleStatusUpdated msg false).1 }.modeOf =
          Function.update system.modeOf modeId
            ((system.modeOf modeId).vehicleStatusUpdated msg false).1 := by
        have set := modeOf_setMode system modeId
          (evolves.1.trans (before.latches.ids modeId))
        simpa [setMode, other] using set
      refine ⟨?_, before.deliveries.append_activationEvents _ _⟩
      have latches := before.latches.evolve modeId _ evolves
      rw [← sameModes] at latches
      exact latches

private theorem environment_tracked {system after : CompletionSystem} (before : Tracked system)
    {input : Input} (happened : system.environment input = some after) : Tracked after := by
  cases input with
  | statusChanged status =>
      cases happened
      exact publishStatus_tracked before status
  | statusToMode modeId => exact updateMode_tracked before happened
  | completed modeId result =>
      cases happened
      exact completeMode_tracked before modeId result
  | executor | statusToExecutor | completionToExecutor => cases happened

private theorem acceptSchedule_tracked {system : CompletionSystem} (before : Tracked system)
    (accepted : Option (Nat × ModeID)) : Tracked (system.acceptSchedule accepted) := by
  cases accepted with
  | none => exact before
  | some schedule =>
      obtain ⟨request, modeId⟩ := schedule
      exact ⟨before.latches.append_other _ (by simp) (by simp),
        before.deliveries.append_other _ (by simp)⟩

/-- Accepting a schedule leaves the process alone. -/
private theorem acceptSchedule_process (system : CompletionSystem)
    (accepted : Option (Nat × ModeID)) :
    (system.acceptSchedule accepted).process = system.process := by
  cases accepted <;> rfl

private theorem runExecutor_tracked {system : CompletionSystem} (before : Tracked system)
    {task : ExecutorProcess.Task} {input : ExecutorProcess.Input}
    {after : CompletionSystem × List ExecutorProcess.Task}
    (ran : system.runExecutor task input = some after) : Tracked after.1 := by
  obtain ⟨moved, executed, rfl⟩ := Option.map_eq_some_iff.mp ran
  have accepted := acceptSchedule_tracked before (acceptedSchedule task input)
  have sameProcess := acceptSchedule_process system (acceptedSchedule task input)
  have evolves := ExecutorProcess.exec_ownedMode_evolves executed
  constructor
  · have owned : (system.acceptSchedule (acceptedSchedule task input)).modeOf
        system.process.executor.ownedMode.id = system.process.executor.ownedMode := by
      simp [modeOf, sameProcess]
    have latches := accepted.latches.evolve system.process.executor.ownedMode.id
      moved.1.executor.ownedMode (by rw [owned]; exact evolves)
    rw [owned] at latches
    have view := modeOf_ownedMode (system.acceptSchedule (acceptedSchedule task input))
      { system.acceptSchedule (acceptedSchedule task input) with
        process := moved.1
        log := (system.acceptSchedule (acceptedSchedule task input)).log ++
          activationEvents system.process.executor.ownedMode moved.1.executor.ownedMode }
      (by rw [sameProcess]; exact evolves.1) rfl
    rw [sameProcess] at view
    rw [← view] at latches
    exact latches
  · refine DeliveriesTracked.append_activationEvents ?_ _ _
    have deliveries := accepted.deliveries
    rw [sameProcess] at deliveries
    rcases ExecutorProcess.exec_currentScheduledMode executed with
      same | released | ⟨modeId, cmd, onCompleted, rfl, rfl, activated⟩
    · exact deliveries.of_slot (.inl same)
    · exact deliveries.of_slot (.inr released)
    · refine ⟨deliveries.calls, deliveries.distinct, deliveries.undelivered, deliveries.older,
        ?_, deliveries.results⟩
      intro request held
      simp only [activated, ScheduledMode.activate, Option.some.injEq] at held ⊢
      subst held
      exact ⟨system.log.length, occursAt_append.mpr (.inr ⟨rfl, rfl⟩)⟩

private theorem deliverCompletion_tracked {system : CompletionSystem} (before : Tracked system)
    {after : CompletionSystem × List ExecutorProcess.Task}
    (delivered : system.deliverCompletion = some after) : Tracked after.1 := by
  unfold deliverCompletion at delivered
  split at delivered
  · cases delivered
  · rename_i msg call rest inFlight
    cases delivered
    have deliveries := before.deliveries
    rw [inFlight] at deliveries
    have sameMode : (system.process.executor.modeCompletedReceived msg).1.ownedMode =
        system.process.executor.ownedMode := by
      unfold ModeExecutorBase.modeCompletedReceived
      split <;> rfl
    have view : CompletionSystem.modeOf { system with
        process := (system.process.apply (system.process.executor.modeCompletedReceived msg)).1
        completions := rest
        log := system.log ++ [.delivered call
          (resolvedRequest (system.process.executor.modeCompletedReceived msg).2)] } =
        system.modeOf := modeOf_of_same sameMode rfl
    refine ⟨?_, DeliveriesTracked.deliver _ deliveries⟩
    rw [view]
    exact before.latches.append_other _ (by simp) (by simp)

private theorem deliverStatus_tracked {system : CompletionSystem} (before : Tracked system)
    {after : CompletionSystem × List ExecutorProcess.Task}
    (delivered : system.deliverStatus = some after) : Tracked after.1 := by
  unfold deliverStatus at delivered
  split at delivered
  · cases delivered
  · rename_i msg rest _
    cases delivered
    have frame : (system.process.executor.vehicleStatusReceived msg).1.ownedMode =
          system.process.executor.ownedMode ∧
        (system.process.executor.vehicleStatusReceived msg).1.currentScheduledMode =
          system.process.executor.currentScheduledMode := by
      unfold ModeExecutorBase.vehicleStatusReceived ModeExecutorBase.vehicleStatusUpdated
      split
      · dsimp only
        split
        · split <;> exact ⟨rfl, rfl⟩
        · exact ⟨rfl, rfl⟩
      · exact ⟨rfl, rfl⟩
    have view : CompletionSystem.modeOf { system with
        process := (system.process.apply (system.process.executor.vehicleStatusReceived msg)).1
        executorInbox := rest } = system.modeOf := modeOf_of_same frame.1 rfl
    refine ⟨?_, before.deliveries.of_slot (.inl frame.2)⟩
    rw [view]
    exact before.latches

private theorem step_tracked {config next : Config} {input : Input}
    (before : Tracked config.state) (stepped : machine.step config input = some next) :
    Tracked next.state := by
  rcases config with ⟨system, agenda⟩
  rcases Lib.Machine.step_cases stepped with
    ⟨quiescent, after, tasks, taken, rfl⟩ | ⟨task, rest, after, tasks, shape, executed, rfl⟩
  · cases input with
    | executor input =>
        cases input with
        | userEvent =>
            cases taken
            exact before
        | proceed | command | request | ret | vehicleStatus | modeCompleted => cases taken
    | statusToExecutor => exact deliverStatus_tracked before taken
    | completionToExecutor => exact deliverCompletion_tracked before taken
    | statusChanged | statusToMode | completed =>
        simp only [machine, idle, Option.map_eq_some_iff, Prod.mk.injEq] at taken
        obtain ⟨_, happened, rfl, _⟩ := taken
        exact environment_tracked before happened
  · cases input with
    | executor input => exact runExecutor_tracked before executed
    | statusToExecutor | completionToExecutor | statusChanged | statusToMode | completed =>
        simp only [machine, exec, Option.map_eq_some_iff, Prod.mk.injEq] at executed
        obtain ⟨_, happened, rfl, _⟩ := executed
        exact environment_tracked before happened

private theorem initial_tracked (id : UInt8) (activation : Activation) (ownedMode : ModeID)
    (activateEvenWhileDisarmed : ModeID → Bool) (status : VehicleStatus) :
    Tracked (initial id activation ownedMode activateEvenWhileDisarmed status).state := by
  constructor
  · refine ⟨?_, ?_, by simp [PublishedOncePerActivation, initial, OccursAt]⟩
    · intro modeId
      by_cases owned : modeId = ownedMode <;> simp [modeOf, initial, owned]
    · intro modeId
      by_cases owned : modeId = ownedMode <;>
        simp [modeOf, initial, owned, Latched, CompletesAt, OccursAt]
  · exact ⟨by simp [initial], by simp [initial], by simp [initial], by simp [initial, OccursAt],
      by simp [initial], by simp [ResultsFollowQuietSchedules, initial, OccursAt]⟩

/-- In every run: a schedule gets results of its own mode, and none from before it was accepted
unless a completion of the mode was in flight then; and a `completed` call is published exactly
when the mode was activated since its previous one. -/
theorem completions_resolve_schedules (id : UInt8) (activation : Activation) (ownedMode : ModeID)
    (activateEvenWhileDisarmed : ModeID → Bool) (status : VehicleStatus) (config : Config)
    (reached : machine.Reaches Lib.Machine.unrestricted
      (initial id activation ownedMode activateEvenWhileDisarmed status) config) :
    ResultsFollowQuietSchedules config.state.log ∧ PublishedOncePerActivation config.state.log := by
  have tracked : Tracked config.state :=
    reached.invariant
      (initial_tracked id activation ownedMode activateEvenWhileDisarmed status)
      fun _ _ _ before _ stepped => step_tracked before stepped
  exact ⟨tracked.deliveries.results, tracked.latches.published⟩

/-- Up to the moment where mode 23 is active and user code runs in the executor. -/
private def activateMode : List Input :=
  [.statusChanged ⟨VehicleStatus.armingStateArmed, 100, 1, false, 0, true⟩, .statusToExecutor,
    .executor .proceed, .executor .proceed, .executor (.request (.scheduleMode 23 false)),
    .executor .proceed, .executor (.command .success), .executor .ret,
    .executor .proceed, .executor .proceed, .executor .proceed, .executor .proceed,
    .statusToMode 23, .statusToMode 23]

/-- A mode is scheduled and activated; the first of its two completions is delivered. -/
theorem completions_resolve_schedules_one_schedule :
    ∃ config, machine.Reaches Lib.Machine.unrestricted
      (initial 1 .activateOnlyWhenArmed 100 (fun _ => false) ⟨0, 4, 0, false, 0, true⟩) config ∧
      config.state.log = [.scheduled 0 23, .activated 23, .completed 23 .success true,
        .completed 23 .rejected false, .delivered 2 (some (0, .success))] ∧
      ResultsFollowQuietSchedules config.state.log ∧
      PublishedOncePerActivation config.state.log := by
  obtain ⟨config, reached, log⟩ := Lib.Machine.reaches_of_run_any machine
    Lib.Machine.unrestricted
    (initial 1 .activateOnlyWhenArmed 100 (fun _ => false) ⟨0, 4, 0, false, 0, true⟩)
    (fun config => config.state.log = [.scheduled 0 23, .activated 23,
      .completed 23 .success true, .completed 23 .rejected false,
      .delivered 2 (some (0, .success))])
    (activateMode ++ [.completed 23 .success, .completed 23 .rejected, .completionToExecutor])
    (by decide)
  exact ⟨config, reached, log, completions_resolve_schedules 1 .activateOnlyWhenArmed 100
    (fun _ => false) ⟨0, 4, 0, false, 0, true⟩ config reached⟩

/-- Mode 23 is scheduled and completes; while the message is on its way the same mode is scheduled
again, which does not reactivate it. The old result resolves the new schedule, and the next
`completed` call is swallowed. -/
theorem rescheduled_mode_gets_old_completion :
    ∃ config, machine.Reaches Lib.Machine.unrestricted
      (initial 1 .activateOnlyWhenArmed 100 (fun _ => false) ⟨0, 4, 0, false, 0, true⟩) config ∧
      ¬ ResultsFollowSchedules config.state.log ∧
      ¬ FirstCompletionsPublished config.state.log := by
  obtain ⟨config, reached, log⟩ := Lib.Machine.reaches_of_run_any machine
    Lib.Machine.unrestricted
    (initial 1 .activateOnlyWhenArmed 100 (fun _ => false) ⟨0, 4, 0, false, 0, true⟩)
    (fun config => config.state.log =
      [.scheduled 0 23, .activated 23, .completed 23 .success true, .scheduled 1 23,
        .delivered 2 (some (1, .success)), .completed 23 .success false])
    (activateMode ++ [.completed 23 .success,
      .executor .userEvent, .executor (.request (.scheduleMode 23 false)), .executor .proceed,
      .executor .proceed, .executor .ret, .executor (.command .success), .executor .ret,
      .completionToExecutor, .completed 23 .success]) (by decide)
  refine ⟨config, reached, ?_, ?_⟩
  · rw [log]
    intro follows
    obtain ⟨accepted, modeId, scheduled, _, before⟩ := follows 4 2 1 .success rfl
    have early : accepted = 0 ∨ accepted = 1 := by omega
    rcases early with rfl | rfl <;> simp [OccursAt] at scheduled
  · rw [log]
    intro published
    have := published 3 1 23 5 .success false rfl (by decide) rfl (by
      rintro between later earlier ⟨result, sent, called⟩
      have only : between = 4 := by omega
      subst only
      simp [OccursAt] at called)
    cases this

end CompletionSystem

end Px4Ros2
