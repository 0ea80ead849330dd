import Px4Ros2.Mission.MissionEffects

/-! Which handlers are valid, and what an invalid one can still do. -/

set_option autoImplicit false

namespace Px4Ros2.MissionExecutor

/-- Exactly one handler is valid, the one in `_action_handler`. -/
structure OneValidHandler (executor : MissionExecutor) : Prop where
  current : executor.actionHandler < executor.handlers.length
  valid : ∀ handler, executor.isValid handler = true ↔ handler = executor.actionHandler

/-- The object exists and was invalidated. -/
structure Invalidated (handler : HandlerId) (executor : MissionExecutor) : Prop where
  made : handler < executor.handlers.length
  invalid : executor.isValid handler = false

/-- `ActionHandler::setCurrentMissionIndex` with an effect: the index is another one, or someone
listens. -/
def OverwritesIndex (executor : MissionExecutor) : HandlerOp → Prop
  | .setCurrentMissionIndex index =>
      executor.mission.indexValid index = true ∧
        (executor.state.currentIndex ≠ some index ∨ executor.callbacks.onProgressUpdate = true ∨
          executor.callbacks.onActivityInfoChange = true)
  | _ => False

variable {config : Configuration} {executor : MissionExecutor}

@[simp] theorem invalidate_actionHandler :
    executor.invalidateActionHandler.actionHandler = executor.handlers.length := rfl

@[simp] theorem invalidate_handlers_length :
    executor.invalidateActionHandler.handlers.length = executor.handlers.length + 1 := by
  simp [invalidateActionHandler]

theorem isValid_invalidate_of_lt {handler : HandlerId}
    (made : handler < executor.handlers.length) :
    executor.invalidateActionHandler.isValid handler =
      (executor.isValid handler && handler != executor.actionHandler) := by
  have kept : handler < (executor.handlers.set executor.actionHandler false).length := by
    simpa using made
  simp only [isValid, invalidateActionHandler, List.getD_eq_getElem?_getD,
    List.getElem?_append_left kept, List.getElem?_set]
  by_cases same : executor.actionHandler = handler
  · subst same
    simp [made]
  · have other : (handler != executor.actionHandler) = true := by simp [Ne.symm same]
    simp [same, other]

theorem isValid_invalidate_new :
    executor.invalidateActionHandler.isValid executor.handlers.length = true := by
  simp [isValid, invalidateActionHandler]

theorem isValid_eq_false_of_le {handler : HandlerId}
    (unmade : executor.handlers.length ≤ handler) : executor.isValid handler = false := by
  simp [isValid, List.getD_eq_getElem?_getD, List.getElem?_eq_none unmade]

/-- Only an abort or a deactivation changes the handlers. -/
theorem Effect.handlers {before after : MissionExecutor} (effect : Effect config before after) :
    (after.handlers = before.handlers ∧ after.actionHandler = before.actionHandler) ∨
      after = before.invalidateActionHandler := by
  cases effect with
  | plain same => exact .inl ⟨same.handlers, same.actionHandler⟩
  | invalidate => exact .inr rfl
  | releaseKeeper id =>
      have handling := @removeContinousAction_handling before id
      exact .inl ⟨handling.handlers, handling.actionHandler⟩
  | clearPersistentState =>
      unfold MissionExecutor.clearPersistentState
      split <;> exact .inl ⟨rfl, rfl⟩
  | savePersistentState =>
      unfold MissionExecutor.savePersistentState MissionExecutor.clearPersistentState
      refine .inl ?_
      repeat' split
      all_goals exact ⟨rfl, rfl⟩
  | setMission canRun mission =>
      obtain same | ⟨_, taken, same, ⟨state, _, set⟩ | ⟨_, set⟩⟩ :=
        @setMission_cases config before canRun mission
      · exact .inl (by rw [same]; exact ⟨rfl, rfl⟩)
      · exact .inl (by rw [set]; exact ⟨same.handlers, same.actionHandler⟩)
      · exact .inl (by rw [set]; exact ⟨same.handlers, same.actionHandler⟩)
  | resetMission =>
      unfold MissionExecutor.resetMission
      split <;> exact .inl ⟨rfl, rfl⟩
  | _ => exact .inl ⟨rfl, rfl⟩

theorem OneValidHandler.invalidate (valid : executor.OneValidHandler) :
    executor.invalidateActionHandler.OneValidHandler := by
  constructor
  · simp
  · intro handler
    rw [invalidate_actionHandler]
    rcases Nat.lt_trichotomy handler executor.handlers.length with older | new | unmade
    · rw [isValid_invalidate_of_lt older, Bool.and_eq_true, bne_iff_ne, valid.valid]
      constructor
      · rintro ⟨same, other⟩
        exact absurd same other
      · intro new
        exact absurd new (Nat.ne_of_lt older)
    · simp [new, isValid_invalidate_new]
    · have unmade' : executor.invalidateActionHandler.handlers.length ≤ handler := by
        rw [invalidate_handlers_length]
        exact unmade
      simp [isValid_eq_false_of_le unmade', Nat.ne_of_gt unmade]

theorem Effect.oneValidHandler {before after : MissionExecutor}
    (effect : Effect config before after) (valid : before.OneValidHandler) :
    after.OneValidHandler := by
  obtain ⟨handlers, current⟩ | rfl := effect.handlers
  · constructor
    · rw [handlers, current]
      exact valid.current
    · intro handler
      rw [isValid, handlers, current]
      exact valid.valid handler
  · exact valid.invalidate

/-- A handler never becomes valid again. -/
theorem Effect.invalidated {before after : MissionExecutor} {handler : HandlerId}
    (effect : Effect config before after) (invalidated : Invalidated handler before) :
    Invalidated handler after := by
  obtain ⟨handlers, _⟩ | rfl := effect.handlers
  · constructor
    · rw [handlers]
      exact invalidated.made
    · rw [isValid, handlers]
      exact invalidated.invalid
  · constructor
    · rw [invalidate_handlers_length]
      exact Nat.lt_succ_of_lt invalidated.made
    · simp [isValid_invalidate_of_lt invalidated.made, invalidated.invalid]

variable {registered : Bool} {id : UInt8} {ownedMode : ModeBase} {file : PersistenceFile}
  {guard : Config → Input → Prop}

theorem oneValidHandler_initial :
    (initial registered id ownedMode file).state.OneValidHandler := by
  constructor
  · simp [initial]
  · intro handler
    cases handler <;> simp [initial, isValid]

theorem reaches_oneValidHandler {reached : Config}
    (reaches : (machine config).Reaches guard (initial registered id ownedMode file) reached) :
    reached.state.OneValidHandler :=
  reaches_effects oneValidHandler_initial
    (fun _ _ effect valid => effect.oneValidHandler valid) reaches

/-- Everything but the index is guarded by the flag of the handler. -/
theorem handlerOp_invalid {handler : HandlerId} {op : HandlerOp}
    (invalid : executor.isValid handler = false) (checks : op.checksValid = true) :
    executor.handlerOp config handler op = (executor, []) := by
  simp [handlerOp, invalid, checks]

/-- Without a listener, setting the index that is current already does nothing. -/
theorem setCurrentMissionIndex_eq_self_iff (current : executor.OneValidHandler) {index : Int}
    (valid : executor.mission.indexValid index = true) :
    executor.setCurrentMissionIndex index = (executor, []) ↔
      executor.state.currentIndex = some index ∧ executor.callbacks.onProgressUpdate = false ∧
        executor.callbacks.onActivityInfoChange = false := by
  have within : ¬ index ≥ executor.mission.items.length := by
    simp only [Mission.indexValid, decide_eq_true_eq] at valid
    omega
  simp only [setCurrentMissionIndex, reportIndex, setState, within, if_false]
  by_cases listened : executor.callbacks.onProgressUpdate = true
  · have changed : ∀ report tasks,
        (({ executor with state := { executor.state with currentIndex := some index } }.callAsync
          report, tasks) : MissionExecutor × List Task) ≠ (executor, []) := by
      intro report tasks same
      have longer := congrArg (fun after => after.1.reporting.length) same
      simp [callAsync] at longer
    simp [listened, changed]
  · have unchanged : ({ executor with
          state := { executor.state with currentIndex := some index } } = executor) ↔
        executor.state.currentIndex = some index := by
      constructor
      · intro same
        rw [← same]
      · intro same
        rw [← same]
    have valid : { executor with
        state := { executor.state with currentIndex := some index } }.isValid
          executor.actionHandler = true := (current.valid _).mpr rfl
    simp [listened, clearActivityInfo, setActivityInfo, valid, unchanged]

theorem handlerOp_setCurrentMissionIndex_eq_self_iff (current : executor.OneValidHandler)
    (handler : HandlerId) (index : Int) :
    executor.handlerOp config handler (.setCurrentMissionIndex index) = (executor, []) ↔
      ¬ executor.OverwritesIndex (.setCurrentMissionIndex index) := by
  simp only [handlerOp, HandlerOp.checksValid, Bool.false_and, Bool.false_eq_true, if_false,
    handlerCall, OverwritesIndex]
  by_cases valid : executor.mission.indexValid index = true
  · rw [if_pos valid, setCurrentMissionIndex_eq_self_iff current valid]
    simp [valid]
  · simp [valid]

/-- In every reachable state exactly the current handler is valid. One that was invalidated stays
so, and then and later its operations do nothing, except for an index that is overwritten. -/
theorem invalid_handler_inert {reached : Config}
    (reaches : (machine config).Reaches Lib.Machine.unrestricted
      (initial registered id ownedMode file) reached) :
    reached.state.OneValidHandler ∧
    ∀ handler, Invalidated handler reached.state →
      ∀ later, (machine config).Reaches Lib.Machine.unrestricted reached later →
        Invalidated handler later.state ∧
        ∀ op, later.state.handlerOp config handler op = (later.state, []) ↔
          ¬ later.state.OverwritesIndex op := by
  refine ⟨reaches_oneValidHandler reaches, fun handler invalidated later onward => ?_⟩
  have invalidated' : Invalidated handler later.state :=
    reaches_effects invalidated (fun _ _ effect before => effect.invalidated before) onward
  refine ⟨invalidated', fun op => ?_⟩
  cases op with
  | setCurrentMissionIndex index =>
      exact handlerOp_setCurrentMissionIndex_eq_self_iff
        (reaches_oneValidHandler (reaches.trans onward)) handler index
  | _ => exact iff_of_true (handlerOp_invalid invalidated'.invalid rfl) not_false

/-- A mission of two custom actions, and a process that aborts in the first one. -/
def photoConfiguration : Configuration :=
  { customActions := [("photo", .custom (fun _ => false) false)], hash := fun _ => 0 }

def photoMission : Mission :=
  { items := [.action { name := "photo" }, .action { name := "photo" }] }

def photoMode : ModeBase := { id := 23, activateEvenWhileDisarmed := false }

/-- Up to the `deactivate` of the action, which the abort calls. -/
def abortInPhoto : List Input :=
  [.userEvent, .op (.setMission photoMission fun _ => none), .ret, armedStatus 23 1] ++
  proceeds 7 ++ .op .abort :: proceeds 9

theorem invalid_handler_inert_after_abort :
    ∃ reached : Config, Invalidated 0 reached.state ∧ reached.state.OneValidHandler ∧
      ∀ op, reached.state.handlerOp photoConfiguration 0 op = (reached.state, []) ↔
        ¬ reached.state.OverwritesIndex op := by
  obtain ⟨reached, reaches, made, invalid⟩ :=
    Lib.Machine.reaches_of_run_any (machine photoConfiguration) Lib.Machine.unrestricted
      (initial true 1 photoMode .missing)
      (fun config => 0 < config.state.handlers.length ∧ config.state.isValid 0 = false)
      abortInPhoto (by decide)
  have inert := invalid_handler_inert reaches
  have invalidated : Invalidated 0 reached.state := ⟨made, invalid⟩
  exact ⟨reached, invalidated, inert.1, (inert.2 0 invalidated reached .refl).2⟩

/-- The action keeps its handler across the abort and moves the index of the mission with it. -/
theorem invalid_handler_sets_index :
    ∃ before after : Config,
      (machine photoConfiguration).Reaches Lib.Machine.unrestricted
        (initial true 1 photoMode .missing) before ∧
      Invalidated 0 before.state ∧
      (machine photoConfiguration).step before
        (.op (.handler (.object 0) (.setCurrentMissionIndex 1))) = some after ∧
      before.state.state.currentIndex = some 0 ∧ after.state.state.currentIndex = some 1 := by
  obtain ⟨before, reaches, made, invalid, index, moved⟩ :=
    Lib.Machine.reaches_of_run_any (machine photoConfiguration) Lib.Machine.unrestricted
      (initial true 1 photoMode .missing)
      (fun config => 0 < config.state.handlers.length ∧ config.state.isValid 0 = false ∧
        config.state.state.currentIndex = some 0 ∧
        ((machine photoConfiguration).step config
          (.op (.handler (.object 0) (.setCurrentMissionIndex 1)))).any
            (fun next => next.state.state.currentIndex = some 1) = true)
      abortInPhoto (by decide)
  obtain ⟨after, stepped, moved⟩ := (Option.any_eq_true _ _).mp moved
  exact ⟨before, after, reaches, ⟨made, invalid⟩, stepped, index, by simpa using moved⟩

end Px4Ros2.MissionExecutor
