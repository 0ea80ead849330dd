import Mathlib.Data.List.Chain
import Px4Ros2.Components.ModeLifeCycle

/-! The life cycle of a mode, for arbitrary vehicle status and arbitrary user code. -/

set_option autoImplicit false

namespace Px4Ros2.ModeProcess

open Lib

variable {mode : ModeBase} {calls : List Call} {call : Call} {msg : ModeCompleted} {rateHz : Rat}

/-! ### The log of calls -/

/-- The last transition is an activation. -/
def Activated (calls : List Call) : Prop :=
  (calls.filter (·.isTransition)).getLast? = some .onActivate

/-- No completion since the last activation. -/
def NoneCompleted (calls : List Call) : Prop :=
  ∀ before msg after, calls = before ++ .modeCompleted msg :: after → .onActivate ∈ after

theorem filter_append_of_not (quiet : call.isTransition = false) :
    (calls ++ [call]).filter (·.isTransition) = calls.filter (·.isTransition) := by
  simp [quiet]

theorem filter_append_of_transition (transition : call.isTransition = true) :
    (calls ++ [call]).filter (·.isTransition) = calls.filter (·.isTransition) ++ [call] := by
  simp [transition]

theorem activated_append_of_not (quiet : call.isTransition = false) :
    Activated (calls ++ [call]) ↔ Activated calls := by
  rw [Activated, filter_append_of_not quiet, Activated]

theorem alternates_append_of_not (quiet : call.isTransition = false) :
    Alternates (calls ++ [call]) ↔ Alternates calls := by
  rw [Alternates, filter_append_of_not quiet, Alternates]

theorem activated_append_onActivate : Activated (calls ++ [.onActivate]) := by
  rw [Activated, filter_append_of_transition rfl]
  simp

theorem not_activated_append_onDeactivate : ¬ Activated (calls ++ [.onDeactivate]) := by
  rw [Activated, filter_append_of_transition rfl]
  simp

/-- A transition of the kind that the last one was not. -/
theorem alternates_append (alternates : Alternates calls) (transition : call.isTransition = true)
    (turn : Activated calls ↔ call = .onDeactivate) : Alternates (calls ++ [call]) := by
  obtain ⟨chain, first⟩ := alternates
  unfold Alternates
  rw [filter_append_of_transition transition]
  have isCall : call = .onActivate ∨ call = .onDeactivate := by
    cases call <;> simp_all [Call.isTransition]
  constructor
  · refine List.isChain_append.mpr ⟨chain, .singleton _, ?_⟩
    intro last isLast next isNext same
    obtain rfl : call = next := by simpa using isNext
    subst same
    obtain rfl | rfl := isCall
    · simpa using turn.mp isLast
    · have activated := turn.mpr rfl
      rw [Activated, isLast] at activated
      cases activated
  · intro other isFirst
    cases earlier : calls.filter (·.isTransition) with
    | nil =>
        rw [earlier] at isFirst
        obtain rfl : call = other := by simpa using isFirst
        obtain rfl | rfl := isCall
        · rfl
        · have activated := turn.mpr rfl
          simp [Activated, earlier] at activated
    | cons head tail =>
        refine first other ?_
        rw [earlier] at isFirst ⊢
        simpa using isFirst

theorem noneCompleted_append_onActivate : NoneCompleted (calls ++ [.onActivate]) := by
  intro before msg after shape
  obtain ⟨-, same, -⟩ | ⟨rest, rfl, -⟩ := snoc_eq_append_cons.mp shape
  · cases same
  · simp

theorem noneCompleted_append (none : NoneCompleted calls)
    (other : ∀ msg, call ≠ .modeCompleted msg) : NoneCompleted (calls ++ [call]) := by
  intro before msg after shape
  obtain ⟨-, same, -⟩ | ⟨rest, rfl, place⟩ := snoc_eq_append_cons.mp shape
  · exact absurd same (other msg)
  · exact List.mem_append_left _ (none before msg rest place)

theorem completesOnce_append (once : CompletesOnce calls)
    (other : ∀ msg, call ≠ .modeCompleted msg) : CompletesOnce (calls ++ [call]) := by
  intro before first between second after shape
  rw [← List.cons_append, ← List.append_assoc] at shape
  obtain ⟨-, same, -⟩ | ⟨rest, rfl, place⟩ := snoc_eq_append_cons.mp shape
  · exact absurd same (other second)
  · exact once before first between second rest (by simpa using place)

theorem completesOnce_append_completed (once : CompletesOnce calls) (none : NoneCompleted calls) :
    CompletesOnce (calls ++ [.modeCompleted msg]) := by
  intro before first between second after shape
  rw [← List.cons_append, ← List.append_assoc] at shape
  obtain ⟨same, -, -⟩ | ⟨rest, rfl, place⟩ := snoc_eq_append_cons.mp shape
  · exact none before first between same
  · exact once before first between second rest (by simpa using place)

/-! ### The timer -/

/-- A timer that there is runs at the current rate. -/
def AtRate (mode : ModeBase) : Prop :=
  mode.setpointUpdateTimer = none ∨
    (mode.setpointUpdateTimer = some mode.setpointUpdateRateHz ∧
      ModeBase.fltEpsilon < mode.setpointUpdateRateHz)

theorem Coupled.atRate (coupled : Coupled mode) : AtRate mode := by
  unfold Coupled at coupled
  split at coupled
  · rename_i running
    exact .inr ⟨coupled, running.2⟩
  · exact .inl coupled

/-- The update of the timer couples it, if it was at the current rate or is to be removed. -/
theorem coupled_updateSetpointUpdateTimer (fits : mode.isActive = true → AtRate mode) :
    Coupled mode.updateSetpointUpdateTimer := by
  unfold ModeBase.updateSetpointUpdateTimer
  split
  · rename_i running
    have running : mode.isActive = true ∧ ModeBase.fltEpsilon < mode.setpointUpdateRateHz := by
      simpa using running
    split
    · simp [Coupled, running]
    · rename_i exists_
      cases fits running.1 with
      | inl absent => simp [absent] at exists_
      | inr atRate => simp [Coupled, running, atRate.1]
  · rename_i stopped
    simp_all [Coupled]

theorem coupled_setSetpointUpdateRate : Coupled (mode.setSetpointUpdateRate rateHz) :=
  coupled_updateSetpointUpdateTimer fun _ => .inl rfl

/-- The timer is all that changes. -/
theorem updateSetpointUpdateTimer_eq : ∃ timer,
    mode.updateSetpointUpdateTimer = { mode with setpointUpdateTimer := timer } := by
  unfold ModeBase.updateSetpointUpdateTimer
  split
  · split
    · exact ⟨_, rfl⟩
    · exact ⟨mode.setpointUpdateTimer, rfl⟩
  · exact ⟨_, rfl⟩

/-! ### One step -/

/-- Where the mode is between two quiescent points. -/
inductive Phase : ModeBase → List Call → List Task → Prop where
  | settled {mode : ModeBase} {calls : List Call} {agenda : List Task} : Coupled mode → (Activated calls ↔ mode.isActive = true) →
      (agenda = [] ∨ agenda = [.user] ∨
        (agenda = [.mode (.hook .updateSetpoint)] ∧ mode.isActive = true)) →
      Phase mode calls agenda
  | entering {mode : ModeBase} {calls : List Call} : AtRate mode → ¬ Activated calls → mode.isActive = true →
      mode.isCompleted = false →
      Phase mode calls [.mode (.hook .onActivate), .mode .activated]
  | inside {mode : ModeBase} {calls : List Call} {agenda : List Task} : AtRate mode → Activated calls → mode.isActive = true →
      (agenda = [.user, .mode .activated] ∨ agenda = [.mode .activated] ∨
        agenda = [.mode (.hook .updateSetpoint), .mode .updateSetpointUpdateTimer] ∨
        agenda = [.user, .mode .updateSetpointUpdateTimer] ∨
        agenda = [.mode .updateSetpointUpdateTimer]) →
      Phase mode calls agenda
  | leaving {mode : ModeBase} {calls : List Call} : Activated calls → mode.isActive = false →
      Phase mode calls [.mode (.hook .onDeactivate), .mode .updateSetpointUpdateTimer]
  | outside {mode : ModeBase} {calls : List Call} {agenda : List Task} : ¬ Activated calls → mode.isActive = false →
      (agenda = [.user, .mode .updateSetpointUpdateTimer] ∨
        agenda = [.mode .updateSetpointUpdateTimer]) →
      Phase mode calls agenda

/-- What holds of a mode and of its past. -/
structure Lives (lifeCycle : LifeCycle) (config : Config) : Prop where
  phase : Phase config.state lifeCycle.calls config.agenda
  entitled : Entitled config.state lifeCycle.status
  alternates : Alternates lifeCycle.calls
  once : CompletesOnce lifeCycle.calls
  latched : config.agenda.head? ≠ some (.mode (.hook .onActivate)) →
    config.state.isCompleted = false → NoneCompleted lifeCycle.calls
  updates : ∀ call ∈ lifeCycle.calls, call ≠ .updateSetpoint false

theorem lives_registered (id : ModeID) (activateEvenWhileDisarmed : Bool) :
    Lives {} (registered id activateEvenWhileDisarmed) := by
  constructor
  · exact .settled (by simp [registered, Coupled]) (by simp [registered, Activated]) (.inl rfl)
  · simp [registered, Entitled]
  · simp [Alternates]
  · intro before first between second after shape
    simp at shape
  · intro _ _ before msg after shape
    simp at shape
  · simp

/-- The status as the mode reads it. -/
def entitles (mode : ModeBase) (status : VehicleStatus) : Bool :=
  mode.id == status.navState &&
    (status.armingState == VehicleStatus.armingStateArmed || mode.activateEvenWhileDisarmed)

theorem vehicleStatusUpdated_eq (status : VehicleStatus) (doNotActivate : Bool) :
    mode.vehicleStatusUpdated status doNotActivate =
      (let armed := { mode with
        isArmed := status.armingState == VehicleStatus.armingStateArmed }
      if mode.isActive = entitles mode status then (armed, [])
      else if entitles mode status then
        if doNotActivate then (armed, []) else armed.callOnActivate
      else armed.callOnDeactivate) := by
  have same : (mode.id == status.navState &&
      (status.armingState == VehicleStatus.armingStateArmed || mode.activateEvenWhileDisarmed)) =
    entitles mode status := rfl
  unfold ModeBase.vehicleStatusUpdated
  dsimp only
  rw [same]
  cases active : mode.isActive <;> cases entitles mode status <;> cases doNotActivate <;> simp

theorem entitled_of_entitles {status : VehicleStatus} {next : ModeBase} (sameId : next.id = mode.id)
    (sameSetting : next.activateEvenWhileDisarmed = mode.activateEvenWhileDisarmed)
    (entitled : next.isActive = true → entitles mode status = true) :
    Entitled next (some status) := by
  intro active
  have entitled := entitled active
  simp only [entitles, Bool.and_eq_true, Bool.or_eq_true, beq_iff_eq] at entitled
  exact ⟨status, rfl, by rw [sameId, entitled.1], by rw [sameSetting]; exact entitled.2⟩

/-- Vehicle status is processed between operations. -/
theorem vehicleStatus_lives {lifeCycle : LifeCycle} (lives : Lives lifeCycle ⟨mode, []⟩)
    (status : VehicleStatus) (doNotActivate : Bool) :
    Lives { lifeCycle with status := some status }
      ⟨(mode.vehicleStatusUpdated status doNotActivate).1,
        (mode.vehicleStatusUpdated status doNotActivate).2.map .mode⟩ := by
  obtain ⟨phase, -, alternates, once, latched, updates⟩ := lives
  rw [vehicleStatusUpdated_eq]
  cases phase with
  | settled coupled turn _ =>
      have latched := latched (by simp)
      simp only at turn coupled latched
      dsimp only
      split
      · rename_i same
        refine ⟨.settled coupled turn (.inl rfl), ?_, alternates, once, fun _ => latched, updates⟩
        exact entitled_of_entitles rfl rfl fun active => same ▸ active
      · rename_i changed
        split
        · rename_i entitled
          have inactive : mode.isActive = false := by simpa [entitled] using changed
          split
          · refine ⟨.settled coupled turn (.inl rfl), ?_, alternates, once, fun _ => latched,
              updates⟩
            exact entitled_of_entitles rfl rfl fun _ => entitled
          · refine ⟨.entering coupled.atRate ?_ rfl rfl, ?_, alternates, once, ?_, updates⟩
            · simp [turn, inactive]
            · exact entitled_of_entitles rfl rfl fun _ => entitled
            · intro notEntering
              simp [ModeBase.callOnActivate] at notEntering
        · rename_i notEntitled
          have active : mode.isActive = true := by simpa [notEntitled] using changed
          refine ⟨.leaving (turn.mpr active) rfl, ?_, alternates, once, fun _ => latched, updates⟩
          exact entitled_of_entitles rfl rfl nofun
  | inside _ _ _ shape => simp at shape
  | outside _ _ shape => simp at shape

theorem Phase.of_user {rest : List Task} {next : ModeBase} {calls' : List Call}
    (phase : Phase mode calls (.user :: rest)) (sameActive : next.isActive = mode.isActive)
    (sameTurn : Activated calls' ↔ Activated calls) (coupled : Coupled mode → Coupled next)
    (atRate : AtRate mode → AtRate next) : Phase next calls' (.user :: rest) := by
  cases phase with
  | settled isCoupled turn shape =>
      exact .settled (coupled isCoupled) (by rw [sameTurn, sameActive]; exact turn) (by simp_all)
  | inside isAtRate activated active shape =>
      exact .inside (atRate isAtRate) (sameTurn.mpr activated) (sameActive.trans active) shape
  | outside notActivated inactive shape =>
      exact .outside (sameTurn.not.mpr notActivated) (sameActive.trans inactive) shape

theorem Phase.ret {rest : List Task} (phase : Phase mode calls (.user :: rest)) :
    Phase mode calls rest := by
  cases phase with
  | settled coupled turn shape => exact .settled coupled turn (by simp_all)
  | inside atRate activated active shape => exact .inside atRate activated active (by grind)
  | outside notActivated inactive shape => exact .outside notActivated inactive (by simp_all)

theorem setSetpointUpdateRate_lives {lifeCycle : LifeCycle} {rest : List Task}
    (lives : Lives lifeCycle ⟨mode, .user :: rest⟩) (rateHz : Rat) :
    Lives lifeCycle ⟨mode.setSetpointUpdateRate rateHz, .user :: rest⟩ := by
  obtain ⟨phase, entitled, alternates, once, latched, updates⟩ := lives
  have coupled : Coupled (mode.setSetpointUpdateRate rateHz) := coupled_setSetpointUpdateRate
  obtain ⟨timer, same⟩ : ∃ timer, mode.setSetpointUpdateRate rateHz =
      { mode with setpointUpdateTimer := timer, setpointUpdateRateHz := rateHz } :=
    updateSetpointUpdateTimer_eq
  rw [same] at coupled ⊢
  exact ⟨phase.of_user rfl Iff.rfl (fun _ => coupled) (fun _ => coupled.atRate), entitled,
    alternates, once, latched, updates⟩

theorem completed_lives {lifeCycle : LifeCycle} {rest : List Task}
    (lives : Lives lifeCycle ⟨mode, .user :: rest⟩) (result : Result) :
    Lives { lifeCycle with
        calls := lifeCycle.calls ++ ((mode.completed result).2.map Call.modeCompleted).toList }
      ⟨(mode.completed result).1, .user :: rest⟩ := by
  obtain ⟨phase, entitled, alternates, once, latched, updates⟩ := lives
  unfold ModeBase.completed
  split
  · simpa using Lives.mk phase entitled alternates once latched updates
  · rename_i notCompleted
    have none := latched (by simp) (by simpa using notCompleted)
    constructor
    · exact phase.of_user rfl (activated_append_of_not rfl) id id
    · exact entitled
    · exact (alternates_append_of_not rfl).mpr alternates
    · exact completesOnce_append_completed once none
    · intro _ incomplete
      cases incomplete
    · intro call member
      simp only [Option.map_some, Option.toList_some, List.mem_append,
        List.mem_singleton] at member
      cases member with
      | inl old => exact updates call old
      | inr new => simp [new]

theorem ret_lives {lifeCycle : LifeCycle} {rest : List Task}
    (lives : Lives lifeCycle ⟨mode, .user :: rest⟩) : Lives lifeCycle ⟨mode, rest⟩ := by
  obtain ⟨phase, entitled, alternates, once, latched, updates⟩ := lives
  exact ⟨phase.ret, entitled, alternates, once, fun _ => latched (by simp), updates⟩

/-- A hook is called. -/
theorem hook_lives {lifeCycle : LifeCycle} {hook : ModeBase.Hook} {rest : List Task}
    (lives : Lives lifeCycle ⟨mode, .mode (.hook hook) :: rest⟩) :
    Lives { lifeCycle with calls := lifeCycle.calls ++ [callOf mode hook] }
      ⟨mode, .user :: rest⟩ := by
  obtain ⟨phase, entitled, alternates, once, latched, updates⟩ := lives
  have noMessage : ∀ msg, callOf mode hook ≠ .modeCompleted msg := by
    cases hook <;> simp [callOf]
  have updatesNext : callOf mode hook ≠ .updateSetpoint false →
      ∀ call ∈ lifeCycle.calls ++ [callOf mode hook], call ≠ .updateSetpoint false := by
    intro newOk call member
    cases List.mem_append.mp member with
    | inl old => exact updates call old
    | inr new => exact List.mem_singleton.mp new ▸ newOk
  have onceNext := completesOnce_append once noMessage
  cases phase with
  | settled coupled turn shape =>
      obtain ⟨rfl, rfl⟩ : hook = .updateSetpoint ∧ rest = [] := by simp_all
      have active : mode.isActive = true := by simp_all
      refine ⟨?_, entitled, ?_, onceNext, ?_, updatesNext (by simp [callOf, active])⟩
      · exact .settled coupled (by rw [callOf, activated_append_of_not rfl]; exact turn) (by simp)
      · exact (alternates_append_of_not rfl).mpr alternates
      · intro _ incomplete
        exact noneCompleted_append (latched (by simp) incomplete) noMessage
  | entering atRate notActivated active incomplete =>
      refine ⟨?_, entitled, ?_, onceNext, ?_, updatesNext (by simp [callOf])⟩
      · exact .inside atRate activated_append_onActivate active (.inl rfl)
      · exact alternates_append alternates rfl (by simp [notActivated, callOf])
      · exact fun _ _ => noneCompleted_append_onActivate
  | inside atRate activated active shape =>
      obtain ⟨rfl, rfl⟩ : hook = .updateSetpoint ∧ rest = [.mode .updateSetpointUpdateTimer] := by
        simp_all
      have active : mode.isActive = true := active
      refine ⟨?_, entitled, ?_, onceNext, ?_, updatesNext (by simp [callOf, active])⟩
      · exact .inside atRate ((activated_append_of_not rfl).mpr activated) active
          (.inr (.inr (.inr (.inl rfl))))
      · exact (alternates_append_of_not rfl).mpr alternates
      · intro _ incomplete
        exact noneCompleted_append (latched (by simp) incomplete) noMessage
  | leaving activated inactive =>
      refine ⟨?_, entitled, ?_, onceNext, ?_, updatesNext (by simp [callOf])⟩
      · exact .outside not_activated_append_onDeactivate inactive (.inl rfl)
      · exact alternates_append alternates rfl (by simp [activated, callOf])
      · intro _ incomplete
        exact noneCompleted_append (latched (by simp) incomplete) noMessage
  | outside notActivated inactive shape => simp at shape

/-- The base class goes on after a hook. -/
theorem resume_lives {lifeCycle : LifeCycle} {task : ModeBase.Task} {rest : List Task}
    (lives : Lives lifeCycle ⟨mode, .mode task :: rest⟩) (noHook : ∀ hook, task ≠ .hook hook) :
    Lives lifeCycle ⟨(mode.resume task).1, (mode.resume task).2.map .mode ++ rest⟩ := by
  obtain ⟨phase, entitled, alternates, once, latched, updates⟩ := lives
  have notEntering : (Task.mode task) ≠ .mode (.hook .onActivate) := by
    intro same
    exact noHook .onActivate (Task.mode.inj same)
  have latched := latched (by simpa using notEntering)
  cases task with
  | hook hook => exact absurd rfl (noHook hook)
  | activated =>
      cases phase with
      | settled _ _ shape => simp at shape
      | inside atRate activated active shape =>
          obtain rfl : rest = [] := by simp_all
          simp only [ModeBase.resume]
          split
          · exact ⟨.inside atRate activated active (.inr (.inr (.inl rfl))), entitled, alternates,
              once, fun _ => latched, updates⟩
          · exact ⟨.inside atRate activated active (.inr (.inr (.inr (.inr rfl)))), entitled,
              alternates, once, fun _ => latched, updates⟩
      | outside _ _ shape => simp at shape
  | updateSetpointUpdateTimer =>
      obtain ⟨timer, same⟩ := @updateSetpointUpdateTimer_eq mode
      cases phase with
      | settled _ _ shape => simp at shape
      | inside atRate activated active shape =>
          obtain rfl : rest = [] := by simp_all
          have active : mode.isActive = true := active
          have coupled : Coupled mode.updateSetpointUpdateTimer :=
            coupled_updateSetpointUpdateTimer fun _ => atRate
          simp only [ModeBase.resume]
          rw [same] at coupled ⊢
          exact ⟨.settled coupled (by simp [activated, active]) (.inl rfl), entitled, alternates,
            once, fun _ => latched, updates⟩
      | outside notActivated inactive shape =>
          obtain rfl : rest = [] := by simp_all
          have inactive : mode.isActive = false := inactive
          have coupled : Coupled mode.updateSetpointUpdateTimer :=
            coupled_updateSetpointUpdateTimer fun active => by simp [inactive] at active
          simp only [ModeBase.resume]
          rw [same] at coupled ⊢
          exact ⟨.settled coupled (by simp [notActivated, inactive]) (.inl rfl), entitled,
            alternates, once, fun _ => latched, updates⟩

/-! ### Runs -/

/-- What one step preserves. -/
theorem lives_step {lifeCycle : LifeCycle} {config next : Config} {input : Input}
    (lives : Lives lifeCycle config) (stepped : machine.step config input = some next) :
    Lives (lifeCycleRecorder.record lifeCycle config input) next := by
  rcases config with ⟨mode, agenda⟩
  rcases Machine.step_cases stepped with
    ⟨quiescent, after, tasks, taken, rfl⟩ | ⟨task, rest, after, tasks, shape, executed, rfl⟩
  · obtain rfl : agenda = [] := quiescent
    cases input with
    | vehicleStatus msg doNotActivate =>
        cases taken
        exact vehicleStatus_lives lives msg doNotActivate
    | setpointUpdateTimer =>
        obtain ⟨phase, entitled, alternates, once, latched, updates⟩ := lives
        simp only [machine, idle] at taken
        split at taken
        · rename_i running
          cases taken
          cases phase with
          | settled coupled turn _ =>
              have active : mode.isActive = true := by
                by_contra inactive
                have noTimer : mode.setpointUpdateTimer = none :=
                  Eq.trans coupled (if_neg fun both => inactive both.1)
                simp [noTimer] at running
              exact ⟨.settled coupled turn (by simp [active]), entitled, alternates, once,
                fun _ => latched (by simp), updates⟩
          | inside _ _ _ shape => simp at shape
          | outside _ _ shape => simp at shape
        · cases taken
    | userEvent =>
        cases taken
        obtain ⟨phase, entitled, alternates, once, latched, updates⟩ := lives
        cases phase with
        | settled coupled turn _ =>
            exact ⟨.settled coupled turn (by simp), entitled, alternates, once,
              fun _ => latched (by simp), updates⟩
        | inside _ _ _ shape => simp at shape
        | outside _ _ shape => simp at shape
    | proceed | setSetpointUpdateRate | completed | ret => cases taken
  · obtain rfl : agenda = task :: rest := shape
    cases task with
    | user =>
        cases input with
        | setSetpointUpdateRate rateHz =>
            cases executed
            exact setSetpointUpdateRate_lives lives rateHz
        | completed result =>
            cases executed
            exact completed_lives lives result
        | ret =>
            cases executed
            exact ret_lives lives
        | vehicleStatus | setpointUpdateTimer | userEvent | proceed => cases executed
    | mode task =>
        cases input with
        | proceed =>
            cases task with
            | hook hook =>
                cases executed
                exact hook_lives lives
            | activated =>
                cases executed
                exact resume_lives lives nofun
            | updateSetpointUpdateTimer =>
                cases executed
                exact resume_lives lives nofun
        | vehicleStatus | setpointUpdateTimer | userEvent | setSetpointUpdateRate | completed
        | ret => cases task <;> cases executed

/-- A mode after a run, with its past. -/
def Runs (id : ModeID) (activateEvenWhileDisarmed : Bool)
    (config : Lib.Config (Recorded ModeBase LifeCycle) Task) : Prop :=
  (machine.recorded lifeCycleRecorder).Reaches
    (fun config => Machine.unrestricted config.forget)
    ⟨⟨(registered id activateEvenWhileDisarmed).state, {}⟩, []⟩ config

theorem Runs.lives {id : ModeID} {activateEvenWhileDisarmed : Bool}
    {config : Lib.Config (Recorded ModeBase LifeCycle) Task}
    (runs : Runs id activateEvenWhileDisarmed config) :
    Lives config.state.history config.forget :=
  Machine.Reaches.recorded_invariant (lives_registered id activateEvenWhileDisarmed)
    (fun _ _ _ _ lives _ stepped => lives_step lives stepped) runs

/-- The rate is set in `onActivate` and changed in the first update, which also completes the mode
twice; then the timer fires, and the vehicle disarms. -/
def activation : List Input :=
  [.vehicleStatus ⟨2, 23, 0, false, 0, true⟩ false, .proceed, .setSetpointUpdateRate 30, .ret,
    .proceed, .proceed, .setSetpointUpdateRate 50, .completed .success, .completed .deactivated,
    .ret, .proceed, .setpointUpdateTimer, .proceed, .ret,
    .vehicleStatus ⟨1, 23, 0, false, 0, true⟩ false, .proceed, .completed .deactivated, .ret,
    .proceed]

end Px4Ros2.ModeProcess
