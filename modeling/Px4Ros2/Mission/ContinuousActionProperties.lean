import Px4Ros2.Mission.MissionEffects

/-! Stored action states and the keepers that release them. -/

set_option autoImplicit false

namespace Px4Ros2.MissionExecutor

/-- The entry under the id came from the persistence file, no keeper was made with it. -/
def ReadFromFile (executor : MissionExecutor) (id : ActionID) : Prop :=
  ∃ action, executor.state.continuousActions.find? id = some action ∧ action.keeper = none

/-- Releasing the keeper takes away no entry but the one it was made with. -/
def ReleasesOwn (executor : MissionExecutor) (keeper : ActionID) : Prop :=
  ∀ entry ∈ executor.state.continuousActions.entries,
    entry ∈ (executor.removeContinousAction keeper).state.continuousActions.entries ∨
      entry.2.keeper = some keeper

/-- Keepers have the id of the entry they were made with, and ids are counted up. -/
structure KeepersSound (executor : MissionExecutor) : Prop where
  stored : ∀ entry ∈ executor.state.continuousActions.entries, ∀ keeper ∈ entry.2.keeper,
    keeper = entry.1 ∧ keeper < executor.nextContinuousActionId
  users : ∀ keeper ∈ executor.userKeepers, keeper < executor.nextContinuousActionId
  changeSettings : ∀ keeper ∈ executor.changeSettingsState,
    keeper < executor.nextContinuousActionId

variable {config : Configuration} {executor : MissionExecutor}

theorem actionsFromJson_keeper {id : ActionID} {actions after : Lib.OrderedMap ActionID ActionState}
    {elements : List Json} (before : ∀ entry ∈ actions.entries, entry.2.keeper = none)
    (read : PersistentState.actionsFromJson id actions elements = some after) :
    ∀ entry ∈ after.entries, entry.2.keeper = none := by
  induction elements generalizing id actions with
  | nil =>
      cases read
      exact before
  | cons json rest ih =>
      obtain ⟨action, decoded, read⟩ := Option.bind_eq_some_iff.mp read
      refine ih ?_ read
      intro entry member
      rcases Lib.Entries.mem_insert member with rfl | old
      · simp only [PersistentState.actionFromJson, Option.bind_eq_bind,
          Option.bind_eq_some_iff, Option.some.injEq] at decoded
        obtain ⟨_, _, name, _, arguments, _, rfl⟩ := decoded
        rfl
      · exact before entry old

theorem fromJson_continuousActions {json : Json} {state : PersistentState}
    (read : PersistentState.fromJson json = some state) :
    PersistentState.continuousActionsFromJson json = some state.continuousActions := by
  unfold PersistentState.fromJson at read
  obtain ⟨_, _, read⟩ := Option.bind_eq_some_iff.mp read
  obtain ⟨version, _, read⟩ := Option.bind_eq_some_iff.mp read
  split at read
  · cases read
  · obtain ⟨currentIndex, _, read⟩ := Option.bind_eq_some_iff.mp read
    obtain ⟨actions, actionsRead, read⟩ := Option.bind_eq_some_iff.mp read
    obtain ⟨_, _, read⟩ := Option.bind_eq_some_iff.mp read
    obtain ⟨checksum, _, read⟩ := Option.bind_eq_some_iff.mp read
    cases read
    exact actionsRead

theorem fromJson_keeper {json : Json} {state : PersistentState}
    (read : PersistentState.fromJson json = some state) :
    ∀ entry ∈ state.continuousActions.entries, entry.2.keeper = none := by
  have actionsRead := fromJson_continuousActions read
  unfold PersistentState.continuousActionsFromJson at actionsRead
  split at actionsRead
  · obtain ⟨actions, _, actionsRead⟩ := Option.bind_eq_some_iff.mp actionsRead
    exact actionsFromJson_keeper (by simp) actionsRead
  · rw [← Option.some.inj actionsRead]
    simp

theorem tryLoad_keeper {hash : Json → Nat} {mission : Mission} {file : PersistenceFile}
    {state : PersistentState} (loaded : PersistentState.tryLoad hash mission file = some state) :
    ∀ entry ∈ state.continuousActions.entries, entry.2.keeper = none := by
  unfold PersistentState.tryLoad at loaded
  split at loaded
  · cases loaded
  · cases loaded
  · split at loaded
    · cases loaded
    · rename_i read
      split at loaded
      · split at loaded
        · cases loaded
          exact fromJson_keeper read
        · cases loaded
      · cases loaded

theorem KeepersSound.of_fewer {before after : MissionExecutor} (sound : before.KeepersSound)
    (actions : ∀ entry ∈ after.state.continuousActions.entries,
      entry ∈ before.state.continuousActions.entries ∨ entry.2.keeper = none)
    (counter : after.nextContinuousActionId = before.nextContinuousActionId)
    (users : ∀ keeper ∈ after.userKeepers, keeper ∈ before.userKeepers)
    (changeSettings : ∀ keeper ∈ after.changeSettingsState,
      keeper ∈ before.changeSettingsState) : after.KeepersSound := by
  constructor
  · intro entry member keeper kept
    rw [counter]
    rcases actions entry member with old | none
    · exact sound.stored entry old keeper kept
    · rw [none] at kept
      cases kept
  · intro keeper member
    rw [counter]
    exact sound.users keeper (users keeper member)
  · intro keeper member
    rw [counter]
    exact sound.changeSettings keeper (changeSettings keeper member)

/-- A new entry gets an id above those of all keepers. -/
theorem KeepersSound.addContinousAction (sound : executor.KeepersSound) (name : String)
    (arguments : ActionArguments) :
    (executor.addContinousAction name arguments).1.KeepersSound := by
  constructor
  · intro entry member keeper kept
    rcases Lib.Entries.mem_insert member with rfl | old
    · cases kept
      exact ⟨rfl, Nat.lt_succ_self _⟩
    · obtain ⟨same, issued⟩ := sound.stored entry old keeper kept
      exact ⟨same, Nat.lt_succ_of_lt issued⟩
  · exact fun keeper member => Nat.lt_succ_of_lt (sound.users keeper member)
  · exact fun keeper member => Nat.lt_succ_of_lt (sound.changeSettings keeper member)

theorem Effect.keepersSound {before after : MissionExecutor}
    (effect : Effect config before after) (sound : before.KeepersSound) :
    after.KeepersSound := by
  cases effect with
  | plain same =>
      refine sound.of_fewer ?_ same.nextContinuousActionId ?_ ?_
      · exact fun entry member => .inl (same.state ▸ member)
      · exact fun keeper member => same.userKeepers ▸ member
      · exact fun keeper member => same.changeSettingsState ▸ member
  | setIndex | invalidate | setActive | learnHandler | setRunCalls =>
      exact sound.of_fewer (fun _ member => .inl member) rfl (fun _ member => member)
        (fun _ member => member)
  | resetMissionState | dropActions =>
      exact sound.of_fewer (by simp [MissionExecutor.resetMissionState, setState]) rfl
        (fun _ member => member) (fun _ member => member)
  | dropAction id =>
      exact sound.of_fewer (fun _ member => .inl (Lib.Entries.mem_erase.mp member).1) rfl
        (fun _ member => member) (fun _ member => member)
  | userStore name arguments =>
      have added := sound.addContinousAction name arguments
      refine ⟨added.stored, ?_, added.changeSettings⟩
      intro keeper member
      rcases List.mem_cons.mp member with rfl | old
      · exact Nat.lt_succ_self _
      · exact added.users keeper old
  | dropUserKeeper id =>
      exact sound.of_fewer (fun _ member => .inl member) rfl
        (fun _ member => List.mem_of_mem_erase member) (fun _ member => member)
  | releaseKeeper id =>
      obtain same | ⟨_, same⟩ := before.removeContinousAction_cases id
      · rw [same]
        exact sound
      · rw [same]
        exact sound.of_fewer (fun _ member => .inl (Lib.Entries.mem_erase.mp member).1) rfl
          (fun _ member => member) (fun _ member => member)
  | storeSettings json =>
      have added := sound.addContinousAction "changeSettings" ⟨json⟩
      refine ⟨added.stored, added.users, ?_⟩
      intro keeper member
      cases member
      exact Nat.lt_succ_self _
  | dropSettings =>
      exact sound.of_fewer (fun _ member => .inl member) rfl (fun _ member => member)
        (fun _ member => by cases member)
  | clearPersistentState =>
      unfold MissionExecutor.clearPersistentState
      split <;> exact ⟨sound.stored, sound.users, sound.changeSettings⟩
  | savePersistentState =>
      unfold MissionExecutor.savePersistentState MissionExecutor.clearPersistentState
      repeat' split
      all_goals exact ⟨sound.stored, sound.users, sound.changeSettings⟩
  | setMission canRun mission =>
      obtain same | ⟨_, taken, same, ⟨state, loaded, set⟩ | ⟨_, set⟩⟩ :=
        @setMission_cases config before canRun mission
      · rw [same]
        exact sound
      · rw [set]
        refine sound.of_fewer (fun entry member => .inr ?_) same.nextContinuousActionId ?_ ?_
        · unfold tryLoadPersistentState at loaded
          split at loaded
          · exact tryLoad_keeper loaded entry member
          · cases loaded
        · exact fun keeper member => same.userKeepers ▸ member
        · exact fun keeper member => same.changeSettingsState ▸ member
      · rw [set]
        refine sound.of_fewer (by simp [MissionExecutor.resetMissionState, setState])
          same.nextContinuousActionId ?_ ?_
        · exact fun keeper member => same.userKeepers ▸ member
        · exact fun keeper member => same.changeSettingsState ▸ member
  | resetMission =>
      unfold MissionExecutor.resetMission
      split
      · exact sound
      · exact sound.of_fewer (by simp [MissionExecutor.resetMissionState, setState]) rfl
          (fun _ member => member) (fun _ member => member)

variable {registered : Bool} {id : UInt8} {ownedMode : ModeBase} {file : PersistenceFile}
  {guard : Config → Input → Prop}

theorem reaches_keepersSound {reached : Config}
    (reaches : (machine config).Reaches guard (initial registered id ownedMode file) reached) :
    reached.state.KeepersSound := by
  refine reaches_effects ?_ (fun _ _ effect sound => effect.keepersSound sound) reaches
  constructor <;> simp [initial]

/-- Among the entries that keepers were made with, the next id is always free. -/
theorem KeepersSound.next_free_iff (sound : executor.KeepersSound) :
    executor.state.continuousActions.find? executor.nextContinuousActionId = none ↔
      ¬ executor.ReadFromFile executor.nextContinuousActionId := by
  constructor
  · rintro free ⟨action, found, _⟩
    rw [free] at found
    cases found
  · intro unread
    cases found : executor.state.continuousActions.find? executor.nextContinuousActionId with
    | none => rfl
    | some action =>
        exfalso
        cases keeper : action.keeper with
        | none => exact unread ⟨action, found, keeper⟩
        | some keeper' =>
            have issued := sound.stored _ (Lib.Entries.mem_of_find? found) keeper' keeper
            exact absurd (issued.1 ▸ issued.2) (Nat.lt_irrefl _)

theorem KeepersSound.releasesOwn_iff (sound : executor.KeepersSound) (keeper : ActionID) :
    executor.ReleasesOwn keeper ↔
      ¬ (executor.isActive = true ∧ executor.ReadFromFile keeper) := by
  constructor
  · rintro own ⟨active, action, found, unkept⟩
    rcases own (keeper, action) (Lib.Entries.mem_of_find? found) with remains | kept
    · have removed : executor.removeContinousAction keeper = executor.setState
          { executor.state with
            continuousActions := executor.state.continuousActions.erase keeper } := by
        simp [removeContinousAction, active, found]
      rw [removed] at remains
      exact (Lib.Entries.mem_erase.mp remains).2 rfl
    · rw [unkept] at kept
      cases kept
  · intro harmless entry member
    obtain same | ⟨active, same⟩ := executor.removeContinousAction_cases keeper
    · rw [same]
      exact .inl member
    · rw [same]
      by_cases other : entry.1 = keeper
      · right
        cases kept : entry.2.keeper with
        | none =>
            refine absurd ⟨active, entry.2, ?_, kept⟩ harmless
            rw [← other]
            exact Lib.Entries.find?_of_mem executor.state.continuousActions.sorted member
        | some keeper' => rw [(sound.stored entry member keeper' kept).1, other]
      · exact .inl (Lib.Entries.mem_erase.mpr ⟨member, other⟩)

/-- In every reachable state the next id is free, and a release takes away nothing but the entry of
its keeper, as far as no entry that was read from the file is in the way. -/
theorem stored_actions_kept {reached : Config}
    (reaches : (machine config).Reaches Lib.Machine.unrestricted
      (initial registered id ownedMode file) reached) :
    (reached.state.state.continuousActions.find? reached.state.nextContinuousActionId = none ↔
      ¬ reached.state.ReadFromFile reached.state.nextContinuousActionId) ∧
    ∀ keeper, reached.state.ReleasesOwn keeper ↔
      ¬ (reached.state.isActive = true ∧ reached.state.ReadFromFile keeper) :=
  ⟨(reaches_keepersSound reaches).next_free_iff, (reaches_keepersSound reaches).releasesOwn_iff⟩

/-- A camera that runs in the background, and a custom action for resuming. -/
def cameraConfiguration : Configuration :=
  { customActions := [("camera", .custom (fun _ => false) false),
      ("onResume", .custom (fun _ => false) false)]
    persistence := true
    hash := fun _ => 0 }

def cameraMission : Mission :=
  { items := [.action { name := "camera" }, .action { name := "camera" }] }

def cameraMode : ModeBase := { id := 23, activateEvenWhileDisarmed := false }

/-- What an earlier process saved at the second item, with the state of the camera. -/
def cameraFile : PersistenceFile :=
  .json (.object [("actions", .array [.object [("arguments", .null), ("name", .string "camera")]]),
    ("checksum", .string "0"), ("currentIndex", .integer 1), ("version", .integer 1)])

/-- The mission is set and activated; control is in the `run` of the onResume action. -/
def resumeMission : List Input :=
  [.userEvent, .op (.setMission cameraMission fun _ => none), .ret, armedStatus 23 1] ++
  proceeds 5

def storeOnResume : Input :=
  .op (.handler .parameter (.storeState "onResume" {}))

theorem stored_actions_kept_on_resume :
    ∃ reached : Config, reached.state.userKeepers = [0] ∧
      (reached.state.state.continuousActions.find? reached.state.nextContinuousActionId = none ↔
        ¬ reached.state.ReadFromFile reached.state.nextContinuousActionId) ∧
      ∀ keeper, reached.state.ReleasesOwn keeper ↔
        ¬ (reached.state.isActive = true ∧ reached.state.ReadFromFile keeper) := by
  obtain ⟨reached, reaches, keepers⟩ :=
    Lib.Machine.reaches_of_run_any (machine cameraConfiguration) Lib.Machine.unrestricted
      (initial true 1 cameraMode cameraFile) (fun config => config.state.userKeepers = [0])
      (resumeMission ++ [storeOnResume]) (by decide)
  exact ⟨reached, keepers, stored_actions_kept reaches⟩

/-- The state that the onResume action stores replaces the one of the camera. -/
theorem stored_action_overwritten :
    ∃ before after : Config,
      (machine cameraConfiguration).Reaches Lib.Machine.unrestricted
        (initial true 1 cameraMode cameraFile) before ∧
      (machine cameraConfiguration).step before storeOnResume = some after ∧
      before.state.nextContinuousActionId = 0 ∧
      (before.state.state.continuousActions.find? 0).map ActionState.name = some "camera" ∧
      (after.state.state.continuousActions.find? 0).map ActionState.name = some "onResume" := by
  obtain ⟨before, reaches, next, camera, stored⟩ :=
    Lib.Machine.reaches_of_run_any (machine cameraConfiguration) Lib.Machine.unrestricted
      (initial true 1 cameraMode cameraFile)
      (fun config => config.state.nextContinuousActionId = 0 ∧
        (config.state.state.continuousActions.find? 0).map ActionState.name = some "camera" ∧
        ((machine cameraConfiguration).step config storeOnResume).any (fun next =>
          (next.state.state.continuousActions.find? 0).map ActionState.name =
            some "onResume") = true)
      resumeMission (by decide)
  obtain ⟨after, stepped, stored⟩ := (Option.any_eq_true _ _).mp stored
  exact ⟨before, after, reaches, stepped, next, camera, by simpa using stored⟩

end Px4Ros2.MissionExecutor
