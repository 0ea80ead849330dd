import Px4Ros2.Mission.StoppedMission
import Mathlib.Data.List.Enum

/-! The persistence file: what is saved is what a restarted process reads. -/

set_option autoImplicit false

namespace Px4Ros2

/-- What `fromJson` makes of the stored actions: the same ones, with new numbers and without their
keepers. -/
def renumbered (first : ActionID) (actions : List ActionState) : List (ActionID × ActionState) :=
  (actions.zipIdx first).map fun entry => (entry.2, { entry.1 with keeper := none })

namespace PersistentState

theorem actionFromJson_actionToJson (action : ActionState) :
    actionFromJson (actionToJson action) = some { action with keeper := none } := by
  simp [actionFromJson, actionToJson, Json.at?, Lib.Entries.find?, Json.getString]

theorem actionsFromJson_map (actions : List ActionState) {first : ActionID}
    {before : Lib.OrderedMap ActionID ActionState}
    (below : ∀ entry ∈ before.entries, entry.1 < first) :
    ∃ after, actionsFromJson first before (actions.map actionToJson) = some after ∧
      after.entries = before.entries ++ renumbered first actions := by
  induction actions generalizing first before with
  | nil => exact ⟨before, rfl, by simp [renumbered]⟩
  | cons action rest ih =>
      have inserted : (before.insert first { action with keeper := none }).entries =
          before.entries ++ [(first, { action with keeper := none })] :=
        Lib.Entries.insert_of_above below
      have below' : ∀ entry ∈ (before.insert first { action with keeper := none }).entries,
          entry.1 < first + 1 := by
        intro entry member
        rw [inserted] at member
        rcases List.mem_append.mp member with old | new
        · exact Nat.lt_succ_of_lt (below entry old)
        · rw [List.mem_singleton.mp new]
          exact Nat.lt_succ_self _
      obtain ⟨after, read, entries⟩ := ih below'
      refine ⟨after, ?_, ?_⟩
      · simp only [List.map_cons, actionsFromJson, actionFromJson_actionToJson,
          Option.bind_eq_bind, Option.bind_some]
        exact read
      · rw [entries, inserted]
        simp [renumbered]

theorem at?_toJson (state : PersistentState) (key : String) :
    state.toJson.at? key =
      if key = "checksum" then some (.string state.missionChecksum)
      else if key = "actions" then
        some (.array (state.continuousActions.values.map actionToJson))
      else if key = "currentIndex" ∧ state.currentIndex.isSome then
        state.currentIndex.map Json.integer
      else if key = "version" then some (.integer 1)
      else none := by
  simp only [toJson, Json.at?, Lib.Entries.find?_insert]
  cases state.currentIndex with
  | none => simp [Lib.Entries.find?]
  | some index => simp [Lib.Entries.find?]

theorem contains_eq_at? (json : Json) (key : String) :
    json.contains key = (json.at? key).isSome := by
  cases json <;> rfl

theorem toInt32_of_fits {value : Int} (fits : -2 ^ 31 ≤ value ∧ value < 2 ^ 31) :
    Json.toInt32 value = value :=
  Int.bmod_eq_of_le (by omega) (by omega)

/-- The codec keeps everything but the numbers of the stored actions. -/
theorem fromJson_toJson (state : PersistentState)
    (fits : ∀ index ∈ state.currentIndex, -2 ^ 31 ≤ index ∧ index < 2 ^ 31) :
    ∃ read, fromJson state.toJson = some read ∧ read.currentIndex = state.currentIndex ∧
      read.missionChecksum = state.missionChecksum ∧
      read.continuousActions.entries = renumbered 0 state.continuousActions.values := by
  obtain ⟨actions, actionsRead, entries⟩ :=
    @actionsFromJson_map state.continuousActions.values 0 .empty (by simp)
  have versionRead : (state.toJson.at? "version").bind Json.getInt = some 1 := by
    simp [at?_toJson, Json.getInt, toInt32_of_fits]
  have indexRead : indexFromJson state.toJson = some state.currentIndex := by
    simp only [indexFromJson, contains_eq_at?, at?_toJson]
    cases index : state.currentIndex with
    | none => simp
    | some index' =>
        simp [Json.getInt, toInt32_of_fits (fits index' index)]
  have continuousActionsRead : continuousActionsFromJson state.toJson = some actions := by
    simpa [continuousActionsFromJson, contains_eq_at?, at?_toJson, Json.elements] using actionsRead
  refine ⟨⟨state.currentIndex, state.missionChecksum, actions⟩, ?_, rfl, rfl,
    by simpa using entries⟩
  have checksumRead : (state.toJson.at? "checksum").bind Json.getString =
      some state.missionChecksum := by
    simp [at?_toJson, Json.getString]
  obtain ⟨version, versionFound, versionRead⟩ := Option.bind_eq_some_iff.mp versionRead
  obtain ⟨checksum, checksumFound, checksumRead⟩ := Option.bind_eq_some_iff.mp checksumRead
  simp [fromJson, versionFound, versionRead, indexRead, continuousActionsRead, checksumFound,
    checksumRead]

end PersistentState

namespace MissionExecutor

variable {config : Configuration} {executor : MissionExecutor}

/-- The stored checksum is the one of the mission, as soon as there is a mission. -/
def ChecksumKept (config : Configuration) (executor : MissionExecutor) : Prop :=
  executor.mission.items ≠ [] →
    executor.state.missionChecksum = executor.mission.checksum config.hash

theorem tryLoad_accepted {hash : Json → Nat} {mission : Mission} {file : PersistenceFile}
    {state : PersistentState} (loaded : PersistentState.tryLoad hash mission file = some state) :
    ∃ content index, file = .json content ∧ PersistentState.fromJson content = some state ∧
      state.currentIndex = some index ∧ state.missionChecksum = mission.checksum hash ∧
      mission.indexValid index = true := by
  unfold PersistentState.tryLoad at loaded
  split at loaded
  · cases loaded
  · cases loaded
  · rename_i content
    split at loaded
    · cases loaded
    · rename_i read
      split at loaded
      · rename_i index found
        split at loaded
        · rename_i accepted
          cases loaded
          exact ⟨content, index, rfl, read, found, accepted.1, accepted.2⟩
        · cases loaded
      · cases loaded

theorem Effect.checksumKept {before after : MissionExecutor}
    (effect : Effect config before after) (kept : ChecksumKept config before) :
    ChecksumKept config after := by
  cases effect with
  | plain same =>
      unfold ChecksumKept
      rw [same.mission, same.state]
      exact kept
  | releaseKeeper id =>
      have handling := @removeContinousAction_handling before id
      unfold ChecksumKept
      rw [handling.mission, handling.missionChecksum]
      exact kept
  | clearPersistentState =>
      unfold MissionExecutor.clearPersistentState
      split <;> exact kept
  | savePersistentState =>
      unfold MissionExecutor.savePersistentState MissionExecutor.clearPersistentState
      repeat' split
      all_goals exact kept
  | setMission canRun mission =>
      obtain same | ⟨_, taken, same, ⟨state, loaded, set⟩ | ⟨_, set⟩⟩ :=
        @setMission_cases config before canRun mission
      · rw [same]
        exact kept
      · rw [set]
        intro _
        unfold tryLoadPersistentState at loaded
        split at loaded
        · obtain ⟨_, _, _, _, _, checksum, _⟩ := tryLoad_accepted loaded
          exact checksum
        · cases loaded
      · rw [set]
        intro _
        change taken.state.missionChecksum = taken.mission.checksum config.hash
        rw [same.state, same.mission]
  | resetMission =>
      unfold MissionExecutor.resetMission
      split
      · exact kept
      · intro items
        exact absurd rfl items
  | _ => exact kept

variable {registered : Bool} {id : UInt8} {ownedMode : ModeBase} {file : PersistenceFile}
  {guard : Config → Input → Prop}

theorem reaches_checksumKept {reached : Config}
    (reaches : (machine config).Reaches guard (initial registered id ownedMode file) reached) :
    ChecksumKept config reached.state := by
  refine reaches_effects ?_ (fun _ _ effect kept => effect.checksumKept kept) reaches
  intro items
  exact absurd rfl items

/-- A file that was saved for the mission is accepted again. -/
theorem tryLoad_toJson {hash : Json → Nat} {mission : Mission} {state : PersistentState}
    {index : Int} (current : state.currentIndex = some index)
    (valid : mission.indexValid index = true)
    (checksum : state.missionChecksum = mission.checksum hash) (fits : index < 2 ^ 31) :
    ∃ read, PersistentState.tryLoad hash mission (.json state.toJson) = some read ∧
      read.currentIndex = state.currentIndex ∧ read.missionChecksum = state.missionChecksum ∧
      read.continuousActions.entries = renumbered 0 state.continuousActions.values := by
  have within : 0 ≤ index ∧ index < mission.items.length := by
    simpa [Mission.indexValid] using valid
  obtain ⟨read, decoded, sameIndex, sameChecksum, sameActions⟩ :=
    PersistentState.fromJson_toJson state (by
      intro other found
      rw [current] at found
      cases found
      omega)
  refine ⟨read, ?_, sameIndex, sameChecksum, sameActions⟩
  have readIndex : read.currentIndex = some index := sameIndex.trans current
  have readChecksum : read.missionChecksum = mission.checksum hash := sameChecksum.trans checksum
  simp [PersistentState.tryLoad, decoded, readIndex, readChecksum, valid]

/-! From the moment the state is saved until the next activation. -/

/-- Steps that neither activate nor deactivate the executor, without a request of the user that
sets the state of the mission. -/
def Undisturbed (reached : Config) (input : Input) : Prop :=
  input.setsState = false ∧
    (input = .proceed → ∀ task ∈ reached.agenda.head?, task.changesActivity = false)

/-- The file holds the state that is still in memory. -/
structure Saved (saved : MissionExecutor) (reached : Config) : Prop where
  inactive : reached.state.isActive = false
  runs : ∀ task ∈ reached.agenda, task.isRun = false
  state : reached.state.state = saved.state
  mission : reached.state.mission = saved.mission
  file : reached.state.persistenceFile = .json saved.state.toJson

theorem savePersistentState_of_valid {index : Int} (persistence : config.persistence = true)
    (current : executor.state.currentIndex = some index)
    (valid : executor.mission.indexValid index = true) :
    executor.savePersistentState config =
      { executor with persistenceFile := .json executor.state.toJson } := by
  simp [savePersistentState, persistence, current, valid]

theorem saved_step {before next : Config} {input : Input} {saved : MissionExecutor} {index : Int}
    (persistence : config.persistence = true) (current : saved.state.currentIndex = some index)
    (valid : saved.mission.indexValid index = true) (sound : Sound before)
    (inactive : Inactive config before) (holds : Saved saved before)
    (undisturbed : Undisturbed before input)
    (stepped : (machine config).step before input = some next) : Saved saved next := by
  obtain ⟨setsNothing, calm⟩ := undisturbed
  obtain ⟨bound, stopped⟩ := inactive.stopped holds.inactive
  have notActive : before.state.isActive ≠ true := by simp [holds.inactive]
  have onFailure : before.state.isActive = true →
      config.findAction "onFailure" = some .onFailure := fun active => absurd active notActive
  have keeps : ∀ task ∈ before.agenda.head?, KeepsStopped before.state task input := by
    refine fun task head => ⟨fun proceeds same => ?_, not_startsUnhanded holds.inactive⟩
    subst same
    cases calm proceeds _ head
  obtain ⟨empty, after⟩ | ⟨task, rest, tasks, agenda, agenda', after | ⟨⟨reason, rfl⟩, proceeds, _⟩⟩ :=
    stopped.step_cases sound onFailure keeps stepped
  · have done := after .updateWaypoint
    have kept := done.state holds.inactive rfl setsNothing
    exact ⟨done.isActive.trans holds.inactive, done.runs holds.inactive rfl,
      kept.1.trans holds.state, kept.2.trans holds.mission,
      (done.file (by simp)).trans holds.file⟩
  · have noRun : task.isRun = false := holds.runs task (agenda ▸ List.mem_cons_self)
    have kept := after.state holds.inactive noRun setsNothing
    refine ⟨after.isActive.trans holds.inactive, ?_, kept.1.trans holds.state,
      kept.2.trans holds.mission, ?_⟩
    · rw [agenda']
      intro other member
      rcases List.mem_append.mp member with first | later
      · exact after.runs holds.inactive noRun other first
      · exact holds.runs other (agenda ▸ List.mem_cons_of_mem _ later)
    · by_cases saves : task = .savePersistentState
      · subst saves
        obtain ⟨tasks', executed, _⟩ := step_head agenda stepped
        obtain ⟨landed, _, same⟩ | ⟨_, same⟩ := exec_internal rfl executed
        · have state : next.state = { before.state with landed } := congrArg Prod.fst same
          rw [state]
          exact holds.file
        · have state : next.state = before.state.savePersistentState config :=
            congrArg Prod.fst same
          have index' : before.state.state.currentIndex = some index := holds.state ▸ current
          have valid' : before.state.mission.indexValid index = true := holds.mission ▸ valid
          rw [state, savePersistentState_of_valid persistence index' valid', holds.state]
      · exact (after.file saves).trans holds.file
  · cases calm proceeds _ (by rw [agenda]; rfl)

/-- A new process of the same configuration, after `setMission`. -/
def restart (config : Configuration) (registered : Bool) (id : UInt8) (ownedMode : ModeBase)
    (file : PersistenceFile) (canRun : CanRun) (mission : Mission) : MissionExecutor :=
  (initial registered id ownedMode file).state.setMission config canRun mission

theorem restart_of_saved {saved : MissionExecutor} {index : Int}
    (persistence : config.persistence = true) (current : saved.state.currentIndex = some index)
    (valid : saved.mission.indexValid index = true) (fits : index < 2 ^ 31)
    (checksum : saved.state.missionChecksum = saved.mission.checksum config.hash)
    (canRun : CanRun) :
    (restart config registered id ownedMode (.json saved.state.toJson) canRun
        saved.mission).state.currentIndex = saved.state.currentIndex ∧
      (restart config registered id ownedMode (.json saved.state.toJson) canRun
        saved.mission).state.missionChecksum = saved.state.missionChecksum ∧
      (restart config registered id ownedMode (.json saved.state.toJson) canRun
        saved.mission).state.continuousActions.entries =
          renumbered 0 saved.state.continuousActions.values := by
  obtain ⟨read, loaded, sameIndex, sameChecksum, sameActions⟩ :=
    tryLoad_toJson current valid checksum fits
  obtain ⟨taken, same, ⟨state, found, set⟩ | ⟨none, _⟩⟩ := @setMission_of_inactive config
    (initial registered id ownedMode (.json saved.state.toJson)).state rfl canRun saved.mission
  all_goals
    have load : taken.tryLoadPersistentState config = some read := by
      unfold tryLoadPersistentState
      rw [if_pos persistence, same.mission, same.persistenceFile]
      exact loaded
  · rw [load] at found
    cases found
    rw [restart, set]
    exact ⟨sameIndex, sameChecksum, sameActions⟩
  · rw [load] at none
    cases none

/-- The state that a deactivation saves stays in memory until the executor is activated, and a
process that starts meanwhile reads the same one: the same index, the checksum of the mission, and
the same actions in the same order. The codec as such keeps any state. -/
theorem restart_restores_state {reached saved later : Config} {rest : List Task} {index : Int}
    (reaches : (machine config).Reaches Lib.Machine.unrestricted
      (initial registered id ownedMode file) reached)
    (saves : reached.agenda = .savePersistentState :: rest)
    (stepped : (machine config).step reached .proceed = some saved)
    (persistence : config.persistence = true)
    (current : reached.state.state.currentIndex = some index)
    (valid : reached.state.mission.indexValid index = true) (fits : index < 2 ^ 31)
    (onward : (machine config).Reaches Undisturbed saved later)
    (registered' : Bool) (id' : UInt8) (ownedMode' : ModeBase) (canRun : CanRun) :
    later.state.state = reached.state.state ∧
    (restart config registered' id' ownedMode' later.state.persistenceFile canRun
      reached.state.mission).state.currentIndex = later.state.state.currentIndex ∧
    (restart config registered' id' ownedMode' later.state.persistenceFile canRun
      reached.state.mission).state.missionChecksum = later.state.state.missionChecksum ∧
    later.state.state.missionChecksum = reached.state.mission.checksum config.hash ∧
    (restart config registered' id' ownedMode' later.state.persistenceFile canRun
      reached.state.mission).state.continuousActions.entries =
        renumbered 0 later.state.state.continuousActions.values ∧
    ∀ state : PersistentState,
      (∀ index ∈ state.currentIndex, -2 ^ 31 ≤ index ∧ index < 2 ^ 31) →
      ∃ read, PersistentState.fromJson state.toJson = some read ∧
        read.currentIndex = state.currentIndex ∧ read.missionChecksum = state.missionChecksum ∧
        read.continuousActions.entries = renumbered 0 state.continuousActions.values := by
  have items : reached.state.mission.items ≠ [] := by
    intro empty
    simp [Mission.indexValid, empty] at valid
    omega
  have checksum := reaches_checksumKept reaches items
  have inactive := (reaches_inactive reaches).saves (by simp [saves])
  have start : Saved reached.state saved := by
    obtain ⟨tasks, executed, agenda⟩ := step_head saves stepped
    obtain ⟨_, other, _⟩ | ⟨_, same⟩ := exec_internal rfl executed
    · cases other
    · have state : saved.state = reached.state.savePersistentState config := congrArg Prod.fst same
      have none : tasks = [] := congrArg Prod.snd same
      rw [savePersistentState_of_valid persistence current valid] at state
      have run := (reaches_ordered reaches).run
      rw [saves] at run
      refine ⟨?_, ?_, ?_, ?_, ?_⟩
      · rw [state]
        exact inactive
      · rw [agenda, none]
        exact run
      all_goals rw [state]
  have kept : Saved reached.state later := by
    induction onward with
    | refl => exact start
    | step before undisturbed stepped' holds =>
        have onward' := (Lib.Machine.Reaches.step reaches trivial stepped).trans
          (before.mono fun _ _ _ => trivial)
        exact saved_step persistence current valid (reaches_sound onward')
          (reaches_inactive onward') holds undisturbed stepped'
  obtain ⟨sameIndex, sameChecksum, sameActions⟩ :=
    @restart_of_saved config registered' id' ownedMode' reached.state index persistence current
      valid fits checksum canRun
  rw [kept.file, kept.state]
  exact ⟨rfl, sameIndex, sameChecksum, checksum, sameActions,
    fun state fits => PersistentState.fromJson_toJson state fits⟩

/-- The number of items in the JSON form of a mission, as a hash. -/
def countItems (json : Json) : Nat :=
  (((json.at? "mission").bind fun mission => mission.at? "items").getD .null).elements.length

/-- A mission that surveys twice. -/
def surveyConfiguration : Configuration :=
  { customActions := [("survey", .custom (fun _ => false) false)]
    persistence := true
    hash := countItems }

def surveyMission : Mission :=
  { items := [.action { name := "survey" }, .action { name := "survey" }] }

def surveyMode : ModeBase := { id := 23, activateEvenWhileDisarmed := false }

/-- The second survey stores two states. The pilot takes over, and the state is about to be
saved. -/
def interruptedSurvey : List Input :=
  [.userEvent, .op (.setMission surveyMission fun _ => none), .ret, armedStatus 23 1] ++
  proceeds 7 ++ .op (.call (.nextItem 0 0)) :: proceeds 5 ++
  [.op (.handler .parameter (.storeState "survey" ⟨.string "strip 1"⟩)),
    .op (.handler .parameter (.storeState "survey" {})), .ret, .ret] ++
  proceeds 8 ++ armedStatus 3 0 :: proceeds 6

def aboutToSave (reached : Config) : Bool :=
  match reached.agenda with
  | .savePersistentState :: _ => true
  | _ => false

theorem agenda_of_aboutToSave {reached : Config} (saves : aboutToSave reached = true) :
    ∃ rest, reached.agenda = .savePersistentState :: rest := by
  unfold aboutToSave at saves
  split at saves
  · rename_i rest agenda
    exact ⟨rest, agenda⟩
  · cases saves

/-- A process that restarts after the interruption has the index and both states. -/
theorem restart_restores_survey :
    ∃ reached saved : Config, saved.state.state.currentIndex = some 1 ∧
      saved.state.state.continuousActions.values.length = 2 ∧
      (restart surveyConfiguration true 2 surveyMode saved.state.persistenceFile (fun _ => none)
        reached.state.mission).state.currentIndex = some 1 ∧
      (restart surveyConfiguration true 2 surveyMode saved.state.persistenceFile (fun _ => none)
        reached.state.mission).state.continuousActions.entries =
          renumbered 0 saved.state.state.continuousActions.values := by
  obtain ⟨reached, reaches, saves, current, valid, stored, steps⟩ :=
    Lib.Machine.reaches_of_run_any (machine surveyConfiguration) Lib.Machine.unrestricted
      (initial true 1 surveyMode .missing)
      (fun config => aboutToSave config = true ∧ config.state.state.currentIndex = some 1 ∧ config.state.mission.indexValid 1 = true ∧
        config.state.state.continuousActions.values.length = 2 ∧
        ((machine surveyConfiguration).step config .proceed).isSome = true)
      interruptedSurvey (by decide +kernel)
  obtain ⟨saved, stepped⟩ := Option.isSome_iff_exists.mp steps
  obtain ⟨rest, agenda⟩ := agenda_of_aboutToSave saves
  obtain ⟨kept, index, _, _, actions, _⟩ := restart_restores_state reaches agenda stepped rfl
    current valid (by decide) .refl true 2 surveyMode fun _ => none
  rw [← kept] at current stored
  exact ⟨reached, saved, current, stored, index.trans current, actions⟩

end MissionExecutor

end Px4Ros2
