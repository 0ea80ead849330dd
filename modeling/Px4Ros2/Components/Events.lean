import Px4Ros2.Lib.LittleEndian
import Px4Ros2.Components.HealthAndArmingChecks

/-! The events that a component attaches to its arming check replies: the bytes of their log levels
and arguments, and what is read from them. -/

set_option autoImplicit false

namespace Px4Ros2.Events

open Lib

/-- `LogLevel` and `LogLevelInternal`. -/
inductive LogLevel where
  | emergency
  | alert
  | critical
  | error
  | warning
  | notice
  | info
  | debug
  | protocol
  | disabled
deriving DecidableEq, Repr

def LogLevel.toUInt8 : LogLevel → UInt8
  | .emergency => 0
  | .alert => 1
  | .critical => 2
  | .error => 3
  | .warning => 4
  | .notice => 5
  | .info => 6
  | .debug => 7
  | .protocol => 8
  | .disabled => 9

structure LogLevels where
  external : LogLevel := .info
  internal : LogLevel := .info
deriving DecidableEq, Repr

namespace LogLevels

/-- The constructor from one level. -/
def ofLevel (level : LogLevel) : LogLevels := ⟨level, level⟩

/-- The field of an event. -/
def toUInt8 (levels : LogLevels) : UInt8 :=
  (levels.internal.toUInt8 <<< 4) ||| levels.external.toUInt8

theorem toUInt8_internal (levels : LogLevels) :
    levels.toUInt8 >>> 4 = levels.internal.toUInt8 := by
  obtain ⟨external, internal⟩ := levels
  cases external <;> cases internal <;> rfl

theorem toUInt8_external (levels : LogLevels) :
    levels.toUInt8 &&& 0x0f = levels.external.toUInt8 := by
  obtain ⟨external, internal⟩ := levels
  cases external <;> cases internal <;> rfl

end LogLevels

inductive ArgumentType where
  | uint8
  | int8
  | uint16
  | int16
  | uint32
  | int32
  | float
  | uint64
  | int64
  | double
deriving DecidableEq, Repr

/-- `sizeof`. -/
def ArgumentType.size : ArgumentType → Nat
  | .uint8 | .int8 => 1
  | .uint16 | .int16 => 2
  | .uint32 | .int32 | .float => 4
  | .uint64 | .int64 | .double => 8

/-- A value of the type, as the number that its bytes stand for. -/
structure Argument where
  type : ArgumentType
  bits : Nat
  fits : bits < 256 ^ type.size
deriving DecidableEq

def fillEventArguments (arguments : List Argument) : List UInt8 :=
  arguments.flatMap fun argument => littleEndian argument.type.size argument.bits

def sizeofArguments (arguments : List Argument) : Nat :=
  (arguments.map (·.type.size)).sum

/-- The size of `arguments` in an event. -/
def kArgumentsSize : Nat := 25

/-- The arguments that `armingCheckFailureExt` puts in front. -/
def leading : List Argument :=
  -- `navigation_mode_groups` and `health_component_index`
  [⟨.uint16, 0, by decide⟩, ⟨.uint8, 0, by decide⟩]

/-- A call of `armingCheckFailureExt` whose arguments pass the static assertion. -/
structure Failure where
  eventId : UInt32
  logLevel : LogLevel
  arguments : List Argument
  fits : sizeofArguments (leading ++ arguments) ≤ kArgumentsSize

/-- The event that `addEvent` fills in. -/
def Failure.event (failure : Failure) : EventType :=
  { logLevels := (LogLevels.ofLevel failure.logLevel).toUInt8
    id := failure.eventId
    arguments := fillEventArguments (leading ++ failure.arguments) ++
      List.replicate (kArgumentsSize - sizeofArguments (leading ++ failure.arguments)) 0 }

/-- What a check callback reports. -/
inductive Report where
  | armingCheckFailureExt (failure : Failure)
  | setHealth (index : UInt8) (isPresent warning error : Bool)

def Report.call : Report → ReporterCall
  | .armingCheckFailureExt failure => .armingCheckFailureExt failure.event
  | .setHealth index isPresent warning error => .setHealth index isPresent warning error

def Report.failure? : Report → Option Failure
  | .armingCheckFailureExt failure => some failure
  | .setHealth _ _ _ _ => none

structure Health where
  index : UInt8 := 0
  isPresent : Bool := false
  warning : Bool := false
  error : Bool := false
deriving DecidableEq, Repr

def Report.health? : Report → Option Health
  | .armingCheckFailureExt _ => none
  | .setHealth index isPresent warning error => some ⟨index, isPresent, warning, error⟩

/-! ### Reading an event -/

/-- The arguments of these types at the front of the bytes. -/
def readArguments : List ArgumentType → List UInt8 → List Argument
  | [], _ => []
  | type :: types, bytes =>
      ⟨type, ofLittleEndian (bytes.take type.size), ofLittleEndian_lt bytes type.size⟩ ::
        readArguments types (bytes.drop type.size)

/-- What was written is read, whatever follows it. -/
theorem readArguments_fill (arguments : List Argument) (rest : List UInt8) :
    readArguments (arguments.map (·.type)) (fillEventArguments arguments ++ rest) = arguments := by
  induction arguments with
  | nil => rfl
  | cons argument arguments ih =>
      have shape : fillEventArguments (argument :: arguments) ++ rest =
          littleEndian argument.type.size argument.bits ++ (fillEventArguments arguments ++ rest) := by
        simp [fillEventArguments]
      rw [shape, List.map_cons, readArguments, littleEndian_drop, ih]
      congr
      exact ofLittleEndian_take argument.fits

theorem length_fill (arguments : List Argument) :
    (fillEventArguments arguments).length = sizeofArguments arguments := by
  induction arguments with
  | nil => rfl
  | cons argument arguments ih =>
      simp only [fillEventArguments, sizeofArguments, List.flatMap_cons, List.length_append,
        length_littleEndian, List.map_cons, List.sum_cons] at ih ⊢
      rw [ih]

theorem length_arguments (failure : Failure) :
    failure.event.arguments.length = kArgumentsSize := by
  have fits := failure.fits
  simp only [Failure.event, List.length_append, length_fill, List.length_replicate]
  omega

/-- An event with the types of its arguments. -/
theorem readArguments_event (failure : Failure) :
    readArguments ((leading ++ failure.arguments).map (·.type)) failure.event.arguments =
      leading ++ failure.arguments :=
  readArguments_fill _ _

/-! ### A whole reply -/

variable {reports : List Report} {maxEvents : Nat}

/-- What the reports leave of the reply that the reporter was given. -/
structure Reported (maxEvents : Nat) (reports : List Report) (start reply : ArmingCheckReply) :
    Prop where
  events : reply.events = ((reports.filterMap Report.failure?).map Failure.event).take maxEvents
  canArmAndRun : reply.canArmAndRun =
    (start.canArmAndRun && (reports.filterMap Report.failure?).isEmpty)
  health : (⟨reply.healthComponentIndex, reply.healthComponentIsPresent,
      reply.healthComponentWarning, reply.healthComponentError⟩ : Health) =
    (reports.filterMap Report.health?).getLast?.getD {}
  requestId : reply.requestId = start.requestId
  registrationId : reply.registrationId = start.registrationId

theorem take_snoc_eq {Value : Type} (values : List Value) (value : Value) (room : Nat) :
    (values ++ [value]).take room =
      if (values.take room).length ≥ room then values.take room else values.take room ++ [value] := by
  rw [List.take_append, List.length_take]
  split
  · rename_i full
    have none : room - values.length = 0 := by omega
    simp [none]
  · rename_i space
    obtain ⟨more, room⟩ : ∃ more, room - values.length = more + 1 :=
      ⟨room - values.length - 1, by omega⟩
    simp [room]

theorem reported_fold (maxEvents : Nat) (reports : List Report) (start : ArmingCheckReply)
    (events : start.events = [])
    (health : (⟨start.healthComponentIndex, start.healthComponentIsPresent,
      start.healthComponentWarning, start.healthComponentError⟩ : Health) = {}) :
    Reported maxEvents reports start
      ((reports.map Report.call).foldl (ReporterCall.apply maxEvents) start) := by
  induction reports using List.reverseRecOn with
  | nil => exact ⟨by simp [events], by simp, by simpa using health, rfl, rfl⟩
  | append_singleton reports report ih =>
      rw [List.map_append, List.map_singleton, List.foldl_append, List.foldl_cons, List.foldl_nil]
      generalize (reports.map Report.call).foldl (ReporterCall.apply maxEvents) start = reply at ih
      cases report with
      | armingCheckFailureExt failure =>
          refine ⟨?_, ?_, ?_, ih.requestId, ih.registrationId⟩
          · simp only [List.filterMap_append, List.filterMap_cons, Report.failure?,
              List.filterMap_nil, List.map_append, List.map_cons, List.map_nil, take_snoc_eq,
              ← ih.events]
            rfl
          · simp [Report.failure?, Report.call, ReporterCall.apply]
          · simpa [Report.health?, Report.call, ReporterCall.apply] using ih.health
      | setHealth index isPresent warning error =>
          have failures :
              (reports ++ [Report.setHealth index isPresent warning error]).filterMap
                Report.failure? = reports.filterMap Report.failure? := by
            simp [Report.failure?]
          refine ⟨?_, ?_, ?_, ih.requestId, ih.registrationId⟩
          · rw [failures]
            exact ih.events
          · rw [failures]
            exact ih.canArmAndRun
          · simp [Report.health?, Report.call, ReporterCall.apply]

/-- The reply to a request tells all that the check callback has reported: whether there was a
failure, the last health, and as many failures as there is room for, in order, each with the level
and the arguments it was given. -/
theorem reports_read_back (checks : HealthAndArmingChecks) (maxEvents : Nat)
    (msg : ArmingCheckRequest) (reports : List Report)
    (registered : checks.registration.registered = true) :
    ∃ reply, (checks.armingCheckRequest maxEvents msg (reports.map Report.call)).2 = some reply ∧
      reply.requestId = msg.requestId ∧ reply.registrationId = checks.registrationId ∧
      reply.modeReq = checks.modeRequirements ∧
      (reply.canArmAndRun = true ↔ ∀ report ∈ reports, report.failure? = none) ∧
      (⟨reply.healthComponentIndex, reply.healthComponentIsPresent, reply.healthComponentWarning,
        reply.healthComponentError⟩ : Health) =
        (reports.filterMap Report.health?).getLast?.getD {} ∧
      List.Forall₂ (fun (failure : Failure) (event : EventType) =>
          event.id = failure.eventId ∧
          (event.logLevels >>> 4 : UInt8) = failure.logLevel.toUInt8 ∧
          (event.logLevels &&& 0x0f : UInt8) = failure.logLevel.toUInt8 ∧
          event.arguments.length = kArgumentsSize ∧
          readArguments ((leading ++ failure.arguments).map (·.type)) event.arguments =
            leading ++ failure.arguments)
        ((reports.filterMap Report.failure?).take maxEvents) reply.events := by
  have reported := reported_fold maxEvents reports
    { registrationId := checks.registrationId, requestId := msg.requestId, canArmAndRun := true }
    rfl rfl
  refine ⟨checks.modeRequirements.fillArmingCheckReply _,
    by simp only [HealthAndArmingChecks.armingCheckRequest, registered, if_true],
    reported.requestId, reported.registrationId, rfl, ?_, reported.health, ?_⟩
  · simp only [RequirementFlags.fillArmingCheckReply, reported.canArmAndRun, Bool.true_and,
      List.isEmpty_iff, List.filterMap_eq_nil_iff]
  · simp only [RequirementFlags.fillArmingCheckReply, reported.events, ← List.map_take]
    rw [List.forall₂_map_right_iff]
    refine List.forall₂_same.mpr fun failure _ => ⟨rfl, ?_, ?_, length_arguments failure,
      readArguments_event failure⟩
    · exact LogLevels.toUInt8_internal _
    · exact LogLevels.toUInt8_external _

/-- A failure with one argument of two bytes. -/
def lowBattery : Failure :=
  ⟨0x01a2b3c4, .warning, [⟨.uint16, 300, by decide⟩], by decide⟩

theorem reports_read_back_low_battery :
    ∃ reply, (({ registration := { registered := true } } : HealthAndArmingChecks).armingCheckRequest
        5 ⟨7, 1⟩ [.armingCheckFailureExt lowBattery.event]).2 = some reply ∧
      reply.requestId = 7 ∧ reply.canArmAndRun = false := by
  obtain ⟨reply, published, request, -, -, arms, -⟩ := reports_read_back
    { registration := { registered := true } } 5 ⟨7, 1⟩ [.armingCheckFailureExt lowBattery] rfl
  refine ⟨reply, published, request, ?_⟩
  cases able : reply.canArmAndRun with
  | false => rfl
  | true => simp [able, Report.failure?] at arms

end Px4Ros2.Events
