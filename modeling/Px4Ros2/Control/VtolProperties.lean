import Px4Ros2.Control.Vtol
import Mathlib.Analysis.SpecialFunctions.Trigonometric.Arctan

/-! What a vehicle is commanded to do, over whole flights: which transition commands are published,
and how strongly the setpoints of a back transition brake. -/

set_option autoImplicit false

namespace Px4Ros2.Vtol

open Lib

section History

variable {Number : Type}

/-- The time of a status message, and the state that it stands for. -/
def Entry.status? (entry : Entry Number) : Option (Int × VtolState) :=
  match entry.input with
  | .vtolVehicleStatus vehicleVtolState => some (entry.time, stateOf vehicleVtolState)
  | _ => none

def Entry.sent? (entry : Entry Number) : Option Int :=
  match entry.output with
  | .transition _ (some _) => some entry.time
  | _ => none

def Entry.heading? (entry : Entry Number) : Option (Extended Number) :=
  match entry.input with
  | .vehicleLocalPosition heading _ _ => some heading
  | _ => none

def Entry.acceleration? (entry : Entry Number) : Option (Extended Number × Extended Number) :=
  match entry.input with
  | .vehicleLocalPosition _ ax ay => some (ax, ay)
  | _ => none

/-- The state that the latest status message tells. -/
def knownState (log : List (Entry Number)) : VtolState :=
  ((latest Entry.status? log).map Prod.snd).getD .undefined

/-- The time of the latest status message. -/
def statusTime (log : List (Entry Number)) : Int :=
  ((latest Entry.status? log).map Prod.fst).getD 0

/-- The time of the latest command, at first that of the construction. -/
def lastSent (start : Int) (log : List (Entry Number)) : Int :=
  (latest Entry.sent? log).getD start

def knownHeading (log : List (Entry Number)) : Extended Number :=
  (latest Entry.heading? log).getD .nan

def knownAcceleration (log : List (Entry Number)) : Extended Number × Extended Number :=
  (latest Entry.acceleration? log).getD (.nan, .nan)

variable {start : Int} {log : List (Entry Number)} {entry : Entry Number}

@[simp] theorem lastSent_snoc :
    lastSent start (log ++ [entry]) = entry.sent?.getD (lastSent start log) := by
  cases sent : entry.sent? <;> simp [lastSent, sent]

@[simp] theorem statusTime_snoc :
    statusTime (log ++ [entry]) = (entry.status?.map Prod.fst).getD (statusTime log) := by
  cases status : entry.status? <;> simp [statusTime, status]

@[simp] theorem knownState_snoc :
    knownState (log ++ [entry]) = (entry.status?.map Prod.snd).getD (knownState log) := by
  cases status : entry.status? <;> simp [knownState, status]

@[simp] theorem knownHeading_snoc :
    knownHeading (log ++ [entry]) = entry.heading?.getD (knownHeading log) := by
  cases heading : entry.heading? <;> simp [knownHeading, heading]

@[simp] theorem knownAcceleration_snoc :
    knownAcceleration (log ++ [entry]) = entry.acceleration?.getD (knownAcceleration log) := by
  cases acceleration : entry.acceleration? <;> simp [knownAcceleration, acceleration]

end History

variable {Number : Type} [Field Number] [LinearOrder Number] {math : VtolMath Number}
  {config : VtolConfig Number} {start : Int} {log before after : List (Entry Number)}
  {events : List (Int × Input Number)} {event : Int × Input Number} {vtol : Vtol Number}
  {entry : Entry Number}

theorem run_snoc : run math config start (events ++ [event]) =
    step math config (run math config start events) event := by
  simp [run]

/-- What the object remembers is what its past says. -/
structure Remembers (start : Int) (log : List (Entry Number)) (vtol : Vtol Number) : Prop where
  lastCommandSent : vtol.lastCommandSent = lastSent start log
  statusTime : vtol.lastVtolVehicleStatusReceived = statusTime log
  state : vtol.currentState = knownState log
  heading : vtol.vehicleHeading = knownHeading log
  acceleration : (vtol.vehicleAccelerationX, vtol.vehicleAccelerationY) = knownAcceleration log

omit [LinearOrder Number] in
theorem remembers_constructed (start : Int) :
    Remembers start [] (constructed start : Vtol Number) :=
  ⟨rfl, rfl, rfl, rfl, rfl⟩

/-- A computation of a setpoint leaves the parts of the object that others use. -/
theorem computePitch_keeps (math : VtolMath Number) (config : VtolConfig Number)
    (vtol : Vtol Number) (now : Int) (deceleration : Option (Extended Number)) :
    ∃ integrator update,
      (computePitchSetpointDuringBacktransition math config vtol now deceleration).1 =
        { vtol with decelErrorBtInt := integrator, lastPitchIntegratorUpdate := update } := by
  simp only [computePitchSetpointDuringBacktransition]
  split <;> exact ⟨_, _, rfl⟩

theorem computeAcceleration_keeps (math : VtolMath Number) (config : VtolConfig Number)
    (vtol : Vtol Number) (now : Int) (deceleration : Option (Extended Number)) :
    ∃ integrator update,
      (computeAccelerationSetpointDuringTransition math config vtol now deceleration).1 =
        { vtol with decelErrorBtInt := integrator, lastPitchIntegratorUpdate := update } := by
  simp only [computeAccelerationSetpointDuringTransition]
  split
  · exact computePitch_keeps math config vtol now deceleration
  · exact ⟨vtol.decelErrorBtInt, vtol.lastPitchIntegratorUpdate, rfl⟩

/-- The command that a request gets published. -/
def publishes (config : VtolConfig Number) (direction : Direction) (vtol : Vtol Number)
    (now : Int) : Bool :=
  now - vtol.lastVtolVehicleStatusReceived < config.statusTimeout &&
    (direction.startsFrom vtol.currentState && now - vtol.lastCommandSent > commandInterval)

omit [Field Number] [LinearOrder Number] in
theorem transition_eq (direction : Direction) (vtol : Vtol Number) (now : Int) :
    transition config direction vtol now =
      if publishes config direction vtol now then
        ({ vtol with lastCommandSent := now }, true, some direction.command)
      else
        (vtol, decide (now - vtol.lastVtolVehicleStatusReceived < config.statusTimeout), none) := by
  by_cases fresh : now - vtol.lastVtolVehicleStatusReceived < config.statusTimeout
  · by_cases due : direction.startsFrom vtol.currentState ∧
        now - vtol.lastCommandSent > commandInterval
    · simp [transition, publishes, fresh, due.1, due.2]
    · have undue : ¬(direction.startsFrom vtol.currentState = true ∧
          commandInterval < now - vtol.lastCommandSent) := due
      simp [transition, publishes, fresh, undue]
  · simp [transition, publishes, fresh]

theorem remembers_step (remembers : Remembers start log vtol) :
    Remembers start (step math config (vtol, log) event).2
      (step math config (vtol, log) event).1 := by
  obtain ⟨lastCommandSent, status, state, heading, acceleration⟩ := remembers
  obtain ⟨now, input⟩ := event
  cases input with
  | vtolVehicleStatus vehicleVtolState =>
      constructor <;>
        simp [step, handle, Entry.sent?, Entry.status?, Entry.heading?, Entry.acceleration?,
          lastCommandSent, heading, acceleration]
  | vehicleLocalPosition heading ax ay =>
      constructor <;>
        simp [step, handle, Entry.sent?, Entry.status?, Entry.heading?, Entry.acceleration?,
          lastCommandSent, status, state]
  | transition direction =>
      simp only [step, handle, transition_eq]
      split <;> constructor <;>
        simp [Entry.sent?, Entry.status?, Entry.heading?, Entry.acceleration?, lastCommandSent,
          status, state, heading, acceleration]
  | accelerationSetpoint deceleration =>
      obtain ⟨integrator, update, kept⟩ :=
        computeAcceleration_keeps math config vtol now deceleration
      constructor <;>
        simp [step, handle, kept, Entry.sent?, Entry.status?, Entry.heading?, Entry.acceleration?,
          lastCommandSent, status, state, heading, acceleration]

theorem run_log_snoc : (run math config start (events ++ [event])).2 =
    (run math config start events).2 ++ [⟨event.1, event.2,
      (handle math config (run math config start events).1 event.1 event.2).2⟩] := by
  rw [run_snoc]
  rfl

theorem remembers_run (math : VtolMath Number) (config : VtolConfig Number) (start : Int)
    (events : List (Int × Input Number)) :
    Remembers start (run math config start events).2 (run math config start events).1 := by
  induction events using List.reverseRecOn with
  | nil => exact remembers_constructed start
  | append_singleton events event ih =>
      rw [run_snoc]
      exact remembers_step ih

/-! ### Transition commands -/

/-- By what happened before, there is something to command, and not too soon. -/
def Due (config : VtolConfig Number) (start : Int) (before : List (Entry Number)) (time : Int)
    (direction : Direction) : Prop :=
  time - statusTime before < config.statusTimeout ∧
    direction.startsFrom (knownState before) = true ∧
    time - lastSent start before > commandInterval

instance (config : VtolConfig Number) (start : Int) (before : List (Entry Number)) (time : Int)
    (direction : Direction) : Decidable (Due config start before time direction) :=
  inferInstanceAs (Decidable (_ ∧ _ ∧ _))

/-- What a request for a transition does. -/
structure Requested (config : VtolConfig Number) (start : Int) (before : List (Entry Number))
    (entry : Entry Number) (direction : Direction) : Prop where
  /-- It is possible when the state of the vehicle is known. -/
  output : entry.output =
    .transition (decide (entry.time - statusTime before < config.statusTimeout))
      (if Due config start before entry.time direction then some direction.command else none)
  /-- Commands keep their distance from the construction and from all commands before. -/
  spaced : entry.sent?.isSome → entry.time - start > commandInterval ∧
    ∀ earlier ∈ before, earlier.sent?.isSome → entry.time - earlier.time > commandInterval

theorem handle_transition (remembers : Remembers start log vtol) (now : Int)
    (direction : Direction) :
    handle math config vtol now (.transition direction) =
      if Due config start log now direction then
        ({ vtol with lastCommandSent := now }, .transition true (some direction.command))
      else
        (vtol, .transition (decide (now - statusTime log < config.statusTimeout)) none) := by
  have same : publishes config direction vtol now = true ↔
      Due config start log now direction := by
    simp [publishes, Due, remembers.lastCommandSent, remembers.statusTime, remembers.state]
  simp only [handle, transition_eq, same, remembers.statusTime]
  split <;> rfl

omit [Field Number] [LinearOrder Number] in
theorem time_of_sent (sent : entry.sent?.isSome) : entry.sent? = some entry.time := by
  simp only [Entry.sent?] at sent ⊢
  split at sent
  · rfl
  · cases sent

/-- No command is later than the latest one. -/
theorem sent_le_lastSent (math : VtolMath Number) (config : VtolConfig Number) (start : Int)
    (events : List (Int × Input Number)) :
    start ≤ lastSent start (run math config start events).2 ∧
      ∀ entry ∈ (run math config start events).2, entry.sent?.isSome →
        entry.time ≤ lastSent start (run math config start events).2 := by
  induction events using List.reverseRecOn with
  | nil => exact ⟨le_refl start, fun entry member => by simp [run] at member⟩
  | append_singleton events event ih =>
      obtain ⟨begins, bounded⟩ := ih
      have remembers := remembers_run math config start events
      obtain ⟨now, input⟩ := event
      rw [run_log_snoc]
      set log := (run math config start events).2
      set vtol := (run math config start events).1
      have later : lastSent start log ≤
          lastSent start (log ++ [⟨now, input, (handle math config vtol now input).2⟩]) := by
        rw [lastSent_snoc]
        cases input with
        | transition direction =>
            rw [handle_transition remembers]
            split
            · rename_i due
              have spaced := due.2.2
              simp only [Entry.sent?, Option.getD_some, commandInterval] at spaced ⊢
              omega
            · exact le_refl _
        | vtolVehicleStatus | vehicleLocalPosition | accelerationSetpoint => exact le_refl _
      refine ⟨begins.trans later, fun entry member sent => ?_⟩
      obtain earlier | latest := List.mem_append.mp member
      · exact (bounded entry earlier sent).trans later
      · rw [lastSent_snoc]
        obtain rfl := List.mem_singleton.mp latest
        rw [time_of_sent sent]
        exact le_refl _

/-- Every request for a transition is answered by what happened before it. -/
theorem transitions_requested (math : VtolMath Number) (config : VtolConfig Number) (start : Int)
    (events : List (Int × Input Number)) (before : List (Entry Number)) (entry : Entry Number)
    (after : List (Entry Number))
    (happened : (run math config start events).2 = before ++ entry :: after)
    (direction : Direction) (requested : entry.input = .transition direction) :
    Requested config start before entry direction := by
  induction events using List.reverseRecOn generalizing before entry after with
  | nil => simp [run] at happened
  | append_singleton events event ih =>
      have remembers := remembers_run math config start events
      obtain ⟨begins, bounded⟩ := sent_le_lastSent math config start events
      rw [run_log_snoc] at happened
      obtain ⟨shape, rfl, -⟩ | ⟨rest, -, shape⟩ := snoc_eq_append_cons.mp happened
      · obtain ⟨now, input⟩ := event
        obtain rfl : input = .transition direction := requested
        rw [← shape, handle_transition remembers]
        by_cases due : Due config start (run math config start events).2 now direction
        · have spaced := due.2.2
          rw [if_pos due]
          refine ⟨by simp [due, due.1], fun _ => ⟨?_, fun earlier member sent => ?_⟩⟩
          · simp only [commandInterval] at spaced ⊢
            omega
          · have bound := bounded earlier member sent
            simp only [commandInterval] at spaced ⊢
            omega
        · rw [if_neg due]
          exact ⟨by simp [due], nofun⟩
      · exact ih before entry rest shape requested

/-- A vehicle that is asked twice within the interval. -/
def askedTwice : List (Int × Input Rat) :=
  [(1000000000, .vtolVehicleStatus 3), (2000000000, .transition .toFixedwing),
    (2100000000, .transition .toFixedwing)]

theorem transitions_requested_twice :
    ∃ before : List (Entry Rat), Requested ⟨.nan, .nan, .nan, 5000000000⟩ 0 before
      ⟨2100000000, .transition .toFixedwing, .transition true none⟩ .toFixedwing :=
  ⟨_, transitions_requested ⟨fun _ => 1, fun _ => 0, id, 10⟩
    ⟨.nan, .nan, .nan, 5000000000⟩ 0 askedTwice
    [⟨1000000000, .vtolVehicleStatus 3, .received⟩,
      ⟨2000000000, .transition .toFixedwing,
        .transition true (some Direction.toFixedwing.command)⟩] _ [] rfl .toFixedwing rfl⟩

/-! ### Setpoints during a transition -/

/-- The functions of the mathematics library as what they stand for. -/
noncomputable def realMath : VtolMath ℝ := ⟨Real.cos, Real.sin, Real.tan, 9.80665⟩

/-- A configuration of numbers, with a limit that leaves room for an integral. -/
structure FiniteConfig where
  deceleration : ℝ
  gain : ℝ
  limit : ℝ
  statusTimeout : Int
  nonneg : 0 ≤ limit

namespace FiniteConfig

def toConfig (finite : FiniteConfig) : VtolConfig ℝ :=
  ⟨.number finite.deceleration, .number finite.gain, .number finite.limit, finite.statusTimeout⟩

/-- The integral of the deceleration that is missing, over a pause in nanoseconds. A long pause
begins a new one, and nothing is integrated without a measurement. -/
noncomputable def integrate (finite : FiniteConfig) (integral : ℝ) (pause : Int) (wanted : ℝ)
    (measured : Option ℝ) : ℝ :=
  if 2000000000 < pause then 0
  else
    match measured with
    | none => integral
    | some deceleration =>
        max 0 (min finite.limit
          (integral + finite.gain * (wanted - deceleration) * seconds pause))

end FiniteConfig

/-- Accelerations are measured or NAN, and decelerations are asked for in numbers. -/
def Input.Finite : Input ℝ → Prop
  | .vehicleLocalPosition _ ax ay => ax.isInfinite = false ∧ ay.isInfinite = false
  | .accelerationSetpoint (some deceleration) => ∃ wanted, deceleration = .number wanted
  | _ => True

/-- A setpoint was computed then. -/
def Entry.Computes {Number : Type} (entry : Entry Number) : Prop :=
  ∃ deceleration, entry.input = .accelerationSetpoint deceleration

/-- The deceleration against the heading, by the latest measurement. -/
noncomputable def measured (log : List (Entry ℝ)) : Option ℝ :=
  match knownHeading log, knownAcceleration log with
  | .number heading, (.number ax, .number ay) =>
      some (-(ax * Real.cos heading + ay * Real.sin heading))
  | _, _ => none

/-- The integral after a log, and the time of its latest update. Only the setpoints of a back
transition are integrated. -/
inductive Integral (finite : FiniteConfig) : List (Entry ℝ) → Int → ℝ → Prop where
  | start : Integral finite [] 0 0
  | kept {log : List (Entry ℝ)} {updated : Int} {integral : ℝ} {entry : Entry ℝ} :
      Integral finite log updated integral →
      ¬ (entry.Computes ∧ knownState log = .transitionToMulticopter) →
      Integral finite (log ++ [entry]) updated integral
  | updated {log : List (Entry ℝ)} {updated : Int} {integral wanted : ℝ} {entry : Entry ℝ}
      {deceleration : Option (Extended ℝ)} :
      Integral finite log updated integral →
      entry.input = .accelerationSetpoint deceleration →
      deceleration.getD (.number finite.deceleration) = .number wanted →
      knownState log = .transitionToMulticopter →
      Integral finite (log ++ [entry]) entry.time
        (finite.integrate integral (entry.time - updated) wanted (measured log))

/-- No setpoint was computed in the last two seconds. -/
def Quiet {Number : Type} (before : List (Entry Number)) (time : Int) : Prop :=
  2000000000 < time ∧ ∀ entry ∈ before, entry.Computes → 2000000000 < time - entry.time

/-- A setpoint against the heading, for the pitch that the integral asks for. -/
structure Brakes (finite : FiniteConfig) (before : List (Entry ℝ)) (entry : Entry ℝ)
    (x y z : Extended ℝ) (pitch : ℝ) : Prop where
  nonneg : 0 ≤ pitch
  limited : pitch ≤ finite.limit
  integral : knownState before = .transitionToMulticopter →
    Integral finite (before ++ [entry]) entry.time pitch
  /-- Only a back transition brakes. -/
  otherwise : knownState before ≠ .transitionToMulticopter → pitch = 0
  /-- A new back transition begins level. -/
  begins : Quiet before entry.time → pitch = 0
  x : x = (knownHeading before).map fun heading => -(Real.tan pitch * 9.80665 * Real.cos heading)
  y : y = (knownHeading before).map fun heading => -(Real.tan pitch * 9.80665 * Real.sin heading)
  z : z = .nan

section Braking

variable {finite : FiniteConfig} {log : List (Entry ℝ)} {vtol : Vtol ℝ} {updated now : Int}
  {integral wanted : ℝ}

theorem integrate_of_long_pause {pause : Int} (long : 2000000000 < pause) (wanted : ℝ)
    (measured : Option ℝ) : finite.integrate integral pause wanted measured = 0 :=
  if_pos long

theorem integrate_mem (nonneg : 0 ≤ integral) (limited : integral ≤ finite.limit) (pause : Int)
    (wanted : ℝ) (measured : Option ℝ) :
    0 ≤ finite.integrate integral pause wanted measured ∧
      finite.integrate integral pause wanted measured ≤ finite.limit := by
  unfold FiniteConfig.integrate
  split
  · exact ⟨le_refl 0, finite.nonneg⟩
  · cases measured with
    | none => exact ⟨nonneg, limited⟩
    | some deceleration =>
        exact ⟨le_max_left _ _, max_le finite.nonneg (min_le_left _ _)⟩

theorem Integral.mem (integrated : Integral finite log updated integral) :
    0 ≤ integral ∧ integral ≤ finite.limit := by
  induction integrated with
  | start => exact ⟨le_refl 0, finite.nonneg⟩
  | kept _ _ ih => exact ih
  | updated _ _ _ _ ih => exact integrate_mem ih.1 ih.2 _ _ _

/-- The latest update was at some computation of a setpoint. -/
theorem Integral.update_mem (integrated : Integral finite log updated integral) :
    updated = 0 ∨ ∃ entry ∈ log, entry.Computes ∧ entry.time = updated := by
  induction integrated with
  | start => exact .inl rfl
  | kept _ _ ih =>
      exact ih.imp_right fun ⟨earlier, member, computes⟩ =>
        ⟨earlier, List.mem_append_left _ member, computes⟩
  | updated _ computes _ _ _ =>
      exact .inr ⟨_, List.mem_append_right _ (List.mem_singleton_self _), ⟨_, computes⟩, rfl⟩

theorem Integral.pause_of_quiet (integrated : Integral finite log updated integral)
    (quiet : Quiet log now) : 2000000000 < now - updated := by
  obtain rfl | ⟨entry, member, computes, rfl⟩ := integrated.update_mem
  · have late := quiet.1
    omega
  · exact quiet.2 entry member computes

/-- The object holds the integral of its past, and no infinite measurement. -/
structure Holds (finite : FiniteConfig) (log : List (Entry ℝ)) (vtol : Vtol ℝ) : Prop where
  integral : ∃ integral, Integral finite log vtol.lastPitchIntegratorUpdate integral ∧
    vtol.decelErrorBtInt = .number integral
  accelerationX : vtol.vehicleAccelerationX.isInfinite = false
  accelerationY : vtol.vehicleAccelerationY.isInfinite = false

/-- The measured deceleration of the code is a number or NAN. -/
theorem deceleration_eq (remembers : Remembers start log vtol) (holds : Holds finite log vtol) :
    -(vtol.vehicleAccelerationX * vtol.vehicleHeading.map realMath.cos +
        vtol.vehicleAccelerationY * vtol.vehicleHeading.map realMath.sin) =
      match measured log with
      | some deceleration => .number deceleration
      | none => .nan := by
  have finiteX := holds.accelerationX
  have finiteY := holds.accelerationY
  have heading := remembers.heading
  have acceleration := remembers.acceleration
  unfold measured
  rw [← heading, ← acceleration]
  cases vtol.vehicleHeading with
  | nan | infinity _ =>
      cases vtol.vehicleAccelerationX <;> cases vtol.vehicleAccelerationY <;> rfl
  | number heading =>
      cases x : vtol.vehicleAccelerationX with
      | infinity negative => simp [x, Extended.isInfinite] at finiteX
      | nan => cases vtol.vehicleAccelerationY <;> rfl
      | number ax =>
          cases y : vtol.vehicleAccelerationY with
          | infinity negative => simp [y, Extended.isInfinite] at finiteY
          | nan => rfl
          | number ay => rfl

theorem long_pause_iff (pause : Int) : (2 : ℝ) < seconds pause ↔ 2000000000 < pause := by
  rw [seconds, lt_div_iff₀ (by norm_num)]
  norm_num
  exact_mod_cast Iff.rfl

/-- One computation of the pitch is one step of the integral. -/
theorem computePitch_eq (remembers : Remembers start log vtol) (holds : Holds finite log vtol)
    (held : vtol.decelErrorBtInt = .number integral) (now : Int)
    {given : Option (Extended ℝ)}
    (isWanted : given.getD (.number finite.deceleration) = .number wanted) :
    computePitchSetpointDuringBacktransition realMath finite.toConfig vtol now given =
      ({ vtol with
          decelErrorBtInt := .number (finite.integrate integral
            (now - vtol.lastPitchIntegratorUpdate) wanted (measured log))
          lastPitchIntegratorUpdate := now },
        .number (finite.integrate integral (now - vtol.lastPitchIntegratorUpdate) wanted
          (measured log))) := by
  have deceleration := deceleration_eq remembers holds
  have limits := Extended.clamp_number (0 : ℝ) finite.nonneg
  simp only [computePitchSetpointDuringBacktransition, FiniteConfig.toConfig, isWanted, held,
    deceleration, Nat.cast_ofNat, long_pause_iff, FiniteConfig.integrate]
  by_cases pause : 2000000000 < now - vtol.lastPitchIntegratorUpdate
  · cases measured log with
    | none => simp [pause, Extended.isNaN]
    | some measured =>
        rw [max_eq_left (min_le_right _ _)] at limits
        simp [pause, Extended.isNaN, limits]
  · cases measured log with
    | none => simp [pause, Extended.isNaN]
    | some measured =>
        simp [pause, Extended.isNaN, Extended.clamp_number _ finite.nonneg]

theorem isWanted_of_finite {given : Option (Extended ℝ)}
    (numeric : (Input.accelerationSetpoint given).Finite) (finite : FiniteConfig) :
    ∃ wanted, given.getD (.number finite.deceleration) = .number wanted := by
  cases given with
  | none => exact ⟨finite.deceleration, rfl⟩
  | some given =>
      obtain ⟨wanted, rfl⟩ := numeric
      exact ⟨wanted, rfl⟩

theorem holds_constructed (finite : FiniteConfig) (start : Int) :
    Holds finite [] (constructed start) where
  integral := ⟨0, .start, rfl⟩
  accelerationX := rfl
  accelerationY := rfl

/-- What an entry that is not integrated leaves. -/
theorem Holds.kept {next : Vtol ℝ} (holds : Holds finite log vtol) (entry : Entry ℝ)
    (other : ¬ (entry.Computes ∧ knownState log = .transitionToMulticopter))
    (integrator : next.decelErrorBtInt = vtol.decelErrorBtInt)
    (update : next.lastPitchIntegratorUpdate = vtol.lastPitchIntegratorUpdate)
    (x : next.vehicleAccelerationX.isInfinite = false)
    (y : next.vehicleAccelerationY.isInfinite = false) :
    Holds finite (log ++ [entry]) next where
  integral := by
    obtain ⟨integral, integrated, held⟩ := holds.integral
    exact ⟨integral, update ▸ integrated.kept other, integrator.trans held⟩
  accelerationX := x
  accelerationY := y

theorem holds_step (remembers : Remembers start log vtol) (holds : Holds finite log vtol)
    (event : Int × Input ℝ) (numeric : event.2.Finite) :
    Holds finite (step realMath finite.toConfig (vtol, log) event).2
      (step realMath finite.toConfig (vtol, log) event).1 := by
  obtain ⟨now, input⟩ := event
  have x := holds.accelerationX
  have y := holds.accelerationY
  cases input with
  | vtolVehicleStatus vehicleVtolState =>
      exact holds.kept _ (fun ⟨⟨_, computes⟩, _⟩ => nomatch computes) rfl rfl x y
  | vehicleLocalPosition heading ax ay =>
      exact holds.kept _ (fun ⟨⟨_, computes⟩, _⟩ => nomatch computes) rfl rfl numeric.1 numeric.2
  | transition direction =>
      simp only [step, handle, transition_eq]
      split <;>
        exact holds.kept _ (fun ⟨⟨_, computes⟩, _⟩ => nomatch computes) rfl rfl x y
  | accelerationSetpoint given =>
      simp only [step, handle, computeAccelerationSetpointDuringTransition, remembers.state]
      by_cases back : knownState log = .transitionToMulticopter
      · obtain ⟨integral, integrated, held⟩ := holds.integral
        obtain ⟨wanted, isWanted⟩ := isWanted_of_finite numeric finite
        simp only [back, if_true, computePitch_eq remembers holds held now isWanted]
        exact
          { integral := ⟨_, integrated.updated rfl isWanted back, rfl⟩
            accelerationX := x
            accelerationY := y }
      · simp only [back, if_false]
        exact holds.kept _ (fun ⟨_, same⟩ => back same) rfl rfl x y

theorem holds_run (finite : FiniteConfig) (start : Int) (events : List (Int × Input ℝ))
    (numeric : ∀ event ∈ events, event.2.Finite) :
    Holds finite (run realMath finite.toConfig start events).2
      (run realMath finite.toConfig start events).1 := by
  induction events using List.reverseRecOn with
  | nil => exact holds_constructed finite start
  | append_singleton events event ih =>
      rw [run_snoc]
      refine holds_step (remembers_run realMath finite.toConfig start events)
        (ih fun other member => ?_) event (numeric event (by simp))
      exact numeric other (List.mem_append_left _ member)

theorem computeAcceleration_brakes (remembers : Remembers start log vtol)
    (holds : Holds finite log vtol) (entry : Entry ℝ) {given : Option (Extended ℝ)}
    (computes : entry.input = .accelerationSetpoint given) (numeric : entry.input.Finite) :
    ∃ x y z pitch, (computeAccelerationSetpointDuringTransition realMath finite.toConfig vtol
        entry.time given).2 = (x, y, z) ∧ Brakes finite log entry x y z pitch := by
  have component (pitch : ℝ) (function : ℝ → ℝ) (heading : Extended ℝ) :
      Extended.number (Real.tan pitch) * Extended.number 9.80665 * -heading.map function =
        heading.map fun heading => -(Real.tan pitch * 9.80665 * function heading) := by
    cases heading with
    | nan | infinity _ => rfl
    | number heading => simp
  simp only [computeAccelerationSetpointDuringTransition, remembers.state]
  by_cases back : knownState log = .transitionToMulticopter
  · obtain ⟨integral, integrated, held⟩ := holds.integral
    rw [computes] at numeric
    obtain ⟨wanted, isWanted⟩ := isWanted_of_finite numeric finite
    have next : Integral finite (log ++ [entry]) entry.time _ :=
      integrated.updated computes isWanted back
    simp only [back, if_true, computePitch_eq remembers holds held entry.time isWanted,
      remembers.heading]
    refine ⟨_, _, _, _, rfl, next.mem.1, next.mem.2, fun _ => next, fun other => absurd back other,
      fun quiet => ?_, component _ Real.cos _, component _ Real.sin _, rfl⟩
    exact integrate_of_long_pause (integrated.pause_of_quiet quiet) _ _
  · simp only [back, if_false, remembers.heading]
    exact ⟨_, _, _, 0, rfl, le_refl 0, finite.nonneg, fun same => absurd same back, fun _ => rfl,
      fun _ => rfl, component 0 Real.cos _, component 0 Real.sin _, rfl⟩

/-- The setpoint is no stronger than the limit of the integrator allows. -/
theorem Brakes.magnitude {entry : Entry ℝ} {x y z : Extended ℝ} {pitch : ℝ}
    (brakes : Brakes finite log entry x y z pitch) (steep : finite.limit < Real.pi / 2) {ax ay : ℝ}
    (isX : x = .number ax) (isY : y = .number ay) :
    ax ^ 2 + ay ^ 2 ≤ (Real.tan finite.limit * 9.80665) ^ 2 := by
  have xSide := brakes.x.symm.trans isX
  have ySide := brakes.y.symm.trans isY
  cases known : knownHeading log with
  | nan | infinity _ => simp [known, Extended.map] at xSide
  | number heading =>
      simp only [known, Extended.map_number, Extended.number.injEq] at xSide ySide
      have nonneg := brakes.nonneg
      have limited := brakes.limited
      have least : 0 ≤ Real.tan pitch :=
        Real.tan_nonneg_of_nonneg_of_le_pi_div_two nonneg (limited.trans steep.le)
      have most : Real.tan pitch ≤ Real.tan finite.limit :=
        Real.strictMonoOn_tan.monotoneOn ⟨by linarith, by linarith⟩ ⟨by linarith, steep⟩
          limited
      calc ax ^ 2 + ay ^ 2
          = (Real.tan pitch * 9.80665) ^ 2 * (Real.cos heading ^ 2 + Real.sin heading ^ 2) := by
            rw [← xSide, ← ySide]
            ring
        _ = (Real.tan pitch * 9.80665) ^ 2 := by
            rw [Real.cos_sq_add_sin_sq, mul_one]
        _ ≤ (Real.tan finite.limit * 9.80665) ^ 2 := by gcongr

/-- Every setpoint of every flight brakes against the heading, with the integral as its pitch. -/
theorem setpoints_brake (finite : FiniteConfig) (start : Int) (events : List (Int × Input ℝ))
    (numeric : ∀ event ∈ events, event.2.Finite) (before : List (Entry ℝ)) (entry : Entry ℝ)
    (after : List (Entry ℝ))
    (happened : (run realMath finite.toConfig start events).2 = before ++ entry :: after)
    (computes : entry.Computes) :
    ∃ x y z pitch, entry.output = .accelerationSetpoint x y z ∧
      Brakes finite before entry x y z pitch ∧
      (finite.limit < Real.pi / 2 → ∀ ax ay, x = .number ax → y = .number ay →
        ax ^ 2 + ay ^ 2 ≤ (Real.tan finite.limit * 9.80665) ^ 2) := by
  induction events using List.reverseRecOn generalizing before entry after with
  | nil => simp [run] at happened
  | append_singleton events event ih =>
      have numericBefore : ∀ event ∈ events, event.2.Finite := fun other member =>
        numeric other (List.mem_append_left _ member)
      have holds := holds_run finite start events numericBefore
      have remembers := remembers_run realMath finite.toConfig start events
      rw [run_log_snoc] at happened
      obtain ⟨rfl, rfl, -⟩ | ⟨rest, -, shape⟩ := snoc_eq_append_cons.mp happened
      · obtain ⟨now, input⟩ := event
        obtain ⟨given, rfl⟩ := computes
        obtain ⟨x, y, z, pitch, computed, brakes⟩ := computeAcceleration_brakes remembers holds
          ⟨now, .accelerationSetpoint given, (handle realMath finite.toConfig
            (run realMath finite.toConfig start events).1 now (.accelerationSetpoint given)).2⟩
          rfl (numeric (now, .accelerationSetpoint given) (by simp))
        refine ⟨x, y, z, pitch, by simp [handle, computed], brakes, ?_⟩
        exact fun steep ax ay isX isY => brakes.magnitude steep isX isY
      · exact ih numericBefore before entry rest shape computes

noncomputable def braking : FiniteConfig := ⟨1, 0.1, 0.3, 5000000000, by norm_num⟩

/-- The second setpoint of a back transition. -/
theorem setpoints_brake_in_back_transition :
    ∃ before : List (Entry ℝ), ∃ entry : Entry ℝ, entry.time = 9100000000 ∧ ∃ x y z pitch,
      entry.output = .accelerationSetpoint x y z ∧ Brakes braking before entry x y z pitch :=
  have ⟨x, y, z, pitch, output, brakes, _⟩ :=
    setpoints_brake braking 0
      [(1000000000, .vtolVehicleStatus 2),
        (1000000000, .vehicleLocalPosition (.number 1) (.number (-1)) (.number 0)),
        (9000000000, .accelerationSetpoint none), (9100000000, .accelerationSetpoint none)]
      (by simp [Input.Finite, Extended.isInfinite]) [_, _, _] _ [] rfl ⟨none, rfl⟩
  ⟨_, _, rfl, x, y, z, pitch, output, brakes⟩

end Braking

end Px4Ros2.Vtol
