import Mathlib.Algebra.Group.Defs
import Mathlib.Data.List.Induction

/-! `MapProjection`: the reference point of the projection follows the local position messages. -/

set_option autoImplicit false

namespace Px4Ros2

/-- The floating point functions that the reference point is computed with. -/
structure Trigonometry (Number : Type) where
  /-- `M_PI / 180.0`. -/
  radPerDeg : Number
  sin : Number → Number
  cos : Number → Number

/-- What `MapProjection` reads of the message. Without a global reference the timestamp is 0. -/
structure VehicleLocalPosition (Number : Type) where
  refTimestamp : Nat
  refLat : Number
  refLon : Number
  refAlt : Number

structure MapProjectionImpl (Number : Type) where
  refTimestamp : Nat
  refLat : Number
  refLon : Number
  refAltAmsl : Number
  refSinLat : Number
  refCosLat : Number
  refInitDone : Bool

namespace MapProjection

variable {Number : Type} [Mul Number] (trigonometry : Trigonometry Number)

/-- A projection after construction. -/
def constructed (zero : Number) : MapProjectionImpl Number :=
  ⟨0, zero, zero, zero, zero, zero, false⟩

def initReference (lat lon alt : Number) (timestamp : Nat) : MapProjectionImpl Number :=
  let refLat := lat * trigonometry.radPerDeg
  { refTimestamp := timestamp
    refLat
    refLon := lon * trigonometry.radPerDeg
    refAltAmsl := alt
    refSinLat := trigonometry.sin refLat
    refCosLat := trigonometry.cos refLat
    refInitDone := true }

/-- The reference point of a message. -/
abbrev referenceOf (msg : VehicleLocalPosition Number) : MapProjectionImpl Number :=
  initReference trigonometry msg.refLat msg.refLon msg.refAlt msg.refTimestamp

def vehicleLocalPositionCallback (projection : MapProjectionImpl Number)
    (msg : VehicleLocalPosition Number) : MapProjectionImpl Number :=
  if !projection.refInitDone then
    if msg.refTimestamp ≠ 0 then referenceOf trigonometry msg else projection
  -- here a timestamp of 0 is a change like any other
  else if msg.refTimestamp ≠ projection.refTimestamp then referenceOf trigonometry msg
  else projection

/-- `assertInitalized`. -/
def assertInitalized (projection : MapProjectionImpl Number) : Except String Unit :=
  if projection.refInitDone then .ok () else .error "Map projection impossible: uninitialized."

/-- The projection after some messages. -/
def run (zero : Number) (msgs : List (VehicleLocalPosition Number)) : MapProjectionImpl Number :=
  msgs.foldl (vehicleLocalPositionCallback trigonometry) (constructed zero)

/-- The messages with a global reference, the latest first, as far as it is the same one. -/
def currentRun (msgs : List (VehicleLocalPosition Number)) : List (VehicleLocalPosition Number) :=
  match (msgs.filter (·.refTimestamp ≠ 0)).reverse with
  | [] => []
  | latest :: earlier =>
      latest :: earlier.takeWhile (·.refTimestamp = latest.refTimestamp)

/-- The message that the reference is from. -/
def reference (msgs : List (VehicleLocalPosition Number)) : Option (VehicleLocalPosition Number) :=
  (currentRun msgs).getLast?

/-- The projection is initialized as soon as there was a global reference. It has the timestamp of
the latest one, and the position of the first message about it. -/
structure Tracks (msgs : List (VehicleLocalPosition Number))
    (projection : MapProjectionImpl Number) : Prop where
  initialized : projection.refInitDone = true ↔ ∃ msg ∈ msgs, msg.refTimestamp ≠ 0
  timestamp : ∀ msg, (currentRun msgs).head? = some msg →
    projection.refTimestamp = msg.refTimestamp
  follows : ∀ msg, reference msgs = some msg → projection = referenceOf trigonometry msg

variable {trigonometry} {zero : Number} {msgs before after : List (VehicleLocalPosition Number)}
  {msg : VehicleLocalPosition Number} {projection : MapProjectionImpl Number}

theorem run_append :
    run trigonometry zero (before ++ [msg]) =
      vehicleLocalPositionCallback trigonometry (run trigonometry zero before) msg := by
  simp [run]

/-! ### The current run -/

section Reference

omit [Mul Number]

theorem currentRun_zero (none : msg.refTimestamp = 0) :
    currentRun (msgs ++ [msg]) = currentRun msgs := by
  unfold currentRun
  rw [List.filter_append, List.filter_cons_of_neg (by simp [none]), List.filter_nil,
    List.append_nil]

theorem reference_zero (none : msg.refTimestamp = 0) :
    reference (msgs ++ [msg]) = reference msgs := by
  rw [reference, currentRun_zero none, reference]

/-- The current run is about one reference. -/
theorem timestamp_of_mem {latest : VehicleLocalPosition Number}
    (head : (currentRun msgs).head? = some latest) :
    ∀ other ∈ currentRun msgs, other.refTimestamp = latest.refTimestamp := by
  unfold currentRun at head ⊢
  split at head
  · cases head
  · cases head
    intro other member
    rcases List.mem_cons.mp member with rfl | later
    · rfl
    · simpa using List.all_eq_true.mp List.all_takeWhile other later

theorem head?_of_reference (found : reference msgs = some msg) :
    ∃ latest, (currentRun msgs).head? = some latest ∧ msg.refTimestamp = latest.refTimestamp := by
  unfold reference at found
  cases shape : currentRun msgs with
  | nil => simp [shape] at found
  | cons latest earlier =>
      have head : (currentRun msgs).head? = some latest := by simp [shape]
      exact ⟨latest, rfl, timestamp_of_mem head msg (List.mem_of_getLast? found)⟩

/-- A message with a global reference goes on with the current run or begins a new one. -/
theorem currentRun_append (some : msg.refTimestamp ≠ 0) :
    currentRun (msgs ++ [msg]) =
      if (currentRun msgs).head?.any (·.refTimestamp = msg.refTimestamp) then
        msg :: currentRun msgs
      else [msg] := by
  unfold currentRun
  rw [List.filter_append, List.filter_cons_of_pos (by simp [some]), List.reverse_append]
  cases (msgs.filter (·.refTimestamp ≠ 0)).reverse with
  | nil => simp
  | cons latest earlier =>
      by_cases goesOn : latest.refTimestamp = msg.refTimestamp <;> simp [goesOn]

theorem reference_append (some : msg.refTimestamp ≠ 0) :
    reference (msgs ++ [msg]) =
      match reference msgs with
      | .some old => if old.refTimestamp = msg.refTimestamp then .some old else .some msg
      | none => .some msg := by
  cases found : reference msgs with
  | none =>
      have empty : currentRun msgs = [] := List.getLast?_eq_none_iff.mp found
      simp [reference, currentRun_append some, empty]
  | some old =>
      obtain ⟨latest, head, same⟩ := head?_of_reference found
      unfold reference at found ⊢
      rw [currentRun_append some, head]
      by_cases goesOn : latest.refTimestamp = msg.refTimestamp
      · cases shape : currentRun msgs with
        | nil => simp [shape] at head
        | cons first rest => simpa [shape, same, goesOn] using shape ▸ found
      · simp [same, goesOn]

theorem exists_reference :
    (∃ msg ∈ msgs, msg.refTimestamp ≠ 0) ↔ ∃ msg, reference msgs = some msg := by
  unfold reference currentRun
  cases shape : (msgs.filter (·.refTimestamp ≠ 0)).reverse with
  | nil =>
      have none : msgs.filter (·.refTimestamp ≠ 0) = [] := List.reverse_eq_nil_iff.mp shape
      simpa using none
  | cons latest earlier =>
      have member : latest ∈ msgs.filter (·.refTimestamp ≠ 0) := by
        rw [← List.mem_reverse, shape]
        exact List.mem_cons_self
      obtain ⟨present, some⟩ := List.mem_filter.mp member
      exact ⟨fun _ => ⟨_, List.getLast?_cons⟩, fun _ => ⟨latest, present, by simpa using some⟩⟩

theorem reference_ne_zero (found : reference msgs = some msg) : msg.refTimestamp ≠ 0 := by
  have member : msg ∈ msgs.filter (·.refTimestamp ≠ 0) := by
    unfold reference currentRun at found
    rw [← List.mem_reverse]
    split at found
    · cases found
    · rename_i latest earlier shape
      rw [shape]
      rcases List.mem_cons.mp (List.mem_of_getLast? found) with rfl | later
      · exact List.mem_cons_self
      · exact List.mem_cons_of_mem _ ((List.takeWhile_sublist _).mem later)
  simpa using (List.mem_filter.mp member).2

end Reference

/-! ### The projection -/

theorem tracks_constructed : Tracks trigonometry [] (constructed zero) :=
  ⟨by simp [constructed], by simp [currentRun], by simp [reference, currentRun]⟩

/-- The reference and the run decide what is tracked. -/
theorem tracks_of_reference (some : msg.refTimestamp ≠ 0)
    {old : VehicleLocalPosition Number} (found : reference (before ++ [msg]) = .some old)
    (same : projection = referenceOf trigonometry old) :
    Tracks trigonometry (before ++ [msg]) projection := by
  obtain ⟨latest, head, timestamp⟩ := head?_of_reference found
  refine ⟨⟨fun _ => ⟨msg, by simp, some⟩, fun _ => by rw [same]; rfl⟩, ?_, ?_⟩
  · intro other head'
    rw [head] at head'
    cases head'
    rw [same]
    exact timestamp
  · intro other found'
    rw [found] at found'
    cases found'
    exact same

/-- Before there was a global reference, a message without one is left alone. -/
theorem tracks_zero (tracks : Tracks trigonometry before projection)
    (none : msg.refTimestamp = 0) (fresh : projection.refInitDone = false) :
    vehicleLocalPositionCallback trigonometry projection msg = projection ∧
      Tracks trigonometry (before ++ [msg]) projection := by
  refine ⟨by simp [vehicleLocalPositionCallback, fresh, none], ?_, ?_, ?_⟩
  · rw [tracks.initialized]
    simp [none]
  · rw [currentRun_zero none]
    exact tracks.timestamp
  · rw [reference_zero none]
    exact tracks.follows

theorem tracks_append (tracks : Tracks trigonometry before projection)
    (some : msg.refTimestamp ≠ 0) :
    Tracks trigonometry (before ++ [msg])
      (vehicleLocalPositionCallback trigonometry projection msg) := by
  have appended := @reference_append Number before msg some
  cases found : reference before with
  | none =>
      rw [found] at appended
      have fresh : projection.refInitDone = false := by
        cases done : projection.refInitDone with
        | false => rfl
        | true =>
            obtain ⟨old, present⟩ := exists_reference.mp (tracks.initialized.mp done)
            rw [found] at present
            cases present
      refine tracks_of_reference some appended ?_
      simp [vehicleLocalPositionCallback, fresh, some]
  | some old =>
      rw [found] at appended
      have same : projection = referenceOf trigonometry old := tracks.follows old found
      dsimp only at appended
      split at appended
      · rename_i goesOn
        refine tracks_of_reference some appended ?_
        simp [vehicleLocalPositionCallback, same, initReference, goesOn]
      · rename_i differs
        refine tracks_of_reference some appended ?_
        simp [vehicleLocalPositionCallback, same, initReference, Ne.symm differs]

/-- The reference is lost after the projection was initialized. -/
def LosesReference (msgs : List (VehicleLocalPosition Number)) : Prop :=
  ∃ before msg after, msgs = before ++ msg :: after ∧ msg.refTimestamp = 0 ∧
    ∃ other ∈ before, other.refTimestamp ≠ 0

theorem tracks_run (keeps : ¬ LosesReference msgs) :
    Tracks trigonometry msgs (run trigonometry zero msgs) := by
  induction msgs using List.reverseRecOn with
  | nil => exact tracks_constructed
  | append_singleton msgs msg ih =>
      have tracks := ih fun ⟨before, lost, after, shape, rest⟩ =>
        keeps ⟨before, lost, after ++ [msg], by simp [shape], rest⟩
      rw [run_append]
      by_cases none : msg.refTimestamp = 0
      · have fresh : (run trigonometry zero msgs).refInitDone = false := by
          cases done : (run trigonometry zero msgs).refInitDone with
          | false => rfl
          | true => exact absurd ⟨msgs, msg, [], rfl, none, tracks.initialized.mp done⟩ keeps
        obtain ⟨kept, tracks⟩ := tracks_zero tracks none fresh
        rw [kept]
        exact tracks
      · exact tracks_append tracks none

/-- The projection tracks the reference all the time, and messages without one change nothing,
exactly when the reference is not lost after the initialization. -/
theorem reference_tracks_iff (trigonometry : Trigonometry Number) (zero : Number)
    (msgs : List (VehicleLocalPosition Number)) :
    (∀ before after, msgs = before ++ after →
      Tracks trigonometry before (run trigonometry zero before) ∧
      ∀ msg rest, after = msg :: rest → msg.refTimestamp = 0 →
        run trigonometry zero (before ++ [msg]) = run trigonometry zero before) ↔
      ¬ LosesReference msgs := by
  constructor
  · rintro tracks ⟨before, lost, after, shape, none, earlier⟩
    obtain ⟨tracked, unchanged⟩ := tracks before (lost :: after) shape
    have same := unchanged lost after rfl none
    have done := tracked.initialized.mpr earlier
    obtain ⟨old, found⟩ := exists_reference.mp earlier
    have kept : (run trigonometry zero before).refTimestamp ≠ 0 := by
      rw [tracked.follows old found]
      exact reference_ne_zero found
    have reset : (run trigonometry zero (before ++ [lost])).refTimestamp = 0 := by
      rw [run_append]
      simp [vehicleLocalPositionCallback, done, none, Ne.symm kept, initReference]
    exact kept (same ▸ reset)
  · rintro keeps before after rfl
    have tracked : Tracks trigonometry before (run trigonometry zero before) := by
      refine tracks_run fun ⟨first, lost, last, shape, rest⟩ => ?_
      exact keeps ⟨first, lost, last ++ after, by simp [shape], rest⟩
    refine ⟨tracked, ?_⟩
    rintro msg rest rfl none
    rw [run_append]
    refine (tracks_zero tracked none ?_).1
    cases done : (run trigonometry zero before).refInitDone with
    | false => rfl
    | true => exact absurd ⟨before, msg, rest, rfl, none, tracked.initialized.mp done⟩ keeps

/-- The estimator loses its global reference. -/
theorem reference_lost :
    ¬ ∀ before after : List (VehicleLocalPosition Int),
      [⟨5, 47, 8, 400⟩, ⟨0, 0, 0, 0⟩] = before ++ after →
      Tracks ⟨1, id, id⟩ before (run ⟨1, id, id⟩ 0 before) ∧
      ∀ msg rest, after = msg :: rest → msg.refTimestamp = 0 →
        run ⟨1, id, id⟩ 0 (before ++ [msg]) = run ⟨1, id, id⟩ 0 before := by
  intro tracks
  have same := (tracks [⟨5, 47, 8, 400⟩] [⟨0, 0, 0, 0⟩] rfl).2 _ _ rfl rfl
  have timestamp : (0 : Nat) = 5 := congrArg (·.refTimestamp) same
  cases timestamp

end MapProjection

end Px4Ros2
