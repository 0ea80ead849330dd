import Mathlib.Data.Nat.Bitwise
import Px4Ros2.Lib.Log
import Px4Ros2.Components.HealthAndArmingChecks

/-! The watchdog throws exactly when a registered component had no accepted request between two
ticks. -/

set_option autoImplicit false

namespace Px4Ros2.HealthAndArmingChecks

variable {maxEvents : Nat} {events : List Event} {event : Event}
  {checks next : HealthAndArmingChecks} {trace before between : List Entry} {entry : Entry}
  {reply : Option ArmingCheckReply}

/-! ### Which requests count -/

namespace Entry

def registered (entry : Entry) : Prop := entry.registration.registered = true

def id (entry : Entry) : UInt8 :=
  entry.registration.unregisterExtComponent.armingCheckId.toUInt8

/-- A request that arrives while registered. -/
def Handled (entry : Entry) : Prop :=
  entry.registered ∧ ∃ msg reports, entry.event = .request msg reports

/-- A request with the bit of the component. -/
def HasBit (entry : Entry) : Prop :=
  ∃ msg reports, entry.event = .request msg reports ∧
    msg.validRegistrationsMask.toNat.testBit entry.id.toNat = true

end Entry

def Accepted (earlier : List Entry) (entry : Entry) : Prop :=
  entry.Handled ∧ ((∀ other ∈ earlier, ¬ other.Handled) ∨ entry.HasBit)

/-- The component was registered at the last tick, and no request was accepted since. -/
def Unanswered (trace : List Entry) : Prop :=
  ∃ earlier tick between, trace = earlier ++ tick :: between ∧
    tick.event = .tick ∧ tick.registered ∧ (∀ entry ∈ between, entry.event ≠ .tick) ∧
    ∀ before entry after, between = before ++ entry :: after →
      ¬ Accepted (earlier ++ tick :: before) entry

theorem not_unanswered_nil : ¬ Unanswered [] := by
  intro ⟨earlier, tick, between, shape, _⟩
  simp at shape

theorem unanswered_append_tick (tick : entry.event = .tick) :
    Unanswered (trace ++ [entry]) ↔ entry.registered := by
  constructor
  · intro ⟨earlier, last, between, shape, isTick, registered, noTick, _⟩
    obtain ⟨-, rfl, -⟩ | ⟨rest, rfl, -⟩ := Lib.snoc_eq_append_cons.mp shape
    · exact registered
    · exact absurd tick (noTick entry (by simp))
  · intro registered
    exact ⟨trace, entry, [], rfl, tick, registered, by simp, by simp⟩

theorem unanswered_append (noTick : entry.event ≠ .tick) :
    Unanswered (trace ++ [entry]) ↔ Unanswered trace ∧ ¬ Accepted trace entry := by
  constructor
  · intro ⟨earlier, last, between, shape, isTick, registered, quiet, unanswered⟩
    obtain ⟨-, rfl, -⟩ | ⟨rest, rfl, place⟩ := Lib.snoc_eq_append_cons.mp shape
    · exact absurd isTick noTick
    · have unanswered := (Lib.forall_snoc
        (P := fun before other => ¬ Accepted (earlier ++ last :: before) other)).mp unanswered
      refine ⟨⟨earlier, last, rest, place, isTick, registered, ?_, unanswered.1⟩, ?_⟩
      · exact fun other member => quiet other (List.mem_append_left _ member)
      · exact place ▸ unanswered.2
  · intro ⟨⟨earlier, last, between, shape, isTick, registered, quiet, unanswered⟩, ignored⟩
    refine ⟨earlier, last, between ++ [entry], by simp [shape], isTick, registered, ?_, ?_⟩
    · intro other member
      cases List.mem_append.mp member with
      | inl inside => exact quiet other inside
      | inr new => exact List.mem_singleton.mp new ▸ noTick
    · exact (Lib.forall_snoc
        (P := fun before other => ¬ Accepted (earlier ++ last :: before) other)).mpr
          ⟨unanswered, shape ▸ ignored⟩

/-- The test of the mask reads one of its bits. -/
theorem inMask_eq_testBit {id : UInt8} (inside : id < 32) (mask : UInt32) :
    inMask id mask = mask.toNat.testBit id.toNat := by
  have small : id.toNat < 32 := UInt8.lt_iff_toNat_lt.mp inside
  have bit : ((1 : UInt32) <<< id.toUInt32).toNat = 2 ^ id.toNat := by
    rw [UInt32.toNat_shiftLeft, UInt8.toNat_toUInt32, Nat.mod_eq_of_lt small, Nat.shiftLeft_eq]
    rw [Nat.mod_eq_of_lt]
    · simp
    · simpa using Nat.pow_lt_pow_right (by decide : 1 < 2) small
  have anded : (mask &&& (1 <<< id.toUInt32)).toNat =
      (mask.toNat.testBit id.toNat).toNat * 2 ^ id.toNat := by
    rw [UInt32.toNat_and, bit, Nat.and_two_pow]
  have zero : mask &&& (1 <<< id.toUInt32) = 0 ↔ mask.toNat.testBit id.toNat = false := by
    rw [← UInt32.toNat_inj, anded]
    cases mask.toNat.testBit id.toNat <;> simp
  unfold inMask
  cases set : mask.toNat.testBit id.toNat with
  | false => simp [zero.mpr set]
  | true =>
      have nonzero : mask &&& (1 <<< id.toUInt32) ≠ 0 := fun none => by simp [zero.mp none] at set
      simpa using nonzero

/-! ### One event -/

/-- What an event other than a tick and a handled request may change. -/
theorem handle_cases (handled : handle maxEvents checks event = some (next, reply)) :
    checks.shutdown = false ∧
      ((event = .tick ∧ next = checks.watchdogTimerUpdate) ∨
        (∃ msg reports, event = .request msg reports ∧
          (next, reply) = checks.armingCheckRequest maxEvents msg reports) ∨
        (event ≠ .tick ∧ (∀ msg reports, event ≠ .request msg reports) ∧
          next.shutdown = false ∧ next.checkTriggered = checks.checkTriggered ∧
          (checks.registration.registered = true →
            next.registration = checks.registration ∧ next.firstRequest = checks.firstRequest) ∧
          (next.firstRequest = checks.firstRequest ∨ next.firstRequest = true))) := by
  unfold handle at handled
  split at handled
  · cases handled
  · rename_i alive
    have alive : checks.shutdown = false := by simpa using alive
    refine ⟨alive, ?_⟩
    cases event with
    | tick =>
        cases handled
        exact .inl ⟨rfl, rfl⟩
    | request msg reports =>
        refine .inr (.inl ⟨msg, reports, rfl, ?_⟩)
        simpa using handled.symm
    | doRegister name requestId attempts =>
        obtain ⟨after, registered, same⟩ := Option.map_eq_some_iff.mp handled
        cases same
        unfold doRegister at registered
        split at registered
        · cases registered
        · rename_i unregistered
          obtain ⟨exchange, -, result⟩ := Option.bind_eq_some_iff.mp registered
          cases result
          simp [alive, unregistered]
    | overrideRegistration registration =>
        obtain ⟨after, overridden, same⟩ := Option.map_eq_some_iff.mp handled
        cases same
        unfold overrideRegistration at overridden
        split at overridden
        · cases overridden
        · rename_i unregistered
          cases overridden
          simp [alive, unregistered]
    | modeDoRegister settings requestId attempts =>
        obtain ⟨exchange, registered, same⟩ := Option.map_eq_some_iff.mp handled
        cases same
        have unregistered : checks.registration.registered = false := by
          unfold Registration.doRegister at registered
          split at registered
          · cases registered
          · rename_i unregistered
            simpa using unregistered
        simp [alive, unregistered]
    | setModeRequirements flags =>
        cases handled
        simp [alive]

/-- A report leaves the ids of the reply alone. -/
theorem apply_reports (maxEvents : Nat) (reports : List ReporterCall) (reply : ArmingCheckReply) :
    (reports.foldl (ReporterCall.apply maxEvents) reply).registrationId = reply.registrationId ∧
      (reports.foldl (ReporterCall.apply maxEvents) reply).requestId = reply.requestId := by
  induction reports generalizing reply with
  | nil => exact ⟨rfl, rfl⟩
  | cons report reports ih =>
      rw [List.foldl_cons]
      cases report with
      | armingCheckFailureExt event => exact ih _
      | setHealth index isPresent warning error => exact ih _

/-- A request while registered: it is answered, and it counts if it is the first one or has the
bit. -/
theorem armingCheckRequest_registered (maxEvents : Nat)
    (registered : checks.registration.registered = true) (msg : ArmingCheckRequest) (reports : List ReporterCall) :
    ∃ reply, checks.armingCheckRequest maxEvents msg reports =
        ({ checks with
            checkTriggered := checks.checkTriggered ||
              (checks.firstRequest || inMask checks.registrationId msg.validRegistrationsMask)
            firstRequest := false }, some reply) ∧
      reply.requestId = msg.requestId ∧ reply.registrationId = checks.registrationId := by
  obtain ⟨sameId, sameRequest⟩ := apply_reports maxEvents reports
    { registrationId := checks.registrationId, requestId := msg.requestId, canArmAndRun := true }
  unfold armingCheckRequest
  rw [if_pos registered]
  simp only [RequirementFlags.fillArmingCheckReply, sameId]
  exact ⟨_, rfl, sameRequest, rfl⟩

/-! ### Runs -/

/-- What the flags say about the events so far. -/
structure Sound (state : HealthAndArmingChecks × List Entry) : Prop where
  first : state.1.firstRequest = true ↔ ∀ entry ∈ state.2, ¬ entry.Handled
  kept : ∀ entry ∈ state.2, entry.registered → state.1.registration = entry.registration
  alive : ∀ entry ∈ state.2, entry.threw = true → state.1.shutdown = true
  triggered : state.1.shutdown = false →
    (state.1.checkTriggered = false ↔ Unanswered state.2)

/-- What comes of an event after `before`. -/
structure Correct (before : List Entry) (entry : Entry) : Prop where
  throws : entry.event = .tick → (entry.threw = true ↔ entry.registered ∧ Unanswered before)
  onlyTicks : entry.event ≠ .tick → entry.threw = false
  answered : ∀ msg reports, entry.event = .request msg reports → entry.registered →
    ∃ reply, entry.reply = some reply ∧ reply.requestId = msg.requestId ∧
      reply.registrationId = entry.id
  running : ∀ other ∈ before, other.threw = false
  kept : ∀ other ∈ before, other.registered → entry.registration = other.registration

theorem sound_initial : Sound ({}, []) :=
  ⟨by simp, by simp, by simp, fun _ => by simp [not_unanswered_nil]⟩

theorem forall_append_not_handled :
    (∀ other ∈ trace ++ [entry], ¬ other.Handled) ↔
      (∀ other ∈ trace, ¬ other.Handled) ∧ ¬ entry.Handled := by
  simp [or_imp, forall_and]

theorem Sound.running {state : HealthAndArmingChecks × List Entry} (sound : Sound state)
    (alive : state.1.shutdown = false) : ∀ other ∈ state.2, other.threw = false := by
  intro other member
  cases threw : other.threw with
  | false => rfl
  | true => simp [sound.alive other member threw] at alive

/-- An entry is kept in mind with the registration it was made with. -/
theorem kept_append {registration : Registration}
    (kept : ∀ other ∈ trace, other.registered → checks.registration = other.registration)
    (same : entry.registration = checks.registration)
    (stays : checks.registration.registered = true → registration = checks.registration) :
    ∀ other ∈ trace ++ [entry], other.registered → registration = other.registration := by
  intro other member registered
  cases List.mem_append.mp member with
  | inl old =>
      have known := kept other old registered
      have isRegistered : checks.registration.registered = true := by
        rw [known]
        exact registered
      exact (stays isRegistered).trans known
  | inr new =>
      cases List.mem_singleton.mp new
      have isRegistered : checks.registration.registered = true := by
        rw [← same]
        exact registered
      exact (stays isRegistered).trans same.symm

theorem sound_tick (sound : Sound (checks, trace)) (alive : checks.shutdown = false)
    (tick : entry = ⟨.tick, checks.registration, reply, checks.watchdogTimerUpdate.shutdown⟩) :
    Sound (checks.watchdogTimerUpdate, trace ++ [entry]) ∧ Correct trace entry := by
  have isTick : entry.event = .tick := by rw [tick]
  have registration : entry.registration = checks.registration := by rw [tick]
  have threw : entry.threw = checks.watchdogTimerUpdate.shutdown := by rw [tick]
  have triggered := sound.triggered alive
  have sameFirst : checks.watchdogTimerUpdate.firstRequest = checks.firstRequest := by
    unfold watchdogTimerUpdate
    split
    · split <;> rfl
    · rfl
  have sameRegistration : checks.watchdogTimerUpdate.registration = checks.registration := by
    unfold watchdogTimerUpdate
    split
    · split <;> rfl
    · rfl
  have notHandled : ¬ entry.Handled := by
    intro ⟨_, msg, reports, request⟩
    simp [isTick] at request
  have registered : entry.registered ↔ checks.registration.registered = true := by
    unfold Entry.registered
    rw [registration]
  constructor
  · constructor
    · rw [sameFirst, forall_append_not_handled]
      exact sound.first.trans (by simp [notHandled])
    · exact kept_append sound.kept registration fun _ => sameRegistration
    · intro other member threw'
      cases List.mem_append.mp member with
      | inl old => simp [sound.running alive other old] at threw'
      | inr new =>
          cases List.mem_singleton.mp new
          exact threw ▸ threw'
    · intro running
      rw [unanswered_append_tick isTick, registered]
      unfold watchdogTimerUpdate at running ⊢
      cases isRegistered : checks.registration.registered <;>
        cases waiting : checks.checkTriggered <;> simp_all
  · constructor
    · intro _
      rw [threw, registered, ← triggered]
      unfold watchdogTimerUpdate
      cases isRegistered : checks.registration.registered <;>
        cases waiting : checks.checkTriggered <;> simp [alive]
    · intro noTick
      exact absurd isTick noTick
    · intro msg reports request
      simp [isTick] at request
    · exact sound.running alive
    · intro other member isRegistered
      exact registration.trans (sound.kept other member isRegistered)

/-- An event that neither is a tick nor is handled as a request. -/
theorem sound_quiet (sound : Sound (checks, trace)) (alive : checks.shutdown = false)
    (registration : entry.registration = checks.registration) (noTick : entry.event ≠ .tick)
    (notHandled : ¬ entry.Handled) (threw : entry.threw = false)
    (sameTriggered : next.checkTriggered = checks.checkTriggered)
    (sameRegistered : checks.registration.registered = true →
      next.registration = checks.registration ∧ next.firstRequest = checks.firstRequest)
    (sameFirst : next.firstRequest = checks.firstRequest ∨ next.firstRequest = true) :
    Sound (next, trace ++ [entry]) ∧ Correct trace entry := by
  have notAccepted : ¬ Accepted trace entry := fun accepted => notHandled accepted.1
  constructor
  · constructor
    · rw [forall_append_not_handled]
      cases isRegistered : checks.registration.registered with
      | true => exact (sameRegistered isRegistered).2 ▸ sound.first.trans (by simp [notHandled])
      | false =>
          have none : ∀ other ∈ trace, ¬ other.Handled := by
            intro other member handled
            have known := sound.kept other member handled.1
            simp only at known
            have registered : checks.registration.registered = true := known ▸ handled.1
            simp [isRegistered] at registered
          have first : next.firstRequest = true := by
            cases sameFirst with
            | inl same => exact same.trans (sound.first.mpr none)
            | inr isTrue => exact isTrue
          simpa [first, notHandled] using none
    · exact kept_append sound.kept registration fun registered => (sameRegistered registered).1
    · intro other member isThrown
      cases List.mem_append.mp member with
      | inl old => simp [sound.running alive other old] at isThrown
      | inr new =>
          cases List.mem_singleton.mp new
          simp [threw] at isThrown
    · intro _
      rw [unanswered_append noTick, ← sound.triggered alive]
      simp [sameTriggered, notAccepted]
  · constructor
    · intro isTick
      exact absurd isTick noTick
    · intro _
      exact threw
    · intro msg reports request registered
      exact absurd ⟨registered, msg, reports, request⟩ notHandled
    · exact sound.running alive
    · intro other member isRegistered
      exact registration.trans (sound.kept other member isRegistered)

theorem sound_handled {msg : ArmingCheckRequest} {reports : List ReporterCall}
    (sound : Sound (checks, trace)) (alive : checks.shutdown = false)
    (isRegistered : checks.registration.registered = true)
    (inside : checks.registrationId < 32)
    (same : (next, reply) = checks.armingCheckRequest maxEvents msg reports)
    (request : entry = ⟨.request msg reports, checks.registration, reply, next.shutdown⟩) :
    Sound (next, trace ++ [entry]) ∧ Correct trace entry := by
  have isRequest : entry.event = .request msg reports := by rw [request]
  have registration : entry.registration = checks.registration := by rw [request]
  have noTick : entry.event ≠ .tick := by simp [isRequest]
  have handled : entry.Handled := ⟨by rw [Entry.registered, registration, isRegistered],
    msg, reports, isRequest⟩
  have hasBit : entry.HasBit ↔
      inMask checks.registrationId msg.validRegistrationsMask = true := by
    rw [inMask_eq_testBit inside]
    unfold Entry.HasBit Entry.id registrationId
    rw [registration]
    constructor
    · intro ⟨msg', reports', request', set⟩
      rw [isRequest] at request'
      cases request'
      exact set
    · intro set
      exact ⟨msg, reports, isRequest, set⟩
  have accepted : Accepted trace entry ↔ (checks.firstRequest = true ∨
      inMask checks.registrationId msg.validRegistrationsMask = true) := by
    rw [← hasBit, sound.first]
    exact ⟨fun accepted => accepted.2, fun accepted => ⟨handled, accepted⟩⟩
  obtain ⟨answer, result, sameRequest, sameId⟩ :=
    armingCheckRequest_registered maxEvents isRegistered msg reports
  obtain ⟨rfl, rfl⟩ := Prod.mk.inj (same.trans result)
  have threw : entry.threw = false := by
    rw [request]
    exact alive
  constructor
  · constructor
    · rw [forall_append_not_handled]
      simp [handled]
    · exact kept_append sound.kept registration fun _ => rfl
    · intro other member isThrown
      cases List.mem_append.mp member with
      | inl old => simp [sound.running alive other old] at isThrown
      | inr new =>
          cases List.mem_singleton.mp new
          simp [threw] at isThrown
    · intro _
      rw [unanswered_append noTick, ← sound.triggered alive, accepted]
      simp
  · constructor
    · intro isTick
      exact absurd isTick noTick
    · intro _
      exact threw
    · intro msg' reports' request' _
      rw [isRequest] at request'
      cases request'
      refine ⟨answer, by rw [request], sameRequest, ?_⟩
      rw [sameId, Entry.id, registration]
      rfl
    · exact sound.running alive
    · intro other member isRegistered
      exact registration.trans (sound.kept other member isRegistered)

/-- One event keeps the meaning of the flags. -/
theorem sound_step (sound : Sound (checks, trace))
    (handled : handle maxEvents checks event = some (next, reply))
    (inside : checks.registration.registered = true → checks.registrationId < 32) :
    Sound (next, trace ++ [⟨event, checks.registration, reply, next.shutdown⟩]) ∧
      Correct trace ⟨event, checks.registration, reply, next.shutdown⟩ := by
  obtain ⟨alive, cases⟩ := handle_cases handled
  obtain ⟨rfl, rfl⟩ | ⟨msg, reports, rfl, same⟩ |
    ⟨noTick, noRequest, stays, sameTriggered, sameRegistered, sameFirst⟩ := cases
  · exact sound_tick sound alive rfl
  · cases isRegistered : checks.registration.registered with
    | true => exact sound_handled sound alive isRegistered (inside isRegistered) same rfl
    | false =>
        have unchanged : armingCheckRequest checks maxEvents msg reports = (checks, none) := by
          unfold armingCheckRequest
          rw [if_neg (by simp [isRegistered])]
        obtain ⟨rfl, rfl⟩ := Prod.mk.inj (same.trans unchanged)
        refine sound_quiet sound alive rfl (by simp) ?_ alive rfl
          (fun _ => ⟨rfl, rfl⟩) (.inl rfl)
        intro requested
        exact absurd requested.1 (by simp [Entry.registered, isRegistered])
  · refine sound_quiet sound alive rfl noTick ?_ stays sameTriggered sameRegistered sameFirst
    intro ⟨_, msg, reports, request⟩
    exact noRequest msg reports request

theorem run_append : run maxEvents (events ++ [event]) =
    (run maxEvents events).bind (step maxEvents · event) := by
  simp [run, List.foldlM_append]

/-- Every event of a run is handled correctly. -/
theorem run_correct (ran : run maxEvents events = some (checks, trace))
    (inside : ∀ entry ∈ trace, entry.registered → entry.id < 32) :
    Sound (checks, trace) ∧
      ∀ before entry after, trace = before ++ entry :: after → Correct before entry := by
  induction events using List.reverseRecOn generalizing checks trace with
  | nil =>
      cases ran
      exact ⟨sound_initial, by simp⟩
  | append_singleton events event ih =>
      rw [run_append] at ran
      obtain ⟨⟨checks, trace⟩, ranBefore, stepped⟩ := Option.bind_eq_some_iff.mp ran
      obtain ⟨⟨next, reply⟩, handled, same⟩ := Option.map_eq_some_iff.mp stepped
      cases same
      have insideBefore : ∀ entry ∈ trace, entry.registered → entry.id < 32 :=
        fun entry member => inside entry (List.mem_append_left _ member)
      obtain ⟨sound, correct⟩ := ih ranBefore insideBefore
      have insideNow := inside _ (List.mem_append_right _ (List.mem_singleton_self _))
      obtain ⟨soundNext, correctNow⟩ := sound_step sound handled insideNow
      exact ⟨soundNext, Lib.forall_snoc.mpr ⟨correct, correctNow⟩⟩

/-! ### The watchdog -/

structure WatchdogAccuracy (trace : List Entry) : Prop where
  throws : ∀ before entry after, trace = before ++ entry :: after →
    (entry.threw = true ↔ entry.event = .tick ∧ entry.registered ∧ Unanswered before)
  /-- A shutdown is the end of a run. -/
  ends : ∀ before entry after, trace = before ++ entry :: after → entry.threw = true → after = []
  /-- A component that is shut down was registered at a tick before. -/
  patient : ∀ before entry after, trace = before ++ entry :: after → entry.threw = true →
    ∃ tick ∈ before, tick.event = .tick ∧ tick.registered
  /-- An orphan is shut down at the second tick. -/
  orphan : ∀ before first between second after,
    trace = before ++ first :: (between ++ second :: after) →
    first.event = .tick → second.event = .tick → (∀ entry ∈ between, entry.event ≠ .tick) →
    (∃ entry ∈ before, entry.Handled) → (∀ entry ∈ between, ¬ entry.HasBit) →
    second.threw = true
  answered : ∀ entry ∈ trace, ∀ msg reports, entry.event = .request msg reports →
    entry.registered → ∃ reply, entry.reply = some reply ∧ reply.requestId = msg.requestId ∧
      reply.registrationId = entry.id

/-- A tick throws exactly when the component was registered at the tick before and no request was
accepted in between. -/
theorem watchdog_accuracy (ran : run maxEvents events = some (checks, trace))
    (inside : ∀ entry ∈ trace, entry.registered → entry.id < 32) : WatchdogAccuracy trace := by
  obtain ⟨-, correct⟩ := run_correct ran inside
  have throws : ∀ before entry after, trace = before ++ entry :: after →
      (entry.threw = true ↔ entry.event = .tick ∧ entry.registered ∧ Unanswered before) := by
    intro before entry after shape
    have known := correct before entry after shape
    constructor
    · intro threw
      have isTick : entry.event = .tick := by
        by_contra noTick
        simp [known.onlyTicks noTick] at threw
      exact ⟨isTick, (known.throws isTick).mp threw⟩
    · intro ⟨isTick, unanswered⟩
      exact (known.throws isTick).mpr unanswered
  constructor
  · exact throws
  · intro before entry after shape threw
    cases after with
    | nil => rfl
    | cons other after =>
        have known := correct (before ++ [entry]) other after (by simp [shape])
        simp [known.running entry (by simp)] at threw
  · intro before entry after shape threw
    obtain ⟨-, -, earlier, tick, between, rfl, isTick, registered, -⟩ :=
      (throws before entry after shape).mp threw
    exact ⟨tick, by simp, isTick, registered⟩
  · intro before first between second after shape isFirst isSecond quiet handled cleared
    obtain ⟨request, member, handled⟩ := handled
    have place : trace = (before ++ first :: between) ++ second :: after := by simp [shape]
    have same := (correct before first _ shape).kept request member handled.1
    have same' := (correct _ second after place).kept request (by simp [member]) handled.1
    have registered : first.registered := by
      rw [Entry.registered, same]
      exact handled.1
    have registered' : second.registered := by
      rw [Entry.registered, same']
      exact handled.1
    refine (throws _ second after place).mpr ⟨isSecond, registered', ?_⟩
    refine ⟨before, first, between, rfl, isFirst, registered, quiet, ?_⟩
    intro earlier entry later inBetween accepted
    cases accepted.2 with
    | inl unhandled => exact unhandled request (by simp [member]) handled
    | inr hasBit => exact cleared entry (by simp [inBetween]) hasBit
  · intro entry member msg reports request registered
    obtain ⟨before, after, shape⟩ := List.append_of_mem member
    exact (correct before entry after shape).answered msg reports request registered

/-- The flight controller reboots after the second request. -/
def reboot : List Event :=
  [.request ⟨0, 0⟩ [], .tick,
    .overrideRegistration
      { registered := true, unregisterExtComponent := { armingCheckId := 3 } },
    .tick, .request ⟨1, 0⟩ [.setHealth 2 true false false], .tick, .request ⟨2, 8⟩ [], .tick,
    .request ⟨3, 0⟩ [], .tick]

theorem watchdog_accuracy_reboot :
    ∃ checks trace, run 5 reboot = some (checks, trace) ∧ trace.map (·.threw) =
      [false, false, false, false, false, false, false, false, false, true] ∧
      WatchdogAccuracy trace := by
  have ran : run 5 reboot = some ((run 5 reboot).get rfl) := rfl
  refine ⟨_, _, ran, rfl, watchdog_accuracy ran ?_⟩
  intro entry member registered
  simp only [List.nil_append, List.cons_append, List.mem_cons, List.not_mem_nil, or_false] at member
  obtain rfl | rfl | rfl | rfl | rfl | rfl | rfl | rfl | rfl | rfl := member <;> decide

end Px4Ros2.HealthAndArmingChecks
