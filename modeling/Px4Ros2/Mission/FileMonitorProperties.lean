import Px4Ros2.Mission.FileMonitor

/-! No completed update of the mission file is lost, in any order of the parties' steps. -/

set_option autoImplicit false

namespace Px4Ros2.MissionFileMonitor

open Lib

variable {Content : Type} {config : MissionFileMonitorConfig Content}
  {state next : State Content} {events : List InotifyEvent} {event : InotifyEvent}

/-! ### The buffer of events -/

theorem length_name_le_len (event : InotifyEvent) : event.name.length ≤ event.len := by
  simp only [InotifyEvent.len, InotifyEvent.headerSize]
  split
  · simp_all
  · omega

theorem length_name_lt_len (named : event.name ≠ []) : event.name.length < event.len := by
  simp only [InotifyEvent.len, named, if_false, InotifyEvent.headerSize]
  omega

theorem len_le (event : InotifyEvent) : event.len ≤ 256 := by
  have short := event.short
  simp only [InotifyEvent.len, InotifyEvent.headerSize]
  split <;> omega

theorem len_eq_zero : event.len = 0 ↔ event.name = [] := by
  by_cases named : event.name = []
  · simp [InotifyEvent.len, named]
  · have positive := length_name_lt_len named
    simp only [named, iff_false]
    omega

@[simp] theorem length_bytes (event : InotifyEvent) :
    event.bytes.length = InotifyEvent.headerSize + event.len := by
  have fits := length_name_le_len event
  simp only [InotifyEvent.bytes, List.length_append, length_littleEndian, List.length_replicate,
    InotifyEvent.headerSize]
  omega

/-- Whether an event is about the file. -/
def Concerns (config : MissionFileMonitorConfig Content) (watch : Option UInt32)
    (event : InotifyEvent) : Prop :=
  watch = some event.wd ∧ event.name = config.filename

/-- A name ends before the zeros that fill its field, whatever follows. -/
theorem cString_name (named : event.name ≠ []) (rest : List UInt8) :
    cString ((event.name ++ List.replicate (event.len - event.name.length) 0) ++ rest) =
      event.name := by
  have longer := length_name_lt_len named
  obtain ⟨zeros, padding⟩ : ∃ zeros, event.len - event.name.length = zeros + 1 :=
    ⟨event.len - event.name.length - 1, by omega⟩
  have all : ∀ byte ∈ event.name, (byte != 0) = true := by
    intro byte member
    have nonzero : byte ≠ 0 := fun zero => event.noZero (zero ▸ member)
    simpa using nonzero
  rw [padding, List.replicate_succ, List.append_assoc, cString,
    List.takeWhile_append_of_pos all]
  simp

/-- The loop reads an event of the buffer back, and goes on behind it. -/
theorem handleEvent_bytes (named : config.filename ≠ []) (wd : UInt32) (rest : List UInt8) :
    handleEvent config wd (event.bytes ++ rest) =
      (decide (event.wd = wd ∧ event.name = config.filename), rest) := by
  have len := len_le event
  have wdFits : event.wd.toNat < 256 ^ 4 := event.wd.toNat_lt
  have lenFits : event.len < 256 ^ 4 := by omega
  have whole : (event.bytes ++ rest).drop (InotifyEvent.headerSize + event.len) = rest := by
    rw [← length_bytes event, List.drop_left]
  have wdField : ofLittleEndian ((event.bytes ++ rest).take 4) = event.wd.toNat := by
    simp only [InotifyEvent.bytes, List.append_assoc]
    exact ofLittleEndian_take wdFits
  have field : (event.bytes ++ rest).drop 12 = littleEndian 4 event.len ++
      ((event.name ++ List.replicate (event.len - event.name.length) 0) ++ rest) := by
    have split : (12 : Nat) = 4 + (4 + 4) := rfl
    simp only [InotifyEvent.bytes, List.append_assoc, split, ← List.drop_drop, littleEndian_drop]
  have lenField : ofLittleEndian (((event.bytes ++ rest).drop 12).take 4) = event.len := by
    rw [field]
    exact ofLittleEndian_take lenFits
  have nameField : (event.bytes ++ rest).drop InotifyEvent.headerSize =
      (event.name ++ List.replicate (event.len - event.name.length) 0) ++ rest := by
    have split : InotifyEvent.headerSize = 12 + 4 := rfl
    rw [split, ← List.drop_drop, field, littleEndian_drop]
  simp only [handleEvent, lenField, wdField, nameField, whole, Prod.mk.injEq, and_true,
    decide_eq_decide]
  by_cases empty : event.name = []
  · have zero := len_eq_zero.mpr empty
    simp [zero, empty, Ne.symm named]
  · have nonzero : event.len ≠ 0 := fun zero => empty (len_eq_zero.mp zero)
    rw [cString_name empty]
    simp only [ne_eq, nonzero, not_false_eq_true, true_and, UInt32.toNat_inj]
    exact and_congr eq_comm eq_comm

theorem fill_append (room : Nat) (events : List InotifyEvent) :
    (fill room events).1 ++ (fill room events).2 = events := by
  induction events generalizing room with
  | nil => rfl
  | cons event events ih =>
      simp only [fill]
      split
      · simp [ih]
      · rfl

/-! ### What is still to come -/

/-- The watch is being set up. -/
def Thread.Early (thread : Thread) : Prop :=
  thread = .started ∨ thread = .initialised ∨ thread = .watching

/-- Something that makes the node read the file, from now on. -/
inductive Pending (config : MissionFileMonitorConfig Content) (state : State Content) : Prop where
  | early (early : state.thread.Early)
  | queued (event : InotifyEvent) (member : event ∈ state.queue)
      (concerns : Concerns config state.watch event)
  | buffered (events : List InotifyEvent)
      (handling : state.thread = .handling (events.flatMap InotifyEvent.bytes))
      (event : InotifyEvent) (member : event ∈ events)
      (concerns : Concerns config state.watch event)
  | timer (armed : state.updateTimer = true)
  | fired (fired : state.callback = .fired)
  | opening (opening : state.callback = .opening)

/-- The node has read the file as it is, or is reading it undisturbed. -/
def UpToDate (state : State Content) : Prop :=
  ∀ content, state.file = some content →
    state.callback = .loading (some content) false ∨
      state.callback = .idle ∧ state.lastRead = some (some content)

/-- The text of a mission file. -/
def decode (config : MissionFileMonitorConfig Content) (seen : Option Content) : Option Mission :=
  (seen.bind config.parse).bind Mission.fromJson

structure Monitored (config : MissionFileMonitorConfig Content) (state : State Content) :
    Prop where
  buffer : ∀ rest, state.thread = .handling rest →
    ∃ events : List InotifyEvent, rest = events.flatMap InotifyEvent.bytes
  reads : state.thread = .reading → state.queue ≠ []
  unlost : state.complete = true → state.thread ≠ .exited → state.watch.isSome →
    Pending config state ∨ UpToDate state
  handed : ∀ seen mission, state.lastRead = some seen → decode config seen = some mission →
    state.updates.getLast? = some mission

theorem Pending.mono (pending : Pending config state) (thread : next.thread = state.thread)
    (queue : ∀ event ∈ state.queue, event ∈ next.queue) (watch : next.watch = state.watch)
    (timer : state.updateTimer = true → next.updateTimer = true)
    (fired : state.callback = .fired → next.callback = .fired)
    (opening : state.callback = .opening → next.callback = .opening) : Pending config next := by
  cases pending with
  | early early => exact .early (thread ▸ early)
  | queued event member concerns => exact .queued event (queue event member) (watch ▸ concerns)
  | buffered events handling event member concerns =>
      exact .buffered events (thread ▸ handling) event member (watch ▸ concerns)
  | timer armed => exact .timer (timer armed)
  | fired isFired => exact .fired (fired isFired)
  | opening isOpening => exact .opening (opening isOpening)

/-! ### The kernel's queue -/

theorem enqueue_cases (state : State Content) (event : InotifyEvent) :
    ∃ added, enqueue state event = { state with queue := state.queue ++ added } := by
  simp only [enqueue]
  split
  · exact ⟨[], by simp⟩
  · exact ⟨[event], rfl⟩

theorem Pending.enqueue (pending : Pending config state) (event : InotifyEvent) :
    Pending config (enqueue state event) := by
  obtain ⟨added, shape⟩ := enqueue_cases state event
  rw [shape]
  exact pending.mono rfl (fun _ member => List.mem_append_left _ member) rfl id id id

/-- An event leaves everything but the queue as it is. -/
theorem Monitored.enqueue (monitored : Monitored config state) (event : InotifyEvent) :
    Monitored config (enqueue state event) := by
  obtain ⟨added, shape⟩ := enqueue_cases state event
  have kept := fun pending : Pending config state => pending.enqueue event
  rw [shape] at kept ⊢
  exact
    { buffer := monitored.buffer
      reads := fun reading empty => monitored.reads reading (List.append_eq_nil_iff.mp empty).1
      unlost := fun complete running watched =>
        (monitored.unlost complete running watched).imp kept id
      handed := monitored.handed }

/-- A change that is not complete yet. -/
theorem Monitored.change (monitored : Monitored config state)
    (kept : next = { state with
      file := next.file, complete := false, callback := next.callback }) :
    Monitored config next := by
  rw [kept]
  exact
    { buffer := monitored.buffer
      reads := monitored.reads
      unlost := nofun
      handed := monitored.handed }

/-- A step of the thread before it looks at the buffer, or after. -/
theorem Monitored.advance (monitored : Monitored config state) (thread : Thread)
    (buffer : ∀ rest, thread ≠ .handling rest)
    (reads : thread = .reading → state.queue ≠ [])
    (timer : Bool) (watch : Option UInt32)
    (unlost : state.complete = true → thread ≠ .exited → watch.isSome →
      Pending config { state with thread, watch, updateTimer := timer } ∨ UpToDate state) :
    Monitored config { state with thread, watch, updateTimer := timer } where
  buffer := fun rest handling => absurd handling (buffer rest)
  reads := reads
  unlost := unlost
  handed := monitored.handed

theorem Monitored.exists (monitored : Monitored config state) :
    Monitored config { state with
      updateTimer := state.updateTimer || state.file.isSome, thread := .polling } := by
  refine monitored.advance .polling nofun nofun _ _ fun _ _ _ => ?_
  cases found : state.file with
  | none => exact .inr fun content present => by simp [found] at present
  | some content => exact .inl (.timer (by simp))

theorem Monitored.poll (monitored : Monitored config state) (polling : state.thread = .polling)
    (ready : state.queue ≠ []) : Monitored config { state with thread := .reading } := by
  refine monitored.advance .reading nofun (fun _ => ready) _ _ fun complete _ watched => ?_
  refine (monitored.unlost complete (by simp [polling]) watched).imp_left fun pending => ?_
  cases pending with
  | early early => simp [Thread.Early, polling] at early
  | queued event member concerns => exact .queued event member concerns
  | buffered events handling => simp [polling] at handling
  | timer armed => exact .timer armed
  | fired fired => exact .fired fired
  | opening opening => exact .opening opening

/-- What was in the queue is in the buffer or still in the queue. -/
theorem Monitored.read (monitored : Monitored config state) (reading : state.thread = .reading) :
    Monitored config { state with
      queue := (fill kBufLen state.queue).2
      thread := .handling ((fill kBufLen state.queue).1.flatMap InotifyEvent.bytes) } where
  buffer := fun rest handling => ⟨_, (Thread.handling.inj handling).symm⟩
  reads := nofun
  handed := monitored.handed
  unlost := by
    intro complete _ watched
    refine (monitored.unlost complete (by simp [reading]) watched).imp_left fun pending => ?_
    cases pending with
    | early early => simp [Thread.Early, reading] at early
    | queued event member concerns =>
        rw [← fill_append kBufLen state.queue, List.mem_append] at member
        obtain taken | left := member
        · exact .buffered _ rfl event taken concerns
        · exact .queued event left concerns
    | buffered events handling => simp [reading] at handling
    | timer armed => exact .timer armed
    | fired fired => exact .fired fired
    | opening opening => exact .opening opening

/-- An event about the file arms the timer, the others leave what is pending. -/
theorem Monitored.handle (monitored : Monitored config state) (named : config.filename ≠ [])
    (handling : state.thread = .handling (event.bytes ++ events.flatMap InotifyEvent.bytes)) :
    Monitored config { state with
      updateTimer := state.updateTimer ||
        decide (event.wd = wd state ∧ event.name = config.filename)
      thread := .handling (events.flatMap InotifyEvent.bytes) } where
  buffer := fun rest others => ⟨_, (Thread.handling.inj others).symm⟩
  reads := nofun
  handed := monitored.handed
  unlost := by
    intro complete _ watched
    refine (monitored.unlost complete (by simp [handling]) watched).imp_left fun pending => ?_
    cases pending with
    | early early => simp [Thread.Early, handling] at early
    | queued event member concerns => exact .queued event member concerns
    | buffered all others concerned member concerns =>
        have same := Thread.handling.inj (handling.symm.trans others)
        cases all with
        | nil => simp at member
        | cons first all =>
            -- both are read by the same loop
            have visited := congrArg (handleEvent config (wd state)) same
            rw [List.flatMap_cons, handleEvent_bytes named, handleEvent_bytes named,
              Prod.mk.injEq] at visited
            obtain rfl | later := List.mem_cons.mp member
            · have about : concerned.wd = wd state ∧ concerned.name = config.filename :=
                ⟨by simp [wd, concerns.1], concerns.2⟩
              refine .timer ?_
              simp [visited.1, about]
            · exact .buffered all (congrArg Thread.handling visited.2) concerned later concerns
    | timer armed => exact .timer (by simp [armed])
    | fired fired => exact .fired fired
    | opening opening => exact .opening opening

theorem Monitored.fire (monitored : Monitored config state) (armed : state.updateTimer = true) :
    Monitored config { state with callback := .fired } where
  buffer := monitored.buffer
  reads := monitored.reads
  unlost := fun _ _ _ => .inl (.timer armed)
  handed := monitored.handed

theorem Monitored.cancel (monitored : Monitored config state) :
    Monitored config { state with updateTimer := false, callback := .opening } where
  buffer := monitored.buffer
  reads := monitored.reads
  unlost := fun _ _ _ => .inl (.opening rfl)
  handed := monitored.handed

theorem Monitored.openFile (monitored : Monitored config state) :
    Monitored config { state with callback := .loading state.file false } where
  buffer := monitored.buffer
  reads := monitored.reads
  unlost := fun _ _ _ => .inr fun _ present => .inl (congrArg (Callback.loading · false) present)
  handed := monitored.handed

/-- A file that was read undisturbed is as it was when it was opened. -/
theorem Monitored.finish {opened : Option Content} {torn : Bool}
    (monitored : Monitored config state) (loading : state.callback = .loading opened torn)
    (disturbed : Option Content) :
    Monitored config (fileUpdated config state (if torn then disturbed else opened)) where
  buffer := monitored.buffer
  reads := monitored.reads
  unlost := by
    intro complete running watched
    refine (monitored.unlost complete running watched).imp (fun pending => ?_) fun upToDate => ?_
    · exact pending.mono rfl (fun _ member => member) rfl id (by simp [loading])
        (by simp [loading])
    · intro content present
      obtain undisturbed | ⟨idle, -⟩ := upToDate content present
      · rw [loading, Callback.loading.injEq] at undisturbed
        exact .inr ⟨rfl, by simp [fileUpdated, undisturbed]⟩
      · simp [loading] at idle
  handed := by
    intro seen mission read decoded
    obtain rfl := Option.some.inj read
    simp only [decode] at decoded
    simp [fileUpdated, decoded]

end Px4Ros2.MissionFileMonitor
