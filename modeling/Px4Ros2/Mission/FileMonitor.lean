import Px4Ros2.Lib.System
import Px4Ros2.Lib.LittleEndian
import Px4Ros2.Lib.CString
import Px4Ros2.Mission.Mission

/-! `MissionFileMonitor`: a thread of its own watches the directory of the mission file and arms a
timer of the node, whose callback reads the file. Other processes write the file meanwhile. -/

set_option autoImplicit false

namespace Px4Ros2

open Lib

/-- An event of `inotify`. The name of a directory entry fits `NAME_MAX`. -/
structure InotifyEvent where
  wd : UInt32
  mask : UInt32
  cookie : UInt32
  name : List UInt8
  short : name.length ≤ 255
  noZero : 0 ∉ name
deriving DecidableEq

namespace InotifyEvent

/-- `sizeof(inotify_event)`. -/
def headerSize : Nat := 16

/-- `len`: an event about the directory itself has no name, any other name ends with zeros. -/
def len (event : InotifyEvent) : Nat :=
  if event.name = [] then 0 else headerSize * (event.name.length / headerSize + 1)

def bytes (event : InotifyEvent) : List UInt8 :=
  littleEndian 4 event.wd.toNat ++ (littleEndian 4 event.mask.toNat ++
    (littleEndian 4 event.cookie.toNat ++ (littleEndian 4 event.len ++
      (event.name ++ List.replicate (event.len - event.name.length) 0))))

end InotifyEvent

/-- The name of the watched file, and how its text is parsed. -/
structure MissionFileMonitorConfig (Content : Type) where
  /-- `_filename.filename()`. -/
  filename : List UInt8
  parse : Content → Option Json

namespace MissionFileMonitor

inductive Thread where
  | started
  /-- `inotify_init` succeeded. -/
  | initialised
  /-- The watch is there, the file is looked for next. -/
  | watching
  | polling
  | reading
  /-- The events of the buffer from `i` on. -/
  | handling (rest : List UInt8)
  | exited
deriving DecidableEq

inductive Callback (Content : Type) where
  | idle
  /-- The timer fired. -/
  | fired
  | opening
  /-- What was there when the file was opened, and whether it was written since. -/
  | loading (opened : Option Content) (torn : Bool)
deriving DecidableEq

/-- `kBufLen`. -/
def kBufLen : Nat := 16 * (InotifyEvent.headerSize + 16)

structure State (Content : Type) where
  file : Option Content
  /-- Whether every change of the file was completed, by a close or by a rename. -/
  complete : Bool := true
  /-- The events that the kernel holds. -/
  queue : List InotifyEvent := []
  /-- The watch of the directory. -/
  watch : Option UInt32 := none
  /-- Whether `_event_fd` was written to. -/
  eventFd : Bool := false
  thread : Thread := .started
  updateTimer : Bool := false
  callback : Callback Content := .idle
  /-- What the last callback read. -/
  lastRead : Option (Option Content) := none
  /-- The missions given to `_on_mission_update`. -/
  updates : List Mission := []

inductive Action (Content : Type) where
  /-- Another process creates the file or writes to it. -/
  | modify (content : Content)
  | closeWrite (event : InotifyEvent)
  /-- Another file takes its place. -/
  | movedTo (content : Content) (event : InotifyEvent)
  | remove
  /-- Something about another file. -/
  | other (event : InotifyEvent)
  /-- The destructor wakes the thread up. -/
  | destroy
  | inotifyInit (succeeds : Bool)
  | inotifyAddWatch (wd : Option UInt32)
  | exists
  | poll (succeeds : Bool)
  | read (succeeds : Bool)
  | handle
  | fire
  | cancel
  | openFile
  /-- What a file looked like that was written meanwhile. -/
  | finish (disturbed : Option Content)

variable {Content : Type} (config : MissionFileMonitorConfig Content)

/-- `int wd`, -1 without a watch. -/
def wd (state : State Content) : UInt32 := state.watch.getD 0xffffffff

/-- The kernel merges an event with an equal one before it. -/
def enqueue (state : State Content) (event : InotifyEvent) : State Content :=
  if state.watch = none ∨ state.queue.getLast? = some event then state
  else { state with queue := state.queue ++ [event] }

/-- The events that the buffer has room for, and the others. -/
def fill : Nat → List InotifyEvent → List InotifyEvent × List InotifyEvent
  | _, [] => ([], [])
  | room, event :: events =>
      if InotifyEvent.headerSize + event.len ≤ room then
        let after := fill (room - (InotifyEvent.headerSize + event.len)) events
        (event :: after.1, after.2)
      else ([], event :: events)

/-- One round of the loop over the buffer: whether the event is about the file, and the rest. -/
def handleEvent (wd : UInt32) (buffer : List UInt8) : Bool × List UInt8 :=
  let len := ofLittleEndian ((buffer.drop 12).take 4)
  (decide (len ≠ 0 ∧ wd.toNat = ofLittleEndian (buffer.take 4) ∧
      config.filename = cString (buffer.drop InotifyEvent.headerSize)),
    buffer.drop (InotifyEvent.headerSize + len))

/-- `fileUpdated()`, which catches what parsing throws. -/
def fileUpdated (state : State Content) (seen : Option Content) : State Content :=
  { state with
    callback := .idle
    lastRead := some seen
    updates := state.updates ++
      ((seen.bind config.parse).bind Mission.fromJson).toList }

/-- The file changes, also under a callback that reads it. -/
def writeFile (state : State Content) (content : Option Content) : State Content :=
  { state with
    file := content
    complete := false
    callback :=
      match state.callback with
      | .loading opened _ => .loading opened true
      | other => other }

def step (state : State Content) : Action Content → Option (State Content)
  | .modify content => some (writeFile state (some content))
  | .closeWrite event =>
      if event.name = config.filename ∧ state.watch.all (event.wd == ·) then
        some (enqueue { state with complete := true } event)
      else none
  -- the old file stays as it is for a callback that has it open
  | .movedTo content event =>
      if event.name = config.filename ∧ state.watch.all (event.wd == ·) then
        some (enqueue { state with file := some content, complete := true } event)
      else none
  | .remove => some { state with file := none, complete := false }
  | .other event =>
      if event.name = config.filename then none else some (enqueue state event)
  | .destroy => some { state with eventFd := true }
  | .inotifyInit succeeds =>
      if state.thread = .started then
        some { state with thread := if succeeds then .initialised else .exited }
      else none
  | .inotifyAddWatch wd =>
      if state.thread = .initialised then some { state with watch := wd, thread := .watching }
      else none
  | .exists =>
      if state.thread = .watching then
        some { state with
          updateTimer := state.updateTimer || state.file.isSome
          thread := .polling }
      else none
  | .poll succeeds =>
      if state.thread = .polling then
        if !succeeds || state.eventFd then some { state with thread := .exited }
        else if state.queue = [] then none
        else some { state with thread := .reading }
      else none
  | .read succeeds =>
      if state.thread = .reading then
        let filled := fill kBufLen state.queue
        if succeeds then
          some { state with
            queue := filled.2
            thread := .handling (filled.1.flatMap InotifyEvent.bytes) }
        else some { state with thread := .exited }
      else none
  | .handle =>
      match state.thread with
      | .handling [] => some { state with thread := .polling }
      | .handling rest =>
          let handled := handleEvent config (wd state) rest
          some { state with
            updateTimer := state.updateTimer || handled.1
            thread := .handling handled.2 }
      | _ => none
  | .fire =>
      match state.callback with
      | .idle => if state.updateTimer then some { state with callback := .fired } else none
      | _ => none
  | .cancel =>
      match state.callback with
      | .fired => some { state with updateTimer := false, callback := .opening }
      | _ => none
  | .openFile =>
      match state.callback with
      | .opening => some { state with callback := .loading state.file false }
      | _ => none
  | .finish disturbed =>
      match state.callback with
      | .loading opened torn =>
          some (fileUpdated config state (if torn then disturbed else opened))
      | _ => none

def system : System (State Content) (Action Content) := ⟨step config⟩

end MissionFileMonitor

end Px4Ros2
