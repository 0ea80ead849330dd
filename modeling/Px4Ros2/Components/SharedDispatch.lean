import Px4Ros2.Components.SubscriptionRegistry
import Px4Ros2.Lib.History

/-! `SharedSubscription::onUpdate` while its callbacks register callbacks and destroy handles: the
range-for keeps an iterator into a map that the callbacks change. -/

set_option autoImplicit false

namespace Px4Ros2

open Lib

namespace SharedSubscription

/-- The element of `_callbacks` of an instance with this token. -/
@[ext] structure CallbackId where
  /-- The address of the instance. -/
  instance_ : Nat
  token : Nat
deriving DecidableEq, Repr

def CallbackInstance.callback (handle : CallbackInstance) : CallbackId :=
  ⟨handle.instance_, handle.token⟩

namespace Registry

variable {Callback : Type}

def hasCallback (registry : Registry Callback) (callback : CallbackId) : Bool :=
  (registry.objects.find? callback.instance_).any fun subscription =>
    (subscription.callbacks.find? callback.token).isSome

/-- `_callbacks.begin()` -/
def firstCallback (registry : Registry Callback) (address : Nat) : Option CallbackId :=
  (registry.objects.find? address).bind fun subscription =>
    subscription.callbacks.first?.map fun token => ⟨address, token⟩

/-- The element after this one. -/
def nextCallback (registry : Registry Callback) (callback : CallbackId) : Option CallbackId :=
  (registry.objects.find? callback.instance_).bind fun subscription =>
    (subscription.callbacks.next? callback.token).map fun token => ⟨callback.instance_, token⟩

end Registry

/-- An iterator is valid until its element is erased. -/
structure Iterator where
  callback : CallbackId
  valid : Bool := true
deriving DecidableEq, Repr

/-- The registry with the dispatch that is running, if any. -/
structure Dispatch (Callback : Type) where
  registry : Registry Callback := {}
  /-- Where the range-for of `onUpdate` is; `none` is the end. -/
  iterator : Option Iterator := none
  /-- The loop went on from an erased element or in a destroyed instance. -/
  invalidUse : Bool := false

namespace Dispatch

inductive Task where
  /-- The head of the loop. -/
  | onUpdate
  /-- A callback runs. -/
  | callback
  /-- `++` on the iterator. -/
  | advance
deriving DecidableEq, Repr

inductive Input (Callback : Type) where
  | proceed
  | call (call : Call Callback)
  /-- `registerOnUpdateCallback` of an instance that the user has a reference to. -/
  | register (key : Key) (address : Nat) (callback : Callback)
  /-- A message for this instance. -/
  | message (address : Nat)
  /-- The callback returns. -/
  | return_

abbrev Config (Callback : Type) := Lib.Config (Dispatch Callback) Task

variable {Callback : Type}

/-- The registry changed: an iterator to an element that is gone is not valid any more. -/
def setRegistry (dispatch : Dispatch Callback) (registry : Registry Callback) :
    Dispatch Callback :=
  { dispatch with
    registry := registry
    iterator := dispatch.iterator.map fun iterator =>
      { iterator with valid := iterator.valid && registry.hasCallback iterator.callback } }

/-- What the user can do at any time, also in a callback. -/
def user (balancing : SearchTree.Balancing (Key × Nat)) (registry : Registry Callback) :
    Input Callback → Option (Registry Callback)
  | .call call => registry.apply balancing call
  | .register key address callback =>
      if (registry.objects.find? address).isSome then
        some (registry.registerOnUpdateCallback key address callback)
      else none
  | _ => none

/-- The head of the loop of `onUpdate`. -/
def onUpdate (dispatch : Dispatch Callback) : Dispatch Callback × List Task :=
  match dispatch.iterator with
  | none => (dispatch, [])
  | some _ => (dispatch, [.callback, .advance])

/-- The behaviour of the code ends with an increment that is not defined. -/
def advance (dispatch : Dispatch Callback) : Dispatch Callback × List Task :=
  match dispatch.iterator with
  | none => (dispatch, [])
  | some iterator =>
      if iterator.valid then
        ({ dispatch with
            iterator := (dispatch.registry.nextCallback iterator.callback).map fun callback =>
              { callback } },
          [.onUpdate])
      else ({ dispatch with iterator := none, invalidUse := true }, [])

def exec (balancing : SearchTree.Balancing (Key × Nat)) (dispatch : Dispatch Callback) :
    Task → Input Callback → Option (Dispatch Callback × List Task)
  | .onUpdate, .proceed => some dispatch.onUpdate
  | .callback, .return_ => some (dispatch, [])
  | .callback, input =>
      (user balancing dispatch.registry input).map fun registry =>
        (dispatch.setRegistry registry, [.callback])
  | .advance, .proceed => some dispatch.advance
  | _, _ => none

/-- A message reaches `onUpdate` as long as its instance, and with it the subscription, exists. -/
def idle (balancing : SearchTree.Balancing (Key × Nat)) (dispatch : Dispatch Callback) :
    Input Callback → Option (Dispatch Callback × List Task)
  | .message address =>
      if (dispatch.registry.objects.find? address).isSome then
        some ({ dispatch with
            iterator := (dispatch.registry.firstCallback address).map fun callback =>
              { callback } },
          [.onUpdate])
      else none
  | input =>
      (user balancing dispatch.registry input).map fun registry =>
        (dispatch.setRegistry registry, [])

def machine (balancing : SearchTree.Balancing (Key × Nat)) :
    Machine (Dispatch Callback) Task (Input Callback) where
  exec := exec balancing
  idle := idle balancing

/-- The callback that this call registers. -/
def registering (balancing : SearchTree.Balancing (Key × Nat)) (registry : Registry Callback) :
    Input Callback → Option CallbackId
  | .call (.create key _) =>
      let found := registry.instance_ balancing key
      (found.1.objects.find? found.2).map fun subscription => ⟨found.2, subscription.nextToken⟩
  | .register _ address _ =>
      (registry.objects.find? address).map fun subscription => ⟨address, subscription.nextToken⟩
  | _ => none

/-- The callback whose handle is destroyed. -/
def unregistering (registry : Registry Callback) : Input Callback → Option CallbackId
  | .call (.destroy index) => registry.handles[index]?.map CallbackInstance.callback
  | _ => none

/-- What happened to the callbacks, since the start and in the latest dispatch. -/
structure History where
  /-- All callbacks that were ever registered, in this order. -/
  registered : List CallbackId := []
  /-- Those of the instance that were registered when the dispatch started. -/
  started : List CallbackId := []
  invoked : List CallbackId := []
  /-- Those that were unregistered in the dispatch before they were invoked. -/
  dropped : List CallbackId := []
deriving DecidableEq, Repr

namespace History

def register (history : History) (callback : Option CallbackId) : History :=
  { history with registered := history.registered ++ callback.toList }

def unregister (history : History) (callback : Option CallbackId) : History :=
  { history with
    dropped := history.dropped ++ callback.toList.filter (· ∉ history.invoked) }

def start (history : History) (registry : Registry Callback) (address : Nat) : History :=
  { history with
    started := history.registered.filter fun callback =>
      callback.instance_ == address && registry.hasCallback callback
    invoked := []
    dropped := [] }

end History

def recorder (balancing : SearchTree.Balancing (Key × Nat)) :
    Recorder (Dispatch Callback) Task (Input Callback) History where
  event history dispatch input :=
    match input with
    | .message address => history.start dispatch.registry address
    | input => history.register (registering balancing dispatch.registry input)
  task history dispatch task input :=
    match task with
    | .onUpdate =>
        { history with
          invoked := history.invoked ++ dispatch.iterator.toList.map (·.callback) }
    | .callback =>
        (history.register (registering balancing dispatch.registry input)).unregister
          (unregistering dispatch.registry input)
    | .advance => history

def initial : Lib.Config (Recorded (Dispatch Callback) History) Task := ⟨⟨{}, {}⟩, []⟩

end Dispatch

end SharedSubscription

end Px4Ros2
