import Px4Ros2.Lib.Machine
import Px4Ros2.Lib.OrderedMap
import Px4Ros2.Lib.SearchTree
import Mathlib.Data.String.Basic

/-! The registry of `SharedSubscription`: one static map for all nodes and topics, with the
instances it owns and the callback handles of the program. -/

set_option autoImplicit false

namespace Px4Ros2

open Lib

/-- An instance, with its `_callbacks`. -/
structure SharedSubscription (Callback : Type) where
  node : Nat
  topicName : String
  nextToken : Nat := 1
  callbacks : OrderedMap Nat Callback := .empty

namespace SharedSubscription

structure Key where
  /-- The address of the node. -/
  node : Nat
  topicName : String
deriving DecidableEq, Repr

/-- `Key::operator<`. -/
def Key.less (key other : Key) : Bool :=
  key.node < other.node || key.topicName < other.topicName

/-- `SharedSubscriptionCallbackInstance`, with the key it was asked for. -/
structure CallbackInstance where
  key : Key
  /-- The instance that its deleter refers to. -/
  instance_ : Nat
  token : Nat
deriving DecidableEq, Repr

structure Registry (Callback : Type) where
  /-- The static map, from keys to addresses of instances. -/
  instances : SearchTree (Key × Nat) := .leaf
  /-- The instances that exist. -/
  objects : OrderedMap Nat (SharedSubscription Callback) := .empty
  /-- The next address. -/
  allocated : Nat := 0
  /-- The handles that the program holds. -/
  handles : List CallbackInstance := []
  assertionFailed : Bool := false
  /-- A reference was used after its instance was destroyed. -/
  danglingUse : Bool := false

inductive Call (Callback : Type) where
  | instance_ (key : Key)
  | create (key : Key) (callback : Callback)
  /-- The handle at this position is destroyed. -/
  | destroy (index : Nat)

variable {Callback : Type}

namespace Registry

def find? (registry : Registry Callback) (key : Key) : Option (Key × Nat) :=
  registry.instances.find? Key.less key

/-- A shared pointer to this instance goes away, and the instance with it unless it is
registered. -/
def release (registry : Registry Callback) (address : Nat) : Registry Callback :=
  if registry.instances.toList.any (·.2 == address) then registry
  else { registry with objects := registry.objects.erase address }

/-- `SharedSubscription::instance`, with the instance that the reference is to. -/
def instance_ (balancing : SearchTree.Balancing (Key × Nat)) (registry : Registry Callback)
    (key : Key) : Registry Callback × Nat :=
  match registry.find? key with
  | some entry => (registry, entry.2)
  | none =>
      let address := registry.allocated
      let registry :=
        { registry with
          allocated := address + 1
          objects := registry.objects.insert address
            { node := key.node, topicName := key.topicName } }
      let registry :=
        { registry with
          instances := registry.instances.emplace balancing Key.less (key, address) }
      (registry.release address, address)

def registerOnUpdateCallback (registry : Registry Callback) (key : Key) (address : Nat)
    (callback : Callback) : Registry Callback :=
  match registry.objects.find? address with
  | none => { registry with danglingUse := true }
  | some subscription =>
      let token := subscription.nextToken
      let taken := (subscription.callbacks.find? token).isSome
      let subscription :=
        { subscription with
          nextToken := (token + 1) % 2 ^ 32
          callbacks :=
            if taken then subscription.callbacks else subscription.callbacks.insert token callback }
      { registry with
        objects := registry.objects.insert address subscription
        handles := registry.handles ++ [⟨key, address, token⟩]
        assertionFailed := registry.assertionFailed || taken }

def create (balancing : SearchTree.Balancing (Key × Nat)) (registry : Registry Callback)
    (key : Key) (callback : Callback) : Registry Callback :=
  let found := registry.instance_ balancing key
  found.1.registerOnUpdateCallback key found.2 callback

def unregisterOnUpdateCallback (registry : Registry Callback) (address : Nat)
    (subscription : SharedSubscription Callback) (token : Nat) : Registry Callback :=
  { registry with
    objects := registry.objects.insert address
      { subscription with callbacks := subscription.callbacks.erase token }
    assertionFailed :=
      registry.assertionFailed || (subscription.callbacks.find? token).isNone }

def cleanupInstanceIfUnused (balancing : SearchTree.Balancing (Key × Nat))
    (registry : Registry Callback) (address : Nat) : Registry Callback :=
  match registry.objects.find? address with
  | none => registry
  | some subscription =>
      if subscription.callbacks.entries.isEmpty then
        { registry with
          instances := balancing.erase (·.2 == address) registry.instances }
      else registry

/-- The deleter of a handle, which locks the instance while it runs. -/
def deleter (balancing : SearchTree.Balancing (Key × Nat)) (registry : Registry Callback)
    (handle : CallbackInstance) : Registry Callback :=
  match registry.objects.find? handle.instance_ with
  | none => registry
  | some subscription =>
      ((registry.unregisterOnUpdateCallback handle.instance_ subscription handle.token
        ).cleanupInstanceIfUnused balancing handle.instance_).release handle.instance_

def apply (balancing : SearchTree.Balancing (Key × Nat)) (registry : Registry Callback) :
    Call Callback → Option (Registry Callback)
  | .instance_ key => some (registry.instance_ balancing key).1
  | .create key callback => some (registry.create balancing key callback)
  | .destroy index =>
      registry.handles[index]?.map fun handle =>
        { registry with handles := registry.handles.eraseIdx index }.deleter balancing handle

/-- A call is one step: nothing is left pending. -/
def machine (balancing : SearchTree.Balancing (Key × Nat)) :
    Machine (Registry Callback) Empty (Call Callback) where
  exec _ task _ := nomatch task
  idle registry call := (registry.apply balancing call).map fun after => (after, [])

def initial : Config (Registry Callback) Empty := ⟨{}, []⟩

end Registry

end SharedSubscription

end Px4Ros2
