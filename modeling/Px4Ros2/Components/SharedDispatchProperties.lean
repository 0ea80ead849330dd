import Px4Ros2.Components.SharedDispatch
import Mathlib.Data.List.Sort

/-! A dispatch reaches every callback that is there when its turn comes, in the order of
registration, as long as no callback destroys its own handle. -/

set_option autoImplicit false

namespace Px4Ros2

open Lib

namespace SharedSubscription

variable {Callback : Type} {balancing : SearchTree.Balancing (Key × Nat)}

namespace Registry

variable {registry after : Registry Callback} {key : Key} {callback : Callback}
  {address : Nat} {current other : CallbackId} {subscription : SharedSubscription Callback}

theorem hasCallback_iff : registry.hasCallback current = true ↔
    ∃ subscription, registry.objects.find? current.instance_ = some subscription ∧
      (subscription.callbacks.find? current.token).isSome = true := by
  rw [hasCallback, Option.any_eq_true]

/-- What the registry has in common with the callbacks that were ever registered, whatever its keys
are compared by. -/
structure Logged (registered : List CallbackId) (registry : Registry Callback) : Prop where
  allocated : ∀ address, (registry.objects.find? address).isSome = true →
    address < registry.allocated
  rooted : ∀ address, (registry.objects.find? address).isSome = true →
    registry.instances.toList.any (·.2 == address) = true
  logged : ∀ callback, registry.hasCallback callback = true → callback ∈ registered
  held : ∀ handle ∈ registry.handles, handle.callback ∈ registered
  known : ∀ callback ∈ registered, callback.instance_ < registry.allocated
  /-- No token is used again before the counter wraps around. -/
  counted : ∀ address subscription, registry.objects.find? address = some subscription →
    subscription.nextToken ≠ 0 → subscription.nextToken < 2 ^ 32 ∧
      ∀ callback ∈ registered, callback.instance_ = address →
        callback.token < subscription.nextToken
  ascending : registered.Pairwise fun first second =>
    first.instance_ = second.instance_ → first.token < second.token

namespace Logged

variable {registered : List CallbackId}

theorem fresh (logged : Logged registered registry) :
    registry.objects.find? registry.allocated = none := by
  cases found : registry.objects.find? registry.allocated with
  | none => rfl
  | some subscription => exact absurd (logged.allocated _ (by simp [found])) (lt_irrefl _)

/-- `instance` adds at most an instance without callbacks, at an address of its own. -/
theorem instance_objects (logged : Logged registered registry)
    (balancing : SearchTree.Balancing (Key × Nat)) (key : Key) :
    (registry.instance_ balancing key).1.handles = registry.handles ∧
      registry.allocated ≤ (registry.instance_ balancing key).1.allocated ∧
      ∀ address,
        (registry.instance_ balancing key).1.objects.find? address =
            registry.objects.find? address ∨
          (address = registry.allocated ∧
            address < (registry.instance_ balancing key).1.allocated ∧
            (registry.instance_ balancing key).1.instances.toList.any (·.2 == address) = true ∧
            (registry.instance_ balancing key).1.objects.find? address =
              some { node := key.node, topicName := key.topicName }) := by
  cases found : registry.find? key with
  | some entry => simp [instance_, found]
  | none =>
      simp only [instance_, found, release]
      split
      · rename_i rooted
        refine ⟨rfl, Nat.le_succ _, ?_⟩
        intro address
        by_cases new : address = registry.allocated
        · subst new
          exact .inr ⟨rfl, Nat.lt_succ_self _, rooted, by simp⟩
        · exact .inl (by simp [new])
      · refine ⟨rfl, Nat.le_succ _, ?_⟩
        intro address
        by_cases new : address = registry.allocated
        · exact .inl (by simp [new, logged.fresh])
        · exact .inl (by simp [new])

theorem instance_instances (balancing : SearchTree.Balancing (Key × Nat)) (key : Key) :
    registry.instances.toList ⊆ (registry.instance_ balancing key).1.instances.toList := by
  cases found : registry.find? key with
  | some entry => simp [instance_, found]
  | none =>
      have grows := SearchTree.toList_subset_emplace balancing Key.less registry.instances
        (key, registry.allocated)
      simp only [instance_, found, release]
      split <;> exact grows

theorem instance_hasCallback (logged : Logged registered registry) (current : CallbackId) :
    (registry.instance_ balancing key).1.hasCallback current = registry.hasCallback current := by
  obtain ⟨-, -, objects⟩ := logged.instance_objects balancing key
  rcases objects current.instance_ with same | ⟨isNew, -, -, new⟩
  · simp [hasCallback, same]
  · rw [hasCallback, hasCallback, new, isNew, logged.fresh]
    simp

theorem any_of_subset {first second : List (Key × Nat)} (subset : first ⊆ second)
    (any : first.any (·.2 == address) = true) : second.any (·.2 == address) = true := by
  obtain ⟨entry, member, same⟩ := List.any_eq_true.mp any
  exact List.any_eq_true.mpr ⟨entry, subset member, same⟩

theorem instance_ (logged : Logged registered registry)
    (balancing : SearchTree.Balancing (Key × Nat)) (key : Key) :
    Logged registered (registry.instance_ balancing key).1 := by
  obtain ⟨handles, allocated, objects⟩ :=
    logged.instance_objects balancing key
  constructor
  · intro address present
    rcases objects address with same | ⟨-, below, -⟩
    · exact (logged.allocated address (same ▸ present)).trans_le allocated
    · exact below
  · intro address present
    rcases objects address with same | ⟨-, -, rooted, -⟩
    · exact any_of_subset (instance_instances balancing key)
        (logged.rooted address (same ▸ present))
    · exact rooted
  · intro current has
    exact logged.logged current (logged.instance_hasCallback current ▸ has)
  · rw [handles]
    exact logged.held
  · intro current member
    exact (logged.known current member).trans_le allocated
  · intro address subscription found notWrapped
    rcases objects address with same | ⟨isNew, -, -, new⟩
    · exact logged.counted address subscription (same ▸ found) notWrapped
    · rw [new, Option.some.injEq] at found
      subst found
      refine ⟨Nat.one_lt_two_pow (by decide), ?_⟩
      rintro current member rfl
      exact absurd (logged.known current member) (isNew ▸ lt_irrefl _)
  · exact logged.ascending

/-- The token is not used yet. -/
theorem not_mem (logged : Logged registered registry)
    (found : registry.objects.find? address = some subscription)
    (notWrapped : subscription.nextToken ≠ 0) :
    ⟨address, subscription.nextToken⟩ ∉ registered := by
  intro member
  obtain ⟨-, below⟩ := logged.counted address subscription found notWrapped
  exact lt_irrefl _ (below _ member rfl)

theorem register_hasCallback (key : Key) (callback : Callback)
    (found : registry.objects.find? address = some subscription) (current : CallbackId) :
    (registry.registerOnUpdateCallback key address callback).hasCallback current = true ↔
      registry.hasCallback current = true ∨ current = ⟨address, subscription.nextToken⟩ := by
  obtain ⟨instance_, token⟩ := current
  simp only [hasCallback, registerOnUpdateCallback, found, OrderedMap.find?_insert,
    CallbackId.mk.injEq]
  by_cases here : instance_ = address
  · subst here
    simp only [if_true, Option.any_some, found, true_and]
    by_cases sameToken : token = subscription.nextToken
    · subst sameToken
      split <;> simp_all
    · split <;> simp [sameToken]
  · simp [here]

theorem register (logged : Logged registered registry) (key : Key) (callback : Callback)
    (found : registry.objects.find? address = some subscription)
    (notWrapped : subscription.nextToken ≠ 0) :
    Logged (registered ++ [⟨address, subscription.nextToken⟩])
      (registry.registerOnUpdateCallback key address callback) := by
  obtain ⟨after, result⟩ : ∃ after,
      registry.registerOnUpdateCallback key address callback = after := ⟨_, rfl⟩
  have allocated : after.allocated = registry.allocated := by
    simp [← result, registerOnUpdateCallback, found]
  have instances : after.instances = registry.instances := by
    simp [← result, registerOnUpdateCallback, found]
  have handles : after.handles =
      registry.handles ++ [⟨key, address, subscription.nextToken⟩] := by
    simp [← result, registerOnUpdateCallback, found]
  have elsewhere : ∀ other ≠ address, after.objects.find? other = registry.objects.find? other := by
    intro other different
    simp [← result, registerOnUpdateCallback, found, different]
  obtain ⟨updated, here, nextToken⟩ : ∃ updated, after.objects.find? address = some updated ∧
      updated.nextToken = (subscription.nextToken + 1) % 2 ^ 32 := by
    simp [← result, registerOnUpdateCallback, found]
  have exists_iff : ∀ other, (after.objects.find? other).isSome = true ↔
      (registry.objects.find? other).isSome = true := by
    intro other
    by_cases atAddress : other = address
    · simp [atAddress, here, found]
    · rw [elsewhere other atAddress]
  have has := register_hasCallback key callback found
  obtain ⟨bounded, below⟩ := logged.counted address subscription found notWrapped
  rw [result] at has ⊢
  constructor
  · intro other present
    exact allocated ▸ logged.allocated other ((exists_iff other).mp present)
  · intro other present
    exact instances ▸ logged.rooted other ((exists_iff other).mp present)
  · intro current present
    rcases (has current).mp present with old | rfl
    · exact List.mem_append_left _ (logged.logged current old)
    · exact List.mem_append_right _ List.mem_cons_self
  · intro handle member
    rw [handles] at member
    rcases List.mem_append.mp member with old | new
    · exact List.mem_append_left _ (logged.held handle old)
    · obtain rfl := List.mem_singleton.mp new
      exact List.mem_append_right _ List.mem_cons_self
  · intro current member
    rw [allocated]
    rcases List.mem_append.mp member with old | new
    · exact logged.known current old
    · obtain rfl := List.mem_singleton.mp new
      exact logged.allocated address (by simp [found])
  · intro other otherSubscription foundOther notZero
    by_cases atAddress : other = address
    · subst atAddress
      rw [here, Option.some.injEq] at foundOther
      subst foundOther
      have next : updated.nextToken = subscription.nextToken + 1 := by omega
      refine ⟨by omega, ?_⟩
      intro current member sameInstance
      rcases List.mem_append.mp member with old | new
      · have := below current old sameInstance
        omega
      · obtain rfl := List.mem_singleton.mp new
        simp [next]
    · rw [elsewhere other atAddress] at foundOther
      obtain ⟨otherBounded, otherBelow⟩ :=
        logged.counted other otherSubscription foundOther notZero
      refine ⟨otherBounded, ?_⟩
      intro current member sameInstance
      rcases List.mem_append.mp member with old | new
      · exact otherBelow current old sameInstance
      · obtain rfl := List.mem_singleton.mp new
        exact absurd sameInstance.symm atAddress
  · refine List.pairwise_append.mpr ⟨logged.ascending, List.pairwise_singleton _ _, ?_⟩
    intro current member new isNew sameInstance
    obtain rfl := List.mem_singleton.mp isNew
    exact below current member sameInstance

/-- A deleter erases the callback of its handle, and the instance when that was the last one. -/
theorem deleter_objects (logged : Logged registered registry)
    (balancing : SearchTree.Balancing (Key × Nat)) (handle : CallbackInstance) :
    (registry.deleter balancing handle).handles = registry.handles ∧
      (registry.deleter balancing handle).allocated = registry.allocated ∧
      (∀ address ≠ handle.instance_,
        (registry.deleter balancing handle).objects.find? address =
            registry.objects.find? address ∧
          (registry.instances.toList.any (·.2 == address) = true →
            (registry.deleter balancing handle).instances.toList.any (·.2 == address) = true)) ∧
      (∀ subscription, (registry.deleter balancing handle).objects.find? handle.instance_ =
          some subscription →
        (registry.deleter balancing handle).instances.toList.any (·.2 == handle.instance_) = true ∧
          ∃ before, registry.objects.find? handle.instance_ = some before ∧
            subscription = { before with callbacks := before.callbacks.erase handle.token }) ∧
      ∀ before token, registry.objects.find? handle.instance_ = some before →
        (before.callbacks.find? token).isSome = true → token ≠ handle.token →
        ((registry.deleter balancing handle).objects.find? handle.instance_).isSome = true := by
  cases found : registry.objects.find? handle.instance_ with
  | none => simp [deleter, found]
  | some before =>
      have rooted := logged.rooted handle.instance_ (by simp [found])
      cases last : (before.callbacks.erase handle.token).entries.isEmpty with
      | false =>
          have after : registry.deleter balancing handle =
              registry.unregisterOnUpdateCallback handle.instance_ before handle.token := by
            simp [deleter, found, cleanupInstanceIfUnused, unregisterOnUpdateCallback, last,
              release, rooted]
          simp only [after, unregisterOnUpdateCallback, OrderedMap.find?_insert, if_true, rooted,
            Option.isSome_some, implies_true, and_true, true_and, Option.some.injEq, exists_eq_left',
            forall_eq']
          intro address elsewhere
          simp [elsewhere]
      | true =>
          have noOther : ∀ token ≠ handle.token, before.callbacks.find? token = none := by
            intro token different
            have nothing := OrderedMap.entries_eq_nil_iff.mp (List.isEmpty_iff.mp last) token
            simpa [different] using nothing
          have others : ∀ address ≠ handle.instance_,
              registry.instances.toList.any (·.2 == address) = true →
              (registry.instances.toList.eraseP (·.2 == handle.instance_)).any
                (·.2 == address) = true := by
            intro address elsewhere any
            obtain ⟨entry, member, same⟩ := List.any_eq_true.mp any
            refine List.any_eq_true.mpr ⟨entry, ?_, same⟩
            have atOther : entry.2 = address := by simpa using same
            exact (List.mem_eraseP_of_neg (by simpa [atOther] using elsewhere)).mpr member
          simp only [deleter, found, unregisterOnUpdateCallback, cleanupInstanceIfUnused,
            OrderedMap.find?_insert, if_true, last, release,
            SearchTree.Balancing.toList_erase]
          split
          · rename_i again
            refine ⟨rfl, rfl, ?_, ?_, by simp⟩
            · intro address elsewhere
              exact ⟨by simp [elsewhere], by simpa using others address elsewhere⟩
            · intro subscription same
              refine ⟨by simpa using again, before, rfl, ?_⟩
              simpa [eq_comm] using same
          · refine ⟨rfl, rfl, ?_, by simp, ?_⟩
            · intro address elsewhere
              exact ⟨by simp [elsewhere], by simpa using others address elsewhere⟩
            · intro _ token same present different
              obtain rfl := Option.some.inj same
              rw [noOther token different] at present
              cases present

theorem fewer_handles (logged : Logged registered registry) (index : Nat) :
    Logged registered { registry with handles := registry.handles.eraseIdx index } where
  allocated := logged.allocated
  rooted := logged.rooted
  logged := logged.logged
  held handle member := logged.held handle (List.mem_of_mem_eraseIdx member)
  known := logged.known
  counted := logged.counted
  ascending := logged.ascending

theorem deleter_hasCallback (logged : Logged registered registry)
    (balancing : SearchTree.Balancing (Key × Nat)) (handle : CallbackInstance)
    (current : CallbackId) :
    (registry.deleter balancing handle).hasCallback current = true ↔
      registry.hasCallback current = true ∧ current ≠ handle.callback := by
  obtain ⟨-, -, elsewhere, here, stays⟩ := logged.deleter_objects balancing handle
  simp only [hasCallback_iff]
  by_cases atInstance : current.instance_ = handle.instance_
  · constructor
    · rintro ⟨subscription, found, present⟩
      obtain ⟨-, before, foundBefore, rfl⟩ := here subscription (atInstance ▸ found)
      by_cases erased : current.token = handle.token
      · simp [erased] at present
      · refine ⟨⟨before, atInstance ▸ foundBefore, by simpa [erased] using present⟩, ?_⟩
        rintro rfl
        exact erased rfl
    · rintro ⟨⟨before, foundBefore, present⟩, different⟩
      have notErased : current.token ≠ handle.token := by
        intro same
        apply different
        cases current
        simp_all [CallbackInstance.callback]
      obtain ⟨subscription, found⟩ := Option.isSome_iff_exists.mp
        (stays before current.token (atInstance ▸ foundBefore) present notErased)
      obtain ⟨-, before', foundBefore', rfl⟩ := here subscription found
      obtain rfl := Option.some.inj (foundBefore.symm.trans (atInstance ▸ foundBefore'))
      exact ⟨_, atInstance ▸ found, by simpa [notErased] using present⟩
  · rw [(elsewhere _ atInstance).1]
    have different : current ≠ handle.callback := by
      rintro rfl
      exact atInstance rfl
    simp [different]

theorem deleter (logged : Logged registered registry)
    (balancing : SearchTree.Balancing (Key × Nat)) (handle : CallbackInstance) :
    Logged registered (registry.deleter balancing handle) := by
  obtain ⟨handles, allocated, elsewhere, here, -⟩ := logged.deleter_objects balancing handle
  have found_of : ∀ address subscription,
      (registry.deleter balancing handle).objects.find? address = some subscription →
      ∃ before, registry.objects.find? address = some before ∧
        before.nextToken = subscription.nextToken := by
    intro address subscription found
    by_cases atInstance : address = handle.instance_
    · subst atInstance
      obtain ⟨-, before, foundBefore, rfl⟩ := here subscription found
      exact ⟨before, foundBefore, rfl⟩
    · exact ⟨subscription, (elsewhere address atInstance).1 ▸ found, rfl⟩
  constructor
  · intro address present
    obtain ⟨subscription, found⟩ := Option.isSome_iff_exists.mp present
    obtain ⟨before, foundBefore, -⟩ := found_of address subscription found
    exact allocated ▸ logged.allocated address (by simp [foundBefore])
  · intro address present
    obtain ⟨subscription, found⟩ := Option.isSome_iff_exists.mp present
    by_cases atInstance : address = handle.instance_
    · subst atInstance
      exact (here subscription found).1
    · obtain ⟨same, rooted⟩ := elsewhere address atInstance
      exact rooted (logged.rooted address (same ▸ present))
  · intro current present
    exact logged.logged current ((logged.deleter_hasCallback balancing handle current).mp present).1
  · rw [handles]
    exact logged.held
  · rw [allocated]
    exact logged.known
  · intro address subscription found notWrapped
    obtain ⟨before, foundBefore, sameToken⟩ := found_of address subscription found
    exact sameToken ▸ logged.counted address before foundBefore (sameToken ▸ notWrapped)
  · exact logged.ascending

end Logged

end Registry

namespace Dispatch

open Registry

variable {registry after : Registry Callback} {registered : List CallbackId}
  {input : Input Callback} {dispatch : Dispatch Callback} {history : History}
  {callback current : CallbackId}

/-- A call meets the condition when it neither destroys the handle of the callback that runs nor
registers a callback after the counter of its instance wrapped around. -/
abbrev Guard (balancing : SearchTree.Balancing (Key × Nat)) (config : Config Callback)
    (input : Input Callback) : Prop :=
  (∀ iterator ∈ config.state.iterator,
    unregistering config.state.registry input ≠ some iterator.callback) ∧
  ∀ callback ∈ registering balancing config.state.registry input, callback.token ≠ 0

/-- What a call of the user does to the callbacks. -/
theorem user_spec (logged : Logged registered registry)
    (tokensLeft : ∀ callback ∈ registering balancing registry input, callback.token ≠ 0)
    (done : user balancing registry input = some after) :
    Logged (registered ++ (registering balancing registry input).toList) after ∧
      (∀ callback ∈ registering balancing registry input, callback ∉ registered) ∧
      ∀ callback, after.hasCallback callback = true ↔
        (registry.hasCallback callback = true ∨
          registering balancing registry input = some callback) ∧
        unregistering registry input ≠ some callback := by
  cases input with
  | proceed => cases done
  | message address => cases done
  | return_ => cases done
  | register key address callback =>
      simp only [user] at done
      split at done
      · rename_i present
        obtain rfl := Option.some.inj done
        obtain ⟨subscription, found⟩ := Option.isSome_iff_exists.mp present
        simp only [registering, unregistering, found, Option.map_some, Option.mem_def,
          Option.some.injEq, forall_eq', Option.toList_some, ne_eq, reduceCtorEq,
          not_false_eq_true, and_true] at tokensLeft ⊢
        refine ⟨logged.register key callback found tokensLeft, logged.not_mem found tokensLeft, ?_⟩
        intro current
        simp only [Logged.register_hasCallback _ _ found, eq_comm]
      · cases done
  | call call =>
      cases call with
      | instance_ key =>
          obtain rfl := Option.some.inj done
          simpa [registering, unregistering, logged.instance_hasCallback] using
            logged.instance_ balancing key
      | create key callback =>
          obtain rfl := Option.some.inj done
          have grown := logged.instance_ balancing key
          have same : ∀ current, (registry.instance_ balancing key).1.hasCallback current =
              registry.hasCallback current := fun current => logged.instance_hasCallback current
          simp only [registering, unregistering, Registry.create, reduceCtorEq, ne_eq,
            not_false_eq_true, and_true] at tokensLeft ⊢
          cases found : (registry.instance_ balancing key).1.objects.find?
              (registry.instance_ balancing key).2 with
          | none =>
              -- The reference dangles: nothing is registered.
              have dangling : ∀ current, hasCallback { (registry.instance_ balancing key).1 with
                  danglingUse := true } current = registry.hasCallback current := same
              simp only [registerOnUpdateCallback, found, Option.map_none, Option.toList_none,
                List.append_nil, Option.mem_def, reduceCtorEq, false_implies, implies_true,
                or_false, dangling, and_true]
              exact { grown with }
          | some subscription =>
              simp only [found, Option.map_some, Option.mem_def, Option.some.injEq, forall_eq',
                Option.toList_some] at tokensLeft ⊢
              refine ⟨grown.register key callback found tokensLeft,
                grown.not_mem found tokensLeft, ?_⟩
              intro current
              simp only [Logged.register_hasCallback _ _ found, same, eq_comm]
      | destroy index =>
          simp only [user, Registry.apply] at done
          obtain ⟨handle, present, rfl⟩ := Option.map_eq_some_iff.mp done
          have fewer := logged.fewer_handles index
          simp only [registering, unregistering, present, Option.map_some, Option.toList_none,
            List.append_nil, Option.mem_def, reduceCtorEq, false_implies, implies_true, true_and,
            or_false, ne_eq, Option.some.injEq]
          refine ⟨fewer.deleter balancing handle, ?_⟩
          intro current
          rw [fewer.deleter_hasCallback balancing handle current, ne_comm]
          exact Iff.rfl

theorem known_of_unregistering (logged : Logged registered registry)
    (gone : unregistering registry input = some callback) : callback ∈ registered := by
  unfold unregistering at gone
  split at gone
  · obtain ⟨handle, present, rfl⟩ := Option.map_eq_some_iff.mp gone
    exact logged.held handle (List.mem_of_getElem? present)
  · cases gone

/-- What is pending, and the callbacks whose turn is over. -/
inductive InLoop : List Task → Option CallbackId → (CallbackId → Prop) → Prop where
  | quiescent : InLoop [] none fun _ => True
  | end_ : InLoop [.onUpdate] none fun _ => True
  | head {position} : InLoop [.onUpdate] (some position)
      fun callback => callback.token < position.token
  | running {position} : InLoop [.callback, .advance] (some position)
      fun callback => callback.token ≤ position.token
  | returned {position} : InLoop [.advance] (some position)
      fun callback => callback.token ≤ position.token

theorem InLoop.not_passed {tasks : List Task} {position : Option CallbackId}
    {passed : CallbackId → Prop} (inLoop : InLoop tasks position passed)
    (toCome : ¬ passed callback) :
    ∃ current, position = some current ∧ current.token ≤ callback.token := by
  cases inLoop with
  | quiescent => exact absurd trivial toCome
  | end_ => exact absurd trivial toCome
  | head => exact ⟨_, rfl, not_lt.mp toCome⟩
  | running => exact ⟨_, rfl, (not_le.mp toCome).le⟩
  | returned => exact ⟨_, rfl, (not_le.mp toCome).le⟩

/-- A dispatch to the instance at this address, when the turns of `passed` are over. -/
structure Walks (history : History) (dispatch : Dispatch Callback) (address : Nat)
    (passed : CallbackId → Prop) : Prop where
  logged : Logged history.registered dispatch.registry
  defined : dispatch.invalidUse = false
  current : ∀ iterator ∈ dispatch.iterator, iterator.valid = true ∧
    iterator.callback.instance_ = address ∧
    dispatch.registry.hasCallback iterator.callback = true
  started : ∀ callback ∈ history.started, callback.instance_ = address ∧
    (callback ∈ history.invoked ∨ callback ∈ history.dropped ∨
      (dispatch.registry.hasCallback callback = true ∧ ¬ passed callback))
  invoked : ∀ callback ∈ history.invoked, callback.instance_ = address ∧
    callback ∈ history.registered ∧ passed callback
  ascending : history.invoked.Pairwise fun first second => first.token < second.token
  dropped : ∀ callback ∈ history.dropped, callback ∈ history.registered ∧
    dispatch.registry.hasCallback callback = false ∧ callback ∉ history.invoked

namespace Walks

variable {address : Nat} {passed : CallbackId → Prop}

/-- Calls of the user leave the loop where it is. -/
theorem user (walks : Walks history dispatch address passed)
    (undisturbed : ∀ iterator ∈ dispatch.iterator,
      unregistering dispatch.registry input ≠ some iterator.callback)
    (tokensLeft : ∀ callback ∈ registering balancing dispatch.registry input, callback.token ≠ 0)
    (done : Dispatch.user balancing dispatch.registry input = some after) :
    Walks ((history.register (registering balancing dispatch.registry input)).unregister
        (unregistering dispatch.registry input))
      (dispatch.setRegistry after) address passed := by
  obtain ⟨logged, isNew, has⟩ := user_spec walks.logged tokensLeft done
  have stays : ∀ iterator ∈ dispatch.iterator, after.hasCallback iterator.callback = true := by
    intro iterator here
    rw [has]
    exact ⟨.inl (walks.current iterator here).2.2, undisturbed iterator here⟩
  have absentAfter : ∀ callback, ¬ ((dispatch.registry.hasCallback callback = true ∨
      registering balancing dispatch.registry input = some callback) ∧
      unregistering dispatch.registry input ≠ some callback) →
      (dispatch.setRegistry after).registry.hasCallback callback = false := by
    intro callback notThere
    exact Bool.eq_false_iff.mpr fun present => notThere ((has callback).mp present)
  constructor
  · exact logged
  · exact walks.defined
  · intro iterator here
    obtain ⟨before, wasHere, rfl⟩ := Option.map_eq_some_iff.mp here
    obtain ⟨valid, atInstance, -⟩ := walks.current before wasHere
    have still := stays before wasHere
    exact ⟨by simp [valid, still], atInstance, still⟩
  · intro callback member
    obtain ⟨atInstance, invoked | dropped | ⟨present, toCome⟩⟩ := walks.started callback member
    · exact ⟨atInstance, .inl invoked⟩
    · exact ⟨atInstance, .inr (.inl (List.mem_append_left _ dropped))⟩
    · refine ⟨atInstance, ?_⟩
      by_cases gone : unregistering dispatch.registry input = some callback
      · by_cases invoked : callback ∈ history.invoked
        · exact .inl invoked
        · refine .inr (.inl (List.mem_append_right _ ?_))
          simp [gone, invoked, History.register]
      · exact .inr (.inr ⟨(has callback).mpr ⟨.inl present, gone⟩, toCome⟩)
  · intro callback member
    obtain ⟨atInstance, known, isPassed⟩ := walks.invoked callback member
    exact ⟨atInstance, List.mem_append_left _ known, isPassed⟩
  · exact walks.ascending
  · intro callback member
    rcases List.mem_append.mp member with old | new
    · obtain ⟨known, absent, notInvoked⟩ := walks.dropped callback old
      refine ⟨List.mem_append_left _ known, absentAfter callback ?_, notInvoked⟩
      rintro ⟨present | registers, -⟩
      · rw [absent] at present
        cases present
      · exact isNew callback registers known
    · obtain ⟨gone, notInvoked⟩ := List.mem_filter.mp new
      have gone := Option.mem_toList.mp gone
      have known := known_of_unregistering walks.logged gone
      refine ⟨List.mem_append_left _ known, absentAfter callback ?_, of_decide_eq_true notInvoked⟩
      rintro ⟨-, notGone⟩
      exact notGone gone

/-- Between dispatches nothing is left to come. -/
theorem user_quiescent (walks : Walks history dispatch address fun _ => True)
    (undisturbed : ∀ iterator ∈ dispatch.iterator,
      unregistering dispatch.registry input ≠ some iterator.callback)
    (tokensLeft : ∀ callback ∈ registering balancing dispatch.registry input, callback.token ≠ 0)
    (done : Dispatch.user balancing dispatch.registry input = some after) :
    Walks (history.register (registering balancing dispatch.registry input))
      (dispatch.setRegistry after) address fun _ => True := by
  have moved := walks.user undisturbed tokensLeft done
  constructor
  · exact moved.logged
  · exact moved.defined
  · exact moved.current
  · intro callback member
    obtain ⟨atInstance, invoked | dropped | ⟨-, toCome⟩⟩ := walks.started callback member
    · exact ⟨atInstance, .inl invoked⟩
    · exact ⟨atInstance, .inr (.inl dropped)⟩
    · exact absurd trivial toCome
  · exact moved.invoked
  · exact moved.ascending
  · exact fun callback member => moved.dropped callback (List.mem_append_left _ member)

/-- The first callback of the instance is the next one, if there is any. -/
theorem start (logged : Logged history.registered dispatch.registry)
    (defined : dispatch.invalidUse = false) (address : Nat) :
    ∃ passed, InLoop [.onUpdate] (dispatch.registry.firstCallback address) passed ∧
      Walks (history.start dispatch.registry address)
        { dispatch with
          iterator := (dispatch.registry.firstCallback address).map fun callback => { callback } }
        address passed := by
  have started : ∀ callback ∈ (history.start dispatch.registry address).started,
      callback.instance_ = address ∧ dispatch.registry.hasCallback callback = true := by
    intro callback member
    simpa [History.start] using (List.mem_filter.mp member).2
  cases first : dispatch.registry.firstCallback address with
  | none =>
      refine ⟨_, .end_, ⟨logged, defined, nofun, ?_, nofun, .nil, nofun⟩⟩
      intro callback member
      obtain ⟨atInstance, present⟩ := started callback member
      obtain ⟨subscription, found, has⟩ := hasCallback_iff.mp present
      rw [firstCallback, ← atInstance, found, Option.bind_some, Option.map_eq_none_iff] at first
      rw [OrderedMap.first?_of_eq_none first] at has
      cases has
  | some current =>
      obtain ⟨subscription, found, isFirst⟩ := Option.bind_eq_some_iff.mp first
      obtain ⟨token, firstToken, rfl⟩ := Option.map_eq_some_iff.mp isFirst
      obtain ⟨present, least⟩ := OrderedMap.first?_of_eq_some firstToken
      refine ⟨_, .head, ⟨logged, defined, ?_, ?_, nofun, .nil, nofun⟩⟩
      · rintro iterator ⟨⟩
        exact ⟨rfl, rfl, hasCallback_iff.mpr ⟨subscription, found, present⟩⟩
      · intro callback member
        obtain ⟨atInstance, isThere⟩ := started callback member
        obtain ⟨subscription', found', has⟩ := hasCallback_iff.mp isThere
        obtain rfl := Option.some.inj (found.symm.trans (atInstance ▸ found'))
        exact ⟨atInstance, .inr (.inr ⟨isThere, not_lt.mpr (least callback.token has)⟩)⟩

/-- The callback that the iterator is at is invoked. -/
theorem invoke {iterator : Iterator} (here : dispatch.iterator = some iterator)
    (walks : Walks history dispatch address
      fun callback => callback.token < iterator.callback.token) :
    Walks { history with invoked := history.invoked ++ [iterator.callback] } dispatch address
      fun callback => callback.token ≤ iterator.callback.token := by
  obtain ⟨-, atInstance, present⟩ := walks.current iterator here
  constructor
  · exact walks.logged
  · exact walks.defined
  · exact walks.current
  · intro callback member
    obtain ⟨sameInstance, invoked | dropped | ⟨isThere, toCome⟩⟩ := walks.started callback member
    · exact ⟨sameInstance, .inl (List.mem_append_left _ invoked)⟩
    · exact ⟨sameInstance, .inr (.inl dropped)⟩
    · refine ⟨sameInstance, ?_⟩
      rcases (not_lt.mp toCome).lt_or_eq with later | same
      · exact .inr (.inr ⟨isThere, not_le.mpr later⟩)
      · refine .inl (List.mem_append_right _ (List.mem_singleton.mpr ?_))
        exact CallbackId.ext (sameInstance.trans atInstance.symm) same.symm
  · intro callback member
    rcases List.mem_append.mp member with old | new
    · obtain ⟨sameInstance, known, before⟩ := walks.invoked callback old
      exact ⟨sameInstance, known, before.le⟩
    · obtain rfl := List.mem_singleton.mp new
      exact ⟨atInstance, walks.logged.logged _ present, le_refl _⟩
  · refine List.pairwise_append.mpr ⟨walks.ascending, List.pairwise_singleton _ _, ?_⟩
    intro callback member new isNew
    obtain rfl := List.mem_singleton.mp isNew
    exact (walks.invoked callback member).2.2
  · intro callback member
    obtain ⟨known, absent, notInvoked⟩ := walks.dropped callback member
    refine ⟨known, absent, ?_⟩
    intro invoked
    rcases List.mem_append.mp invoked with old | new
    · exact notInvoked old
    · obtain rfl := List.mem_singleton.mp new
      rw [present] at absent
      cases absent

/-- The iterator moves on to the next callback, or to the end. -/
theorem advance {iterator : Iterator} (here : dispatch.iterator = some iterator)
    (walks : Walks history dispatch address
      fun callback => callback.token ≤ iterator.callback.token) :
    ∃ passed, InLoop dispatch.advance.2 (dispatch.advance.1.iterator.map (·.callback)) passed ∧
      Walks history dispatch.advance.1 address passed := by
  obtain ⟨valid, atInstance, present⟩ := walks.current iterator here
  obtain ⟨subscription, found, has⟩ := hasCallback_iff.mp present
  have toCome : ∀ callback, callback.instance_ = address →
      dispatch.registry.hasCallback callback = true →
      (subscription.callbacks.find? callback.token).isSome = true := by
    intro callback sameInstance isThere
    obtain ⟨subscription', found', has'⟩ := hasCallback_iff.mp isThere
    rw [sameInstance, ← atInstance, found, Option.some.injEq] at found'
    exact found' ▸ has'
  simp only [Dispatch.advance, here, valid, if_true, nextCallback, found, Option.bind_some]
  cases next : subscription.callbacks.next? iterator.callback.token with
  | none =>
      refine ⟨_, .end_, ⟨walks.logged, walks.defined, nofun, ?_, ?_, walks.ascending,
        walks.dropped⟩⟩
      · intro callback member
        obtain ⟨sameInstance, invoked | dropped | ⟨isThere, later⟩⟩ :=
          walks.started callback member
        · exact ⟨sameInstance, .inl invoked⟩
        · exact ⟨sameInstance, .inr (.inl dropped)⟩
        · have has' := toCome callback sameInstance isThere
          rw [OrderedMap.next?_of_eq_none next (not_le.mp later)] at has'
          cases has'
      · intro callback member
        obtain ⟨sameInstance, known, -⟩ := walks.invoked callback member
        exact ⟨sameInstance, known, trivial⟩
  | some token =>
      obtain ⟨above, isNext, least⟩ := OrderedMap.next?_of_eq_some next
      refine ⟨_, .head, ⟨walks.logged, walks.defined, ?_, ?_, ?_, walks.ascending,
        walks.dropped⟩⟩
      · rintro _ ⟨⟩
        exact ⟨rfl, atInstance, hasCallback_iff.mpr ⟨subscription, found, isNext⟩⟩
      · intro callback member
        obtain ⟨sameInstance, invoked | dropped | ⟨isThere, later⟩⟩ :=
          walks.started callback member
        · exact ⟨sameInstance, .inl invoked⟩
        · exact ⟨sameInstance, .inr (.inl dropped)⟩
        · have reached := least callback.token (not_le.mp later)
            (toCome callback sameInstance isThere)
          exact ⟨sameInstance, .inr (.inr ⟨isThere, not_lt.mpr reached⟩)⟩
      · intro callback member
        obtain ⟨sameInstance, known, before⟩ := walks.invoked callback member
        exact ⟨sameInstance, known, before.trans_lt above⟩

end Walks

@[simp] theorem map_setRegistry :
    (dispatch.setRegistry registry).iterator.map (·.callback) =
      dispatch.iterator.map (·.callback) := by
  simp [setRegistry, Function.comp_def]

/-- The dispatch is at one of the places of its loop. -/
def Walking (history : History) (config : Config Callback) : Prop :=
  ∃ address passed, InLoop config.agenda (config.state.iterator.map (·.callback)) passed ∧
    Walks history config.state address passed

@[simp] theorem History.register_none : history.register none = history := by
  simp [History.register]

@[simp] theorem History.unregister_none : history.unregister none = history := by
  simp [History.unregister]

/-- What the tasks of a dispatch do. -/
theorem exec_cases {task : Task} {tasks : List Task} {state : Dispatch Callback}
    (executed : exec balancing dispatch task input = some (state, tasks)) :
    (task = .onUpdate ∧ dispatch.onUpdate = (state, tasks)) ∨
    (task = .callback ∧ input = .return_ ∧ state = dispatch ∧ tasks = []) ∨
    (task = .callback ∧ ∃ after, user balancing dispatch.registry input = some after ∧
      state = dispatch.setRegistry after ∧ tasks = [.callback]) ∨
    (task = .advance ∧ dispatch.advance = (state, tasks)) := by
  unfold exec at executed
  split at executed
  · exact .inl ⟨rfl, Option.some.inj executed⟩
  · cases executed
    exact .inr (.inl ⟨rfl, rfl, rfl, rfl⟩)
  · obtain ⟨after, done, same⟩ := Option.map_eq_some_iff.mp executed
    cases same
    exact .inr (.inr (.inl ⟨rfl, after, done, rfl, rfl⟩))
  · exact .inr (.inr (.inr ⟨rfl, Option.some.inj executed⟩))
  · cases executed

theorem walking_exec {task : Task} {rest tasks : List Task} {state : Dispatch Callback}
    (walking : Walking history ⟨dispatch, task :: rest⟩)
    (guarded : Guard balancing ⟨dispatch, task :: rest⟩ input)
    (executed : exec balancing dispatch task input = some (state, tasks)) :
    Walking ((recorder balancing).task history dispatch task input) ⟨state, tasks ++ rest⟩ := by
  obtain ⟨address, passed, inLoop, walks⟩ := walking
  obtain ⟨undisturbed, tokensLeft⟩ := guarded
  rcases exec_cases executed with ⟨rfl, outcome⟩ | ⟨rfl, rfl, rfl, rfl⟩ |
    ⟨rfl, after, done, rfl, rfl⟩ | ⟨rfl, outcome⟩
  · cases here : dispatch.iterator with
    | none =>
        simp only [here, Option.map_none] at inLoop
        cases inLoop
        simp only [onUpdate, here, Prod.mk.injEq] at outcome
        obtain ⟨rfl, rfl⟩ := outcome
        simp only [recorder, here, Option.toList_none, List.map_nil, List.append_nil]
        exact ⟨address, _, by simpa [here] using InLoop.quiescent, walks⟩
    | some iterator =>
        simp only [here, Option.map_some] at inLoop
        cases inLoop
        simp only [onUpdate, here, Prod.mk.injEq] at outcome
        obtain ⟨rfl, rfl⟩ := outcome
        simp only [recorder, here, Option.toList_some, List.map_cons, List.map_nil]
        exact ⟨address, _, by simpa [here] using InLoop.running, walks.invoke here⟩
  · simp only [recorder, registering, unregistering, History.register_none,
      History.unregister_none]
    obtain ⟨position, here⟩ : ∃ position, state.iterator.map (·.callback) = position := ⟨_, rfl⟩
    simp only [here] at inLoop
    cases inLoop
    exact ⟨address, _, by simpa [here] using InLoop.returned, walks⟩
  · refine ⟨address, passed, ?_, walks.user undisturbed tokensLeft done⟩
    simpa using inLoop
  · cases here : dispatch.iterator with
    | none =>
        simp only [here, Option.map_none] at inLoop
        cases inLoop
    | some iterator =>
        simp only [here, Option.map_some] at inLoop
        cases inLoop
        obtain ⟨passed, after, walked⟩ := walks.advance here
        rw [outcome] at after walked
        exact ⟨address, passed, by simpa using after, walked⟩

/-- What happens between dispatches. -/
theorem idle_cases {tasks : List Task} {state : Dispatch Callback} (history : History)
    (taken : idle balancing dispatch input = some (state, tasks)) :
    (∃ address, input = .message address ∧ tasks = [.onUpdate] ∧
      state = { dispatch with
        iterator := (dispatch.registry.firstCallback address).map fun callback => { callback } }) ∨
    ((recorder balancing).event history dispatch input =
        history.register (registering balancing dispatch.registry input) ∧
      ∃ after, user balancing dispatch.registry input = some after ∧
        state = dispatch.setRegistry after ∧ tasks = []) := by
  cases input with
  | message address =>
      simp only [idle] at taken
      split at taken
      · cases taken
        exact .inl ⟨address, rfl, rfl, rfl⟩
      · cases taken
  | proceed => cases taken
  | return_ => cases taken
  | call call =>
      obtain ⟨after, done, same⟩ := Option.map_eq_some_iff.mp taken
      cases same
      exact .inr ⟨rfl, after, done, rfl, rfl⟩
  | register key address callback =>
      obtain ⟨after, done, same⟩ := Option.map_eq_some_iff.mp taken
      cases same
      exact .inr ⟨rfl, after, done, rfl, rfl⟩

theorem walking_idle {tasks : List Task} {state : Dispatch Callback}
    (walking : Walking history ⟨dispatch, []⟩) (guarded : Guard balancing ⟨dispatch, []⟩ input)
    (taken : idle balancing dispatch input = some (state, tasks)) :
    Walking ((recorder balancing).event history dispatch input) ⟨state, tasks⟩ := by
  obtain ⟨address, passed, inLoop, walks⟩ := walking
  obtain ⟨undisturbed, tokensLeft⟩ := guarded
  rcases idle_cases history taken with ⟨address, rfl, rfl, rfl⟩ |
    ⟨records, after, done, rfl, rfl⟩
  · obtain ⟨passed, started, walked⟩ := Walks.start walks.logged walks.defined address
    exact ⟨address, passed, by simpa [Function.comp_def] using started, walked⟩
  · obtain ⟨position, here⟩ : ∃ position, dispatch.iterator.map (·.callback) = position := ⟨_, rfl⟩
    simp only [here] at inLoop
    cases inLoop
    rw [records]
    exact ⟨address, _, by simpa [here] using InLoop.quiescent,
      walks.user_quiescent undisturbed tokensLeft done⟩

theorem walking_next (history : History) (config : Config Callback) (input : Input Callback)
    (next : Config Callback) (walking : Walking history config)
    (guarded : Guard balancing config input)
    (stepped : (machine balancing).step config input = some next) :
    Walking ((recorder balancing).record history config input) next := by
  obtain ⟨dispatch, agenda⟩ := config
  rcases Machine.step_cases stepped with
    ⟨quiescent, state, tasks, taken, rfl⟩ | ⟨task, rest, state, tasks, shape, executed, rfl⟩
  · obtain rfl : agenda = [] := quiescent
    exact walking_idle walking guarded taken
  · obtain rfl : agenda = task :: rest := shape
    exact walking_exec walking guarded executed

theorem walking_initial : Walking {} (⟨{}, []⟩ : Config Callback) := by
  refine ⟨0, _, .quiescent, ⟨?_, rfl, nofun, nofun, nofun, .nil, nofun⟩⟩
  constructor
  · intro address present
    cases present
  · intro address present
    cases present
  · intro callback present
    cases present
  · exact nofun
  · exact nofun
  · intro address subscription found
    cases found
  · exact .nil

/-- A dispatch as it should be: it invokes the callbacks that it finds and that are still there
when their turn comes, each once and in the order of their registration. -/
structure InRegistrationOrder (history : History) (dispatch : Dispatch Callback) : Prop where
  /-- The loop did not go on from an erased element or in a destroyed instance. -/
  defined : dispatch.invalidUse = false
  /-- The callback that runs, or is next, is registered. -/
  registered : ∀ iterator ∈ dispatch.iterator, iterator.valid = true ∧
    dispatch.registry.hasCallback iterator.callback = true
  once : history.invoked.Nodup
  inOrder : history.invoked.Sublist history.registered
  notDropped : ∀ callback ∈ history.dropped, callback ∉ history.invoked
  /-- Only callbacks from the iterator on are still to be invoked, and none at the end. -/
  complete : ∀ callback ∈ history.started,
    callback ∈ history.invoked ∨ callback ∈ history.dropped ∨
      ∃ iterator ∈ dispatch.iterator, iterator.callback.instance_ = callback.instance_ ∧
        iterator.callback.token ≤ callback.token ∧
        dispatch.registry.hasCallback callback = true

instance : Std.Antisymm fun first second : CallbackId => first.token < second.token :=
  ⟨fun _ _ before after => absurd before (lt_asymm after)⟩

theorem Walks.inOrder {address : Nat} {passed : CallbackId → Prop}
    (walks : Walks history dispatch address passed) :
    history.invoked.Sublist history.registered := by
  let ofInstance := history.registered.filter (·.instance_ == address)
  have known : history.invoked ⊆ ofInstance := by
    intro callback member
    obtain ⟨atInstance, known, -⟩ := walks.invoked callback member
    exact List.mem_filter.mpr ⟨known, by simpa using atInstance⟩
  have ascending : ofInstance.Pairwise fun first second => first.token < second.token := by
    refine (walks.logged.ascending.filter _).imp_of_mem ?_
    intro first second inFirst inSecond before
    have atFirst : first.instance_ = address := by simpa using (List.mem_filter.mp inFirst).2
    have atSecond : second.instance_ = address := by simpa using (List.mem_filter.mp inSecond).2
    exact before (atFirst.trans atSecond.symm)
  have once : history.invoked.Nodup :=
    walks.ascending.imp fun before same => absurd (same ▸ before) (lt_irrefl _)
  exact (List.sublist_of_subperm_of_pairwise (List.subperm_of_subset once known)
    walks.ascending ascending).trans List.filter_sublist

/-- Dispatches are safe and complete, whatever else the callbacks register and destroy. -/
theorem in_registration_order
    {config : Lib.Config (Recorded (Dispatch Callback) History) Task}
    (reached : ((machine balancing).recorded (recorder balancing)).Reaches
      (fun reached => Guard balancing reached.forget) initial config) :
    InRegistrationOrder config.state.history config.state.state := by
  obtain ⟨address, passed, inLoop, walks⟩ :=
    reached.recorded_invariant walking_initial walking_next
  constructor
  · exact walks.defined
  · intro iterator here
    obtain ⟨valid, -, present⟩ := walks.current iterator here
    exact ⟨valid, present⟩
  · exact walks.ascending.imp fun before same => absurd (same ▸ before) (lt_irrefl _)
  · exact walks.inOrder
  · exact fun callback member => (walks.dropped callback member).2.2
  · intro callback member
    obtain ⟨atInstance, invoked | dropped | ⟨present, toCome⟩⟩ := walks.started callback member
    · exact .inl invoked
    · exact .inr (.inl dropped)
    · obtain ⟨position, here, before⟩ := inLoop.not_passed toCome
      obtain ⟨iterator, atIterator, rfl⟩ := Option.map_eq_some_iff.mp here
      obtain ⟨-, sameInstance, -⟩ := walks.current iterator atIterator
      exact .inr (.inr ⟨iterator, atIterator, sameInstance.trans atInstance.symm, before, present⟩)

/-- The second of three callbacks registers a fourth one and destroys the handles of the first and
the third. -/
theorem in_registration_order_of_four :
    ∃ config : Lib.Config (Recorded (Dispatch Unit) History) Task,
      (config.state.history.started = [⟨0, 1⟩, ⟨0, 2⟩, ⟨0, 3⟩] ∧
        config.state.history.invoked = [⟨0, 1⟩, ⟨0, 2⟩, ⟨0, 4⟩] ∧
        config.state.history.dropped = [⟨0, 3⟩]) ∧
      InRegistrationOrder config.state.history config.state.state := by
  let key : Key := ⟨1, "fmu/out/vehicle_status"⟩
  obtain ⟨config, reached, outcome⟩ := Machine.reaches_of_run_any
    ((machine (.small _)).recorded (recorder (.small _)))
    (fun reached => Guard (.small _) reached.forget) initial
    (fun config : Lib.Config (Recorded (Dispatch Unit) History) Task =>
      config.state.history.started = [⟨0, 1⟩, ⟨0, 2⟩, ⟨0, 3⟩] ∧
        config.state.history.invoked = [⟨0, 1⟩, ⟨0, 2⟩, ⟨0, 4⟩] ∧
        config.state.history.dropped = [⟨0, 3⟩])
    [.call (.create key ()), .call (.create key ()), .call (.create key ()), .message 0,
      .proceed, .return_, .proceed, .proceed, .call (.create key ()), .call (.destroy 2),
      .call (.destroy 0), .return_, .proceed, .proceed, .return_, .proceed, .proceed]
    (by decide)
  exact ⟨config, outcome, in_registration_order reached⟩

/-- The first of two callbacks destroys its own handle. -/
theorem own_handle_invalidates :
    ¬ ∀ config : Lib.Config (Recorded (Dispatch Unit) History) Task,
      ((machine (.small _)).recorded (recorder (.small _))).Reaches Machine.unrestricted initial
        config → InRegistrationOrder config.state.history config.state.state := by
  intro always
  let key : Key := ⟨1, "fmu/out/vehicle_status"⟩
  obtain ⟨config, reached, invalid⟩ := Machine.reaches_of_run_any
    ((machine (.small _)).recorded (recorder (.small _))) Machine.unrestricted initial
    (fun config : Lib.Config (Recorded (Dispatch Unit) History) Task =>
      config.state.state.invalidUse = true)
    [.call (.create key ()), .call (.create key ()), .message 0, .proceed, .call (.destroy 0),
      .return_, .proceed]
    (by decide)
  have defined := (always config reached).defined
  rw [invalid] at defined
  cases defined

end Dispatch

end SharedSubscription

end Px4Ros2
