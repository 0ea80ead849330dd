import Px4Ros2.Components.SubscriptionRegistry

/-! One instance for every node and topic, as long as no two keys are compared in opposite order by
their nodes and by their topics. -/

set_option autoImplicit false

namespace Px4Ros2

open Lib

namespace SharedSubscription

/-- One of the keys has the smaller node and the other the smaller topic. -/
def Key.Crosses (key other : Key) : Prop :=
  (key.node < other.node ∧ other.topicName < key.topicName) ∨
  (other.node < key.node ∧ key.topicName < other.topicName)

instance (key other : Key) : Decidable (key.Crosses other) :=
  inferInstanceAs (Decidable (_ ∨ _))

namespace Key

variable {key other third : Key}

theorem less_iff : key.less other = true ↔
    key.node < other.node ∨ key.topicName < other.topicName := by
  simp [less]

theorem Crosses.symm (crosses : key.Crosses other) : other.Crosses key :=
  crosses.elim .inr .inl

/-- Crossing keys are below each other. -/
theorem crosses_iff : key.Crosses other ↔ key.less other = true ∧ other.less key = true := by
  simp only [Crosses, less_iff]
  constructor
  · rintro (⟨node, topic⟩ | ⟨node, topic⟩)
    · exact ⟨.inl node, .inr topic⟩
    · exact ⟨.inr topic, .inl node⟩
  · rintro ⟨node | topic, node' | topic'⟩
    · exact absurd node' (lt_asymm node)
    · exact .inl ⟨node, topic'⟩
    · exact .inr ⟨node', topic⟩
    · exact absurd topic' (lt_asymm topic)

/-- Without crossing, one key is below another when it is so in both fields. -/
theorem less_iff_of_not_crosses (apart : ¬ key.Crosses other) :
    key.less other = true ↔
      key.node ≤ other.node ∧ key.topicName ≤ other.topicName ∧ key ≠ other := by
  simp only [Crosses, not_or, not_and, not_lt] at apart
  rw [less_iff]
  constructor
  · rintro (node | topic)
    · refine ⟨node.le, apart.1 node, ?_⟩
      rintro rfl
      exact lt_irrefl _ node
    · refine ⟨?_, topic.le, ?_⟩
      · by_contra above
        exact absurd topic (not_lt.mpr (apart.2 (not_le.mp above)))
      · rintro rfl
        exact lt_irrefl _ topic
  · rintro ⟨node, topic, different⟩
    rcases node.lt_or_eq with below | sameNode
    · exact .inl below
    · rcases topic.lt_or_eq with below | sameTopic
      · exact .inr below
      · cases key
        cases other
        exact absurd (by simp_all) different

end Key

/-- `operator<` is a strict linear order of exactly the sets of keys that do not cross. -/
theorem linearlyOrders_iff {keys : Key → Prop} :
    LinearlyOrders Key.less keys ↔
      ∀ key other, keys key → keys other → ¬ key.Crosses other := by
  constructor
  · intro orders key other inKey inOther crosses
    obtain ⟨below, above⟩ := Key.crosses_iff.mp crosses
    rw [orders.asymm inKey inOther below] at above
    cases above
  · intro apart
    constructor
    · intro key _
      simp [Key.less]
    · intro first second third inFirst inSecond inThird before after
      rw [Key.less_iff_of_not_crosses (apart _ _ inFirst inSecond)] at before
      rw [Key.less_iff_of_not_crosses (apart _ _ inSecond inThird)] at after
      rw [Key.less_iff_of_not_crosses (apart _ _ inFirst inThird)]
      obtain ⟨node, topic, different⟩ := before
      obtain ⟨nextNode, nextTopic, -⟩ := after
      refine ⟨node.trans nextNode, topic.trans nextTopic, ?_⟩
      rintro rfl
      have sameNode := le_antisymm node nextNode
      have sameTopic := le_antisymm topic nextTopic
      cases first
      cases second
      exact different (by simp_all)
    · intro first second inFirst inSecond different
      have back := apart _ _ inSecond inFirst
      rw [Key.less_iff_of_not_crosses (apart _ _ inFirst inSecond),
        Key.less_iff_of_not_crosses back]
      simp only [Key.Crosses, not_or, not_and, not_lt] at back
      rcases le_or_gt first.node second.node with node | node
      · rcases node.lt_or_eq with below | sameNode
        · exact .inl ⟨node, back.2 below, different⟩
        · rcases le_total first.topicName second.topicName with topic | topic
          · exact .inl ⟨node, topic, different⟩
          · exact .inr ⟨sameNode.ge, topic, different.symm⟩
      · exact .inr ⟨node.le, back.1 node, different.symm⟩

variable {Callback : Type}

namespace Registry

variable {balancing : SearchTree.Balancing (Key × Nat)} {registry next : Registry Callback}
  {key : Key} {callback : Callback} {handle : CallbackInstance} {entry : Key × Nat}

/-- This entry of the registry is the instance of its key. -/
def Registered (registry : Registry Callback) (entry : Key × Nat) : Prop :=
  entry ∈ registry.instances.toList

instance (registry : Registry Callback) (entry : Key × Nat) :
    Decidable (registry.Registered entry) :=
  inferInstanceAs (Decidable (_ ∈ _))

/-- The key does not cross a registered one. -/
def Comparable (registry : Registry Callback) (key : Key) : Prop :=
  ∀ entry ∈ registry.instances.toList, ¬ key.Crosses entry.1

instance (registry : Registry Callback) (key : Key) : Decidable (registry.Comparable key) :=
  inferInstanceAs (Decidable (∀ _ ∈ _, _))

/-- The instance of the key, if there is one, does not hand out a token that it has handed out
before and that is still registered. -/
def TokenFree (registry : Registry Callback) (key : Key) : Prop :=
  ∀ entry ∈ registry.instances.toList, entry.1 = key →
    (registry.objects.find? entry.2).all
      (fun subscription => (subscription.callbacks.find? subscription.nextToken).isNone) = true

instance (registry : Registry Callback) (key : Key) : Decidable (registry.TokenFree key) :=
  inferInstanceAs (Decidable (∀ _ ∈ _, _))

/-- The condition on a call. -/
def Undisturbed (registry : Registry Callback) : Call Callback → Prop
  | .instance_ key => registry.Comparable key
  | .create key _ => registry.Comparable key ∧ registry.TokenFree key
  | .destroy _ => True

instance (registry : Registry Callback) : (call : Call Callback) →
    Decidable (registry.Undisturbed call)
  | .instance_ key => inferInstanceAs (Decidable (registry.Comparable key))
  | .create key _ => inferInstanceAs (Decidable (registry.Comparable key ∧ registry.TokenFree key))
  | .destroy _ => inferInstanceAs (Decidable True)

/-- The callback of the handle is registered with the instance of its key. -/
def Owns (registry : Registry Callback) (handle : CallbackInstance) : Prop :=
  registry.Registered (handle.key, handle.instance_) ∧
  ∃ subscription, registry.objects.find? handle.instance_ = some subscription ∧
    (subscription.callbacks.find? handle.token).isSome = true

theorem registered_congr (same : next.instances = registry.instances) :
    next.Registered entry ↔ registry.Registered entry := by
  rw [Registered, Registered, same]

structure WellFormed (registry : Registry Callback) : Prop where
  orders : LinearlyOrders Key.less registry.instances.HasKey
  ordered : registry.instances.Ordered Key.less
  allocated : ∀ entry, registry.Registered entry → entry.2 < registry.allocated
  sameAddress : ∀ first second, registry.Registered first → registry.Registered second →
    first.2 = second.2 → first = second
  /-- The registered instances are those that exist. -/
  exist : ∀ address, (registry.objects.find? address).isSome = true ↔
    ∃ key, registry.Registered (key, address)
  owns : ∀ handle ∈ registry.handles, registry.Owns handle
  /-- Every registered callback has its handle. -/
  held : ∀ address subscription token, registry.objects.find? address = some subscription →
    (subscription.callbacks.find? token).isSome = true →
    ∃ handle ∈ registry.handles, handle.instance_ = address ∧ handle.token = token
  distinct : registry.handles.Pairwise fun first second =>
    first.instance_ = second.instance_ → first.token ≠ second.token
  noneFailed : registry.assertionFailed = false
  noneDangling : registry.danglingUse = false

namespace WellFormed

theorem comparable_iff (wellFormed : registry.WellFormed) :
    registry.Comparable key ↔
      LinearlyOrders Key.less fun other => other = key ∨ registry.instances.HasKey other := by
  rw [linearlyOrders_iff]
  constructor
  · intro comparable
    have apart := linearlyOrders_iff.mp wellFormed.orders
    rintro first second (rfl | inFirst) (rfl | inSecond)
    · simp [Key.Crosses]
    · obtain ⟨entry, member, rfl⟩ := inSecond
      exact comparable entry member
    · obtain ⟨entry, member, rfl⟩ := inFirst
      exact fun crosses => comparable entry member crosses.symm
    · exact apart first second inFirst inSecond
  · exact fun apart entry member => apart key entry.1 (.inl rfl) (.inr ⟨entry, member, rfl⟩)

theorem find?_eq_some_iff (wellFormed : registry.WellFormed)
    (comparable : registry.Comparable key) :
    registry.find? key = some entry ↔ registry.Registered entry ∧ entry.1 = key :=
  SearchTree.find?_eq_some_iff (wellFormed.comparable_iff.mp comparable) (.inl rfl)
    (fun _ member => .inr ⟨_, member, rfl⟩) wellFormed.ordered

theorem find?_eq_none_iff (wellFormed : registry.WellFormed)
    (comparable : registry.Comparable key) :
    registry.find? key = none ↔ ¬ registry.instances.HasKey key :=
  SearchTree.find?_eq_none_iff (wellFormed.comparable_iff.mp comparable) (.inl rfl)
    (fun _ member => .inr ⟨_, member, rfl⟩) wellFormed.ordered

/-- Registered keys do not cross each other. -/
theorem comparable (wellFormed : registry.WellFormed) (registered : registry.Registered entry) :
    registry.Comparable entry.1 := fun other member =>
  linearlyOrders_iff.mp wellFormed.orders entry.1 other.1 ⟨entry, registered, rfl⟩
    ⟨other, member, rfl⟩

theorem nodup (wellFormed : registry.WellFormed) : registry.instances.toList.Nodup :=
  wellFormed.ordered.imp_of_mem fun member _ before same => by
    rw [← same, wellFormed.orders.irrefl _ ⟨_, member, rfl⟩] at before
    cases before

/-- A key that is not registered yet gets a new instance. -/
theorem instance_of_none (balancing : SearchTree.Balancing (Key × Nat))
    (wellFormed : registry.WellFormed)
    (comparable : registry.Comparable key) (missing : registry.find? key = none) :
    ∃ after, registry.instance_ balancing key = (after, registry.allocated) ∧
      (∀ entry, after.Registered entry ↔
        entry = (key, registry.allocated) ∨ registry.Registered entry) ∧
      after.objects.find? registry.allocated =
        some { node := key.node, topicName := key.topicName } ∧
      after.handles = registry.handles ∧ after.WellFormed := by
  have absent := (wellFormed.find?_eq_none_iff comparable).mp missing
  obtain ⟨ordered, member⟩ := SearchTree.emplace_spec balancing (key, registry.allocated)
    (wellFormed.comparable_iff.mp comparable) (.inl rfl)
    (fun _ member => .inr ⟨_, member, rfl⟩) wellFormed.ordered absent
  have kept : (registry.instances.emplace balancing Key.less
      (key, registry.allocated)).toList.any (·.2 == registry.allocated) = true :=
    List.any_eq_true.mpr ⟨_, (member _).mpr (.inl rfl), by simp⟩
  have fresh : registry.objects.find? registry.allocated = none := by
    cases found : registry.objects.find? registry.allocated with
    | none => rfl
    | some subscription =>
        obtain ⟨other, registered⟩ := (wellFormed.exist registry.allocated).mp (by simp [found])
        exact absurd (wellFormed.allocated _ registered) (lt_irrefl _)
  have notFresh : ∀ handle ∈ registry.handles, handle.instance_ ≠ registry.allocated :=
    fun handle inHandles => (wellFormed.allocated _ (wellFormed.owns handle inHandles).1).ne
  simp only [instance_, missing, release, kept, if_true]
  refine ⟨_, rfl, member, by simp, rfl, ?_⟩
  constructor
  · refine (wellFormed.comparable_iff.mp comparable).mono ?_
    rintro other ⟨entry, inTree, rfl⟩
    rcases (member entry).mp inTree with rfl | old
    · exact .inl rfl
    · exact .inr ⟨entry, old, rfl⟩
  · exact ordered
  · intro entry registered
    rcases (member entry).mp registered with rfl | old
    · exact Nat.lt_succ_self _
    · exact (wellFormed.allocated entry old).trans (Nat.lt_succ_self _)
  · intro first second inFirst inSecond same
    rcases (member first).mp inFirst with rfl | oldFirst <;>
      rcases (member second).mp inSecond with rfl | oldSecond
    · rfl
    · exact absurd same.symm (wellFormed.allocated second oldSecond).ne
    · exact absurd same (wellFormed.allocated first oldFirst).ne
    · exact wellFormed.sameAddress first second oldFirst oldSecond same
  · intro address
    simp only [Registered, member, Prod.mk.injEq, OrderedMap.find?_insert]
    by_cases new : address = registry.allocated
    · simp [new]
    · simp [new, wellFormed.exist address, Registered]
  · intro handle inHandles
    obtain ⟨registered, subscription, found, has⟩ := wellFormed.owns handle inHandles
    exact ⟨(member _).mpr (.inr registered), subscription,
      by simp [notFresh handle inHandles, found], has⟩
  · intro address subscription token found has
    by_cases new : address = registry.allocated
    · simp only [OrderedMap.find?_insert, new, if_true, Option.some.injEq] at found
      subst found
      simp at has
    · exact wellFormed.held address subscription token (by simpa [new] using found) has
  · exact wellFormed.distinct
  · exact wellFormed.noneFailed
  · exact wellFormed.noneDangling

/-- What `instance` returns is the registered instance of the key. -/
theorem instance_spec (balancing : SearchTree.Balancing (Key × Nat))
    (wellFormed : registry.WellFormed)
    (comparable : registry.Comparable key) :
    (registry.instance_ balancing key).1.WellFormed ∧
      (registry.instance_ balancing key).1.Registered
        (key, (registry.instance_ balancing key).2) ∧
      (registry.instance_ balancing key).1.handles = registry.handles ∧
      ((registry.instance_ balancing key).1 = registry ∨
        (registry.find? key = none ∧
          (registry.instance_ balancing key).1.objects.find?
              (registry.instance_ balancing key).2 =
            some { node := key.node, topicName := key.topicName } ∧
          ∀ entry, registry.Registered entry →
            (registry.instance_ balancing key).1.Registered entry)) := by
  cases found : registry.find? key with
  | none =>
      obtain ⟨after, result, member, new, same, after_wellFormed⟩ :=
        wellFormed.instance_of_none balancing comparable found
      rw [result]
      exact ⟨after_wellFormed, (member _).mpr (.inl rfl), same,
        .inr ⟨rfl, new, fun entry registered => (member entry).mpr (.inr registered)⟩⟩
  | some entry =>
      obtain ⟨registered, rfl⟩ := (wellFormed.find?_eq_some_iff comparable).mp found
      simp only [instance_, found]
      exact ⟨wellFormed, registered, trivial, .inl trivial⟩

/-- A callback registered with a registered instance, under a free token. -/
theorem register (wellFormed : registry.WellFormed) {address : Nat}
    {subscription : SharedSubscription Callback}
    (registered : registry.Registered (key, address))
    (found : registry.objects.find? address = some subscription)
    (free : subscription.callbacks.find? subscription.nextToken = none) :
    (registry.registerOnUpdateCallback key address callback).WellFormed := by
  obtain ⟨after, result⟩ : ∃ after,
      registry.registerOnUpdateCallback key address callback = after := ⟨_, rfl⟩
  have sameInstances : after.instances = registry.instances := by
    simp [← result, registerOnUpdateCallback, found]
  have sameRegistered : ∀ entry, after.Registered entry ↔ registry.Registered entry := by
    simp [Registered, sameInstances]
  have handles : after.handles =
      registry.handles ++ [⟨key, address, subscription.nextToken⟩] := by
    simp [← result, registerOnUpdateCallback, found]
  have elsewhere : ∀ other ≠ address, after.objects.find? other = registry.objects.find? other := by
    intro other different
    simp [← result, registerOnUpdateCallback, found, different]
  obtain ⟨updated, here, callbacks⟩ : ∃ updated, after.objects.find? address = some updated ∧
      updated.callbacks = subscription.callbacks.insert subscription.nextToken callback := by
    simp [← result, registerOnUpdateCallback, found, free]
  rw [result]
  constructor
  · exact sameInstances ▸ wellFormed.orders
  · exact sameInstances ▸ wellFormed.ordered
  · have sameAllocated : after.allocated = registry.allocated := by
      simp [← result, registerOnUpdateCallback, found]
    simpa [sameRegistered, sameAllocated] using wellFormed.allocated
  · simpa [sameRegistered] using wellFormed.sameAddress
  · intro other
    simp only [sameRegistered]
    by_cases atAddress : other = address
    · subst atAddress
      simpa [here] using ⟨key, registered⟩
    · rw [elsewhere other atAddress, wellFormed.exist other]
  · intro handle member
    rw [handles] at member
    rcases List.mem_append.mp member with old | new
    · obtain ⟨inRegistry, other, foundOther, has⟩ := wellFormed.owns handle old
      refine ⟨(sameRegistered _).mpr inRegistry, ?_⟩
      by_cases atAddress : handle.instance_ = address
      · rw [atAddress, found, Option.some.injEq] at foundOther
        subst foundOther
        refine ⟨updated, atAddress ▸ here, ?_⟩
        by_cases sameToken : handle.token = subscription.nextToken <;>
          simp [callbacks, sameToken, has]
      · exact ⟨other, (elsewhere _ atAddress).trans foundOther, has⟩
    · obtain rfl := List.mem_singleton.mp new
      exact ⟨(sameRegistered _).mpr registered, updated, here, by simp [callbacks]⟩
  · intro other otherSubscription token foundOther has
    simp only [handles, List.mem_append, List.mem_singleton]
    by_cases atAddress : other = address
    · subst atAddress
      rw [here, Option.some.injEq] at foundOther
      subst foundOther
      by_cases sameToken : token = subscription.nextToken
      · exact ⟨_, .inr rfl, rfl, sameToken.symm⟩
      · obtain ⟨handle, member, same⟩ :=
          wellFormed.held other subscription token found (by simpa [callbacks, sameToken] using has)
        exact ⟨handle, .inl member, same⟩
    · obtain ⟨handle, member, same⟩ :=
        wellFormed.held other otherSubscription token ((elsewhere _ atAddress).symm.trans foundOther)
          has
      exact ⟨handle, .inl member, same⟩
  · rw [handles]
    refine List.pairwise_append.mpr ⟨wellFormed.distinct, List.pairwise_singleton _ _, ?_⟩
    intro handle member new isNew sameInstance sameToken
    obtain rfl := List.mem_singleton.mp isNew
    obtain ⟨-, other, foundOther, has⟩ := wellFormed.owns handle member
    rw [sameInstance, found, Option.some.injEq] at foundOther
    subst foundOther
    rw [sameToken, free] at has
    cases has
  · simpa [← result, registerOnUpdateCallback, found, free] using wellFormed.noneFailed
  · simpa [← result, registerOnUpdateCallback, found] using wellFormed.noneDangling

theorem create (wellFormed : registry.WellFormed) (comparable : registry.Comparable key)
    (free : registry.TokenFree key) : (registry.create balancing key callback).WellFormed := by
  obtain ⟨after, registered, -, unchanged | ⟨-, new, -⟩⟩ :=
    wellFormed.instance_spec balancing comparable
  · simp only [Registry.create]
    rw [unchanged] at registered ⊢
    obtain ⟨subscription, found⟩ :=
      Option.isSome_iff_exists.mp ((wellFormed.exist _).mpr ⟨key, registered⟩)
    refine wellFormed.register registered found ?_
    simpa [found] using free _ registered rfl
  · exact after.register registered new (by simp)

/-- The handles besides the one at this position. -/
theorem other_handles {index : Nat} (wellFormed : registry.WellFormed)
    (present : registry.handles[index]? = some handle) :
    (registry.handles.eraseIdx index).Pairwise
        (fun first second => first.instance_ = second.instance_ → first.token ≠ second.token) ∧
      (∀ other, other ∈ registry.handles ↔
        other = handle ∨ other ∈ registry.handles.eraseIdx index) ∧
      ∀ other ∈ registry.handles.eraseIdx index,
        other.instance_ = handle.instance_ → other.token ≠ handle.token := by
  obtain ⟨inRange, rfl⟩ := List.getElem?_eq_some_iff.mp present
  have split : registry.handles =
      registry.handles.take index ++ registry.handles[index] ::
        registry.handles.drop (index + 1) := by
    rw [← List.drop_eq_getElem_cons, List.take_append_drop]
  have distinct := wellFormed.distinct
  rw [split, List.pairwise_append, List.pairwise_cons] at distinct
  obtain ⟨front, ⟨after, back⟩, across⟩ := distinct
  rw [List.eraseIdx_eq_take_drop_succ]
  refine ⟨List.pairwise_append.mpr ⟨front, back, fun first inFront second inBack =>
    across first inFront second (List.mem_cons_of_mem _ inBack)⟩, ?_, ?_⟩
  · intro other
    constructor
    · intro member
      rw [split, List.mem_append, List.mem_cons] at member
      rw [List.mem_append]
      tauto
    · rintro (rfl | member)
      · exact List.getElem_mem inRange
      · rw [split, List.mem_append, List.mem_cons]
        rcases List.mem_append.mp member with inFront | inBack
        · exact .inl inFront
        · exact .inr (.inr inBack)
  · intro other member
    rcases List.mem_append.mp member with inFront | inBack
    · exact across other inFront _ List.mem_cons_self
    · exact fun same => (after other inBack same.symm).symm

/-- Taking out the entry of an address takes out that entry only. -/
theorem mem_erase_address (wellFormed : registry.WellFormed) {address : Nat}
    (registered : registry.Registered (key, address)) :
    entry ∈ (balancing.erase (·.2 == address) registry.instances).toList ↔
      registry.Registered entry ∧ entry.2 ≠ address := by
  obtain ⟨removed, front, back, before, isRemoved, split, result⟩ :=
    List.exists_of_eraseP (p := fun entry : Key × Nat => entry.2 == address) registered (by simp)
  have nodup := wellFormed.nodup
  rw [split] at nodup
  have inTree : registry.Registered removed := by
    rw [Registered, split]
    simp
  have removedHere : removed.2 = address := by simpa using isRemoved
  rw [balancing.toList_erase, result, Registered, split, List.mem_append, List.mem_append,
    List.mem_cons]
  constructor
  · rintro (inFront | inBack)
    · exact ⟨.inl inFront, by simpa using before entry inFront⟩
    · refine ⟨.inr (.inr inBack), fun same => ?_⟩
      have inRegistry : registry.Registered entry := by
        rw [Registered, split]
        simp [inBack]
      obtain rfl := wellFormed.sameAddress entry removed inRegistry inTree
        (same.trans removedHere.symm)
      exact (List.nodup_cons.mp (List.nodup_append.mp nodup).2.1).1 inBack
  · rintro ⟨inFront | isRemoved | inBack, different⟩
    · exact .inl inFront
    · exact absurd (isRemoved ▸ removedHere) different
    · exact .inr inBack

end WellFormed

/-- The registry without this handle, whose instance had the callback. -/
structure Unregistered (registry : Registry Callback) (index : Nat) (handle : CallbackInstance)
    (subscription : SharedSubscription Callback) (after : Registry Callback) : Prop where
  found : registry.objects.find? handle.instance_ = some subscription
  handles : after.handles = registry.handles.eraseIdx index
  allocated : after.allocated = registry.allocated
  noneFailed : after.assertionFailed = false
  noneDangling : after.danglingUse = false
  elsewhere : ∀ other ≠ handle.instance_, after.objects.find? other = registry.objects.find? other
  outcome :
    ((subscription.callbacks.erase handle.token).entries = [] ∧
      after.instances.Ordered Key.less ∧
      (∀ entry, after.Registered entry ↔
        registry.Registered entry ∧ entry.2 ≠ handle.instance_) ∧
      after.objects.find? handle.instance_ = none) ∨
    ((subscription.callbacks.erase handle.token).entries ≠ [] ∧
      after.instances = registry.instances ∧
      ∃ updated, after.objects.find? handle.instance_ = some updated ∧
        updated.callbacks = subscription.callbacks.erase handle.token)

namespace WellFormed

theorem unregistered {index : Nat} (wellFormed : registry.WellFormed)
    (present : registry.handles[index]? = some handle)
    (destroyed : registry.apply balancing (.destroy index) = some next) :
    ∃ subscription, registry.Unregistered index handle subscription next := by
  obtain ⟨registered, subscription, found, has⟩ :=
    wellFormed.owns handle (List.mem_of_getElem? present)
  simp only [apply, present, Option.map_some, Option.some.injEq, deleter, found,
    unregisterOnUpdateCallback, cleanupInstanceIfUnused, OrderedMap.find?_insert, if_true] at destroyed
  have noneFailed : (registry.assertionFailed ||
      (subscription.callbacks.find? handle.token).isNone) = false := by
    obtain ⟨registeredCallback, isRegistered⟩ := Option.isSome_iff_exists.mp has
    simp [wellFormed.noneFailed, isRegistered]
  by_cases last : (subscription.callbacks.erase handle.token).entries = []
  · have gone : (balancing.erase (·.2 == handle.instance_) registry.instances).toList.any
        (·.2 == handle.instance_) = false := by
      simp only [List.any_eq_false, beq_iff_eq]
      exact fun entry member => ((wellFormed.mem_erase_address registered).mp member).2
    simp only [last, List.isEmpty_nil, if_true, release, gone] at destroyed
    subst destroyed
    exact ⟨subscription, found, rfl, rfl, noneFailed, wellFormed.noneDangling,
      fun other different => by simp [different], .inl ⟨last, wellFormed.ordered.erase,
        fun _ => wellFormed.mem_erase_address registered, by simp⟩⟩
  · have stays : registry.instances.toList.any (·.2 == handle.instance_) = true :=
      List.any_eq_true.mpr ⟨_, registered, by simp⟩
    simp only [List.isEmpty_iff, last, if_false, release, stays, if_true] at destroyed
    subst destroyed
    exact ⟨subscription, found, rfl, rfl, noneFailed, wellFormed.noneDangling,
      fun other different => by simp [different],
      .inr ⟨last, rfl, _, by rw [OrderedMap.find?_insert, if_pos rfl], rfl⟩⟩

theorem destroy {index : Nat} (wellFormed : registry.WellFormed)
    (present : registry.handles[index]? = some handle)
    (destroyed : registry.apply balancing (.destroy index) = some next) : next.WellFormed := by
  obtain ⟨subscription, after⟩ := wellFormed.unregistered present destroyed
  obtain ⟨distinct, others, apart⟩ := wellFormed.other_handles present
  have subset : ∀ entry, next.Registered entry → registry.Registered entry := by
    rcases after.outcome with ⟨-, -, member, -⟩ | ⟨-, same, -⟩
    · exact fun entry registered => ((member entry).mp registered).1
    · exact fun entry => (registered_congr same).mp
  constructor
  · refine wellFormed.orders.mono ?_
    rintro key ⟨entry, member, same⟩
    exact ⟨entry, subset entry member, same⟩
  · rcases after.outcome with ⟨-, ordered, -⟩ | ⟨-, same, -⟩
    · exact ordered
    · exact same ▸ wellFormed.ordered
  · exact fun entry registered => after.allocated ▸ wellFormed.allocated entry (subset entry registered)
  · exact fun first second inFirst inSecond =>
      wellFormed.sameAddress first second (subset first inFirst) (subset second inSecond)
  · intro address
    by_cases here : address = handle.instance_
    · subst here
      rcases after.outcome with ⟨-, -, member, gone⟩ | ⟨-, same, updated, stays, -⟩
      · simp [gone, member]
      · have registered := (wellFormed.owns handle (List.mem_of_getElem? present)).1
        simp only [stays, Option.isSome_some, true_iff]
        exact ⟨handle.key, (registered_congr same).mpr registered⟩
    · rw [after.elsewhere address here, wellFormed.exist address]
      rcases after.outcome with ⟨-, -, member, -⟩ | ⟨-, same, -⟩
      · simp [member, here]
      · simp [registered_congr same]
  · intro other member
    rw [after.handles] at member
    obtain ⟨registered, otherSubscription, found, has⟩ :=
      wellFormed.owns other ((others other).mpr (.inr member))
    by_cases here : other.instance_ = handle.instance_
    · have differ := apart other member here
      rw [here, after.found, Option.some.injEq] at found
      subst found
      have remains : (subscription.callbacks.erase handle.token).find? other.token ≠ none := by
        simpa [differ] using Option.isSome_iff_ne_none.mp has
      rcases after.outcome with ⟨last, -⟩ | ⟨-, same, updated, stays, callbacks⟩
      · exact absurd (OrderedMap.entries_eq_nil_iff.mp last other.token) remains
      · exact ⟨(registered_congr same).mpr registered, updated, here ▸ stays,
          by simpa [callbacks, differ] using has⟩
    · refine ⟨?_, otherSubscription, (after.elsewhere _ here).trans found, has⟩
      rcases after.outcome with ⟨-, -, registeredIff, -⟩ | ⟨-, same, -⟩
      · exact (registeredIff _).mpr ⟨registered, here⟩
      · exact (registered_congr same).mpr registered
  · intro address otherSubscription token found has
    rw [after.handles]
    by_cases here : address = handle.instance_
    · subst here
      rcases after.outcome with ⟨-, -, -, gone⟩ | ⟨-, -, updated, stays, callbacks⟩
      · rw [gone] at found
        cases found
      · rw [stays, Option.some.injEq] at found
        subst found
        have differ : token ≠ handle.token := by
          rintro rfl
          simp [callbacks] at has
        obtain ⟨other, member, sameInstance, sameToken⟩ := wellFormed.held _ subscription token
          after.found (by simpa [callbacks, differ] using has)
        rcases (others other).mp member with rfl | rest
        · exact absurd sameToken.symm differ
        · exact ⟨other, rest, sameInstance, sameToken⟩
    · obtain ⟨other, member, sameInstance, sameToken⟩ := wellFormed.held address otherSubscription
        token ((after.elsewhere _ here).symm.trans found) has
      rcases (others other).mp member with rfl | rest
      · exact absurd sameInstance.symm here
      · exact ⟨other, rest, sameInstance, sameToken⟩
  · exact after.handles ▸ distinct
  · exact after.noneFailed
  · exact after.noneDangling

theorem apply (wellFormed : registry.WellFormed) {call : Call Callback}
    (undisturbed : registry.Undisturbed call)
    (applied : registry.apply balancing call = some next) : next.WellFormed := by
  cases call with
  | instance_ key =>
      obtain rfl := Option.some.inj applied
      exact (wellFormed.instance_spec balancing undisturbed).1
  | create key callback =>
      obtain rfl := Option.some.inj applied
      exact wellFormed.create undisturbed.1 undisturbed.2
  | destroy index =>
      obtain ⟨handle, present, -⟩ := Option.map_eq_some_iff.mp applied
      exact wellFormed.destroy present applied

end WellFormed

theorem wellFormed_initial : (initial : Config (Registry Callback) Empty).state.WellFormed where
  orders := ⟨nofun, nofun, nofun⟩
  ordered := List.Pairwise.nil
  allocated := nofun
  sameAddress := nofun
  exist := by simp [initial, Registered]
  owns := nofun
  held := by simp [initial]
  distinct := List.Pairwise.nil
  noneFailed := rfl
  noneDangling := rfl

theorem wellFormed_of_reaches {config : Config (Registry Callback) Empty}
    (reached : (machine balancing).Reaches (fun config call => config.state.Undisturbed call)
      initial config) : config.state.WellFormed := by
  induction reached with
  | refl => exact wellFormed_initial
  | step _ undisturbed stepped wellFormed =>
      rcases Machine.step_cases stepped with ⟨-, state, tasks, taken, rfl⟩ | ⟨task, -⟩
      · obtain ⟨after, applied, same⟩ := Option.map_eq_some_iff.mp taken
        obtain ⟨rfl, -⟩ := Prod.mk.inj same
        exact wellFormed.apply undisturbed applied
      · exact nomatch task

/-- The call unregisters the only callback of this instance. -/
def UnregistersLast (registry : Registry Callback) (entry : Key × Nat) : Call Callback → Prop
  | .destroy index => ∃ handle subscription, registry.handles[index]? = some handle ∧
      handle.instance_ = entry.2 ∧ registry.objects.find? entry.2 = some subscription ∧
      ∀ token, (subscription.callbacks.find? token).isSome = true ↔ token = handle.token
  | _ => False

/-- One instance for each key: it is found, shared, owns the callbacks of all handles of its key,
and goes with the last of them. -/
structure OneInstancePerKey (balancing : SearchTree.Balancing (Key × Nat))
    (registry : Registry Callback) : Prop where
  compared : ∀ key, registry.Comparable key ↔
    LinearlyOrders Key.less fun other => other = key ∨ registry.instances.HasKey other
  found : ∀ entry, registry.Registered entry → registry.find? entry.1 = some entry
  shared : ∀ entry, registry.Registered entry →
    registry.instance_ balancing entry.1 = (registry, entry.2)
  returned : ∀ key, registry.Comparable key →
    (registry.instance_ balancing key).1.Registered (key, (registry.instance_ balancing key).2)
  unique : ∀ first second, registry.Registered first → registry.Registered second →
    (first.1 = second.1 ↔ first.2 = second.2)
  owns : ∀ handle ∈ registry.handles, registry.Owns handle
  held : ∀ address subscription token, registry.objects.find? address = some subscription →
    (subscription.callbacks.find? token).isSome = true →
    ∃ handle ∈ registry.handles, handle.instance_ = address ∧ handle.token = token
  erased : ∀ call next entry, registry.Undisturbed call →
    registry.apply balancing call = some next → registry.Registered entry →
    (¬ next.Registered entry ↔ registry.UnregistersLast entry call)
  noneFailed : registry.assertionFailed = false
  noneDangling : registry.danglingUse = false

namespace WellFormed

theorem shared (wellFormed : registry.WellFormed) (registered : registry.Registered entry) :
    registry.find? entry.1 = some entry :=
  (wellFormed.find?_eq_some_iff (wellFormed.comparable registered)).mpr ⟨registered, rfl⟩

theorem instance_registered (balancing : SearchTree.Balancing (Key × Nat))
    (wellFormed : registry.WellFormed)
    (comparable : registry.Comparable key) (registered : registry.Registered entry) :
    (registry.instance_ balancing key).1.Registered entry := by
  obtain ⟨-, -, -, unchanged | ⟨-, -, grows⟩⟩ :=
    wellFormed.instance_spec balancing comparable
  · rw [unchanged]
    exact registered
  · exact grows entry registered

theorem erased_iff (wellFormed : registry.WellFormed) {call : Call Callback}
    (undisturbed : registry.Undisturbed call)
    (applied : registry.apply balancing call = some next)
    (registered : registry.Registered entry) :
    ¬ next.Registered entry ↔ registry.UnregistersLast entry call := by
  cases call with
  | instance_ key =>
      obtain rfl := Option.some.inj applied
      simpa [UnregistersLast] using
        wellFormed.instance_registered balancing undisturbed registered
  | create key callback =>
      obtain rfl := Option.some.inj applied
      have stays := wellFormed.instance_registered balancing undisturbed.1 registered
      have same : (registry.create balancing key callback).instances =
          (registry.instance_ balancing key).1.instances := by
        simp only [Registry.create, registerOnUpdateCallback]
        split <;> rfl
      simpa [UnregistersLast, registered_congr same] using stays
  | destroy index =>
      obtain ⟨handle, present, -⟩ := Option.map_eq_some_iff.mp applied
      obtain ⟨subscription, after⟩ := wellFormed.unregistered present applied
      obtain ⟨-, subscription', found, has⟩ := wellFormed.owns handle (List.mem_of_getElem? present)
      obtain rfl := Option.some.inj (after.found.symm.trans found)
      have onlyIff : (subscription.callbacks.erase handle.token).entries = [] ↔
          ∀ token, (subscription.callbacks.find? token).isSome = true ↔ token = handle.token := by
        rw [OrderedMap.entries_eq_nil_iff]
        simp only [OrderedMap.find?_erase, ite_eq_left_iff]
        constructor
        · intro none token
          constructor
          · intro isSome
            by_contra different
            rw [none token different] at isSome
            cases isSome
          · rintro rfl
            exact has
        · intro only token different
          exact Option.not_isSome_iff_eq_none.mp fun isSome => different ((only token).mp isSome)
      simp only [UnregistersLast, present, Option.some.injEq]
      rcases after.outcome with ⟨last, -, member, -⟩ | ⟨more, same, -⟩
      · rw [member]
        simp only [registered, true_and, not_not]
        constructor
        · intro here
          exact ⟨handle, subscription, rfl, here.symm, here ▸ found, onlyIff.mp last⟩
        · rintro ⟨other, -, rfl, here, -⟩
          exact here.symm
      · simp only [registered_congr same, registered, not_true_eq_false, false_iff]
        rintro ⟨other, otherSubscription, rfl, here, foundOther, only⟩
        obtain rfl := Option.some.inj ((here ▸ found).symm.trans foundOther)
        exact more (onlyIff.mpr only)

end WellFormed

theorem one_instance_per_key {config : Config (Registry Callback) Empty}
    (reached : (machine balancing).Reaches (fun config call => config.state.Undisturbed call)
      initial config) : OneInstancePerKey balancing config.state := by
  have wellFormed := wellFormed_of_reaches reached
  constructor
  · exact fun key => wellFormed.comparable_iff
  · exact fun entry registered => wellFormed.shared registered
  · intro entry registered
    simp [instance_, wellFormed.shared registered]
  · exact fun key comparable => (wellFormed.instance_spec balancing comparable).2.1
  · intro first second inFirst inSecond
    constructor
    · intro sameKey
      have again := wellFormed.shared inFirst
      rw [sameKey, wellFormed.shared inSecond, Option.some.injEq] at again
      rw [again]
    · exact fun same => congrArg Prod.fst (wellFormed.sameAddress first second inFirst inSecond same)
  · exact wellFormed.owns
  · exact wellFormed.held
  · exact fun call next entry undisturbed applied registered =>
      wellFormed.erased_iff undisturbed applied registered
  · exact wellFormed.noneFailed
  · exact wellFormed.noneDangling

/-- Two nodes with the same prefix, and a second prefix on one of them. -/
theorem one_instance_per_key_two_nodes :
    ∃ config : Config (Registry Unit) Empty, config.state.handles.length = 2 ∧
      config.state.instances.toList.length = 2 ∧
      OneInstancePerKey (.small _) config.state := by
  obtain ⟨config, reached, handles, instances⟩ := Machine.reaches_of_run_any
    (machine (.small _) : Machine (Registry Unit) Empty (Call Unit)) (fun config call => config.state.Undisturbed call)
    initial
    (fun config => config.state.handles.length = 2 ∧ config.state.instances.toList.length = 2)
    [.create ⟨1, "a/fmu/out/vehicle_status"⟩ (), .create ⟨1, "a/fmu/out/vehicle_status"⟩ (),
      .create ⟨2, "b/fmu/out/vehicle_status"⟩ (), .destroy 0]
    (by decide)
  exact ⟨config, handles, instances, one_instance_per_key reached⟩

/-- Two nodes whose prefixes are in the opposite order: the second instance is registered where no
lookup goes, so the next call for its key makes a third one that is not kept. The `emplace` of
libstdc++ from version 12 on keeps it, as a second instance of that key. -/
theorem crossing_key_dangles :
    Key.less ⟨1, "b/fmu/out/vehicle_status"⟩ ⟨2, "a/fmu/out/vehicle_status"⟩ = true ∧
    Key.less ⟨2, "a/fmu/out/vehicle_status"⟩ ⟨1, "b/fmu/out/vehicle_status"⟩ = true ∧
    ∃ config : Config (Registry Unit) Empty,
      (machine (.small _)).Reaches Machine.unrestricted initial config ∧
      (config.state.Registered (⟨2, "a/fmu/out/vehicle_status"⟩, 1) ∧
        config.state.find? ⟨2, "a/fmu/out/vehicle_status"⟩ = none ∧
        (config.state.instance_ (.small _) ⟨2, "a/fmu/out/vehicle_status"⟩).2 ≠ 1 ∧
        config.state.danglingUse = true) := by
  refine ⟨by decide, by decide, ?_⟩
  exact Machine.reaches_of_run_any
    (machine (.small _) : Machine (Registry Unit) Empty (Call Unit)) Machine.unrestricted initial _
    [.create ⟨1, "b/fmu/out/vehicle_status"⟩ (), .create ⟨2, "a/fmu/out/vehicle_status"⟩ (),
      .create ⟨2, "a/fmu/out/vehicle_status"⟩ ()]
    (by decide)

end Registry

end SharedSubscription

end Px4Ros2
