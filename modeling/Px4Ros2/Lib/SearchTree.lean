import Mathlib.Data.List.Basic

/-! The nodes of a tree map that compares its keys with a function of the caller. Nothing here asks
that this function is an order: what a lookup or an insertion does follows from the comparisons
made on the way down. That they find and place entries as in a sorted list needs
`LinearlyOrders`. -/

set_option autoImplicit false

namespace Lib

/-- The nodes carry what the balancing needs to know of them. -/
inductive SearchTree (Entry : Type) where
  | leaf
  | node (red : Bool) (left : SearchTree Entry) (entry : Entry) (right : SearchTree Entry)
deriving DecidableEq, Repr

/-- A comparison is a strict linear order of these keys. -/
structure LinearlyOrders {Key : Type} (less : Key → Key → Bool) (keys : Key → Prop) : Prop where
  irrefl : ∀ key, keys key → less key key = false
  trans : ∀ {first second third}, keys first → keys second → keys third →
    less first second = true → less second third = true → less first third = true
  total : ∀ {first second}, keys first → keys second → first ≠ second →
    less first second = true ∨ less second first = true

namespace LinearlyOrders

variable {Key : Type} {less : Key → Key → Bool} {keys : Key → Prop} {first second : Key}

theorem asymm (orders : LinearlyOrders less keys) (inFirst : keys first) (inSecond : keys second)
    (before : less first second = true) : less second first = false := by
  cases after : less second first with
  | false => rfl
  | true =>
      have loop := orders.trans inFirst inSecond inFirst before after
      rw [orders.irrefl _ inFirst] at loop
      cases loop

theorem mono {fewer : Key → Prop} (orders : LinearlyOrders less keys)
    (included : ∀ key, fewer key → keys key) : LinearlyOrders less fewer where
  irrefl key inKey := orders.irrefl key (included key inKey)
  trans inFirst inSecond inThird :=
    orders.trans (included _ inFirst) (included _ inSecond) (included _ inThird)
  total inFirst inSecond := orders.total (included _ inFirst) (included _ inSecond)

end LinearlyOrders

namespace SearchTree

variable {Entry Key Value : Type}

def toList : SearchTree Entry → List Entry
  | leaf => []
  | node _ left entry right => left.toList ++ entry :: right.toList

@[simp] theorem toList_leaf : (leaf : SearchTree Entry).toList = [] := rfl

@[simp] theorem toList_node {red : Bool} {left right : SearchTree Entry} {entry : Entry} :
    (node red left entry right).toList = left.toList ++ entry :: right.toList := rfl

/-- The last entry on the way down that is not below the key. -/
def lowerBound (less : Key → Key → Bool) (key : Key) :
    SearchTree (Key × Value) → Option (Key × Value) → Option (Key × Value)
  | leaf, bound => bound
  | node _ left entry right, bound =>
      if less entry.1 key then right.lowerBound less key bound
      else left.lowerBound less key (some entry)

def find? (less : Key → Key → Bool) (key : Key) (tree : SearchTree (Key × Value)) :
    Option (Key × Value) :=
  (tree.lowerBound less key none).filter fun entry => !less key entry.1

/-- Hangs a new node where the way down ends, unless the entry before that place is not below
the new one, which is taken to say that the key is there already. So does `emplace` of libstdc++ up
to version 11; later ones look the key up first. -/
def insertUnique (less : Key → Key → Bool) (entry : Key × Value) :
    SearchTree (Key × Value) → Option (Key × Value) → Option (SearchTree (Key × Value))
  | leaf, before =>
      if before.all fun last => less last.1 entry.1 then some (node true leaf entry leaf) else none
  | node red left root right, before =>
      if less entry.1 root.1 then
        (left.insertUnique less entry before).map fun left => node red left root right
      else
        (right.insertUnique less entry (some root)).map fun right => node red left root right

/-- How nodes are moved and taken out, which keeps the others in their sequence. -/
structure Balancing (Entry : Type) where
  afterInsert : SearchTree Entry → SearchTree Entry
  erase : (Entry → Bool) → SearchTree Entry → SearchTree Entry
  toList_afterInsert : ∀ tree, (afterInsert tree).toList = tree.toList
  toList_erase : ∀ wanted tree, (erase wanted tree).toList = tree.toList.eraseP wanted

attribute [simp] Balancing.toList_afterInsert Balancing.toList_erase

def emplace (balancing : Balancing (Key × Value)) (less : Key → Key → Bool)
    (entry : Key × Value) (tree : SearchTree (Key × Value)) : SearchTree (Key × Value) :=
  ((tree.insertUnique less entry none).map balancing.afterInsert).getD tree

def Ordered (less : Key → Key → Bool) (tree : SearchTree (Key × Value)) : Prop :=
  tree.toList.Pairwise fun first second => less first.1 second.1 = true

def HasKey (tree : SearchTree (Key × Value)) (key : Key) : Prop :=
  ∃ entry ∈ tree.toList, entry.1 = key

variable {less : Key → Key → Bool} {keys : Key → Prop} {key : Key}
  {tree left right : SearchTree (Key × Value)} {entry root : Key × Value} {red : Bool}

theorem Ordered.node_iff :
    Ordered less (node red left root right) ↔
      Ordered less left ∧ Ordered less right ∧
      (∀ entry ∈ left.toList, less entry.1 root.1 = true) ∧
      (∀ entry ∈ right.toList, less root.1 entry.1 = true) ∧
      (∀ first ∈ left.toList, ∀ second ∈ right.toList, less first.1 second.1 = true) := by
  simp only [Ordered, toList_node, List.pairwise_append, List.pairwise_cons, List.mem_cons]
  constructor
  · rintro ⟨sortedLeft, ⟨above, sortedRight⟩, across⟩
    exact ⟨sortedLeft, sortedRight, fun entry member => across entry member root (.inl rfl), above,
      fun first inLeft second inRight => across first inLeft second (.inr inRight)⟩
  · rintro ⟨sortedLeft, sortedRight, below, above, across⟩
    refine ⟨sortedLeft, ⟨above, sortedRight⟩, ?_⟩
    rintro first inLeft second (rfl | inRight)
    · exact below first inLeft
    · exact across first inLeft second inRight

/-- The way down ends at the first entry of the sequence that is not below the key. -/
theorem lowerBound_eq (orders : LinearlyOrders less keys) (inKey : keys key)
    (inTree : ∀ entry ∈ tree.toList, keys entry.1) (ordered : Ordered less tree)
    (bound : Option (Key × Value)) :
    tree.lowerBound less key bound =
      (tree.toList.find? fun entry => !less entry.1 key).or bound := by
  induction tree generalizing bound with
  | leaf => rfl
  | node red left root right leftIH rightIH =>
      obtain ⟨sortedLeft, sortedRight, below, above, -⟩ := Ordered.node_iff.mp ordered
      have inLeft : ∀ entry ∈ left.toList, keys entry.1 := fun entry member =>
        inTree entry (List.mem_append_left _ member)
      have inRight : ∀ entry ∈ right.toList, keys entry.1 := fun entry member =>
        inTree entry (List.mem_append_right _ (List.mem_cons_of_mem _ member))
      have inRoot : keys root.1 := inTree root (by simp)
      simp only [lowerBound, toList_node, List.find?_append, List.find?_cons]
      cases rootBelow : less root.1 key with
      | false => simp [leftIH inLeft sortedLeft]
      | true =>
          have leftBelow : left.toList.find? (fun entry => !less entry.1 key) = none := by
            simp only [List.find?_eq_none, Bool.not_eq_true', Bool.not_eq_false]
            intro entry member
            exact orders.trans (inLeft entry member) inRoot inKey (below entry member) rootBelow
          simp [rightIH inRight sortedRight, leftBelow]

/-- A lookup finds exactly the entry of the key. -/
theorem find?_eq_some_iff (orders : LinearlyOrders less keys) (inKey : keys key)
    (inTree : ∀ entry ∈ tree.toList, keys entry.1) (ordered : Ordered less tree) :
    tree.find? less key = some entry ↔ entry ∈ tree.toList ∧ entry.1 = key := by
  simp only [find?, lowerBound_eq orders inKey inTree ordered, Option.or_none,
    Option.filter_eq_some_iff, Bool.not_eq_true']
  constructor
  · rintro ⟨found, notAbove⟩
    have notBelow : less entry.1 key = false := by simpa using List.find?_some found
    have member := List.mem_of_find?_eq_some found
    refine ⟨member, ?_⟩
    by_contra different
    rcases orders.total (inTree entry member) inKey different with below | above
    · rw [notBelow] at below
      cases below
    · rw [notAbove] at above
      cases above
  · rintro ⟨member, rfl⟩
    refine ⟨?_, orders.irrefl _ inKey⟩
    obtain ⟨before, after, split⟩ := List.append_of_mem member
    rw [Ordered, split, List.pairwise_append] at ordered
    rw [split, List.find?_append]
    have noneBefore : before.find? (fun other => !less other.1 entry.1) = none := by
      simp only [List.find?_eq_none, Bool.not_eq_true', Bool.not_eq_false]
      exact fun other inBefore => ordered.2.2 other inBefore entry List.mem_cons_self
    simp [noneBefore, orders.irrefl _ inKey]

theorem find?_eq_none_iff (orders : LinearlyOrders less keys) (inKey : keys key)
    (inTree : ∀ entry ∈ tree.toList, keys entry.1) (ordered : Ordered less tree) :
    tree.find? less key = none ↔ ¬ tree.HasKey key := by
  rw [Option.eq_none_iff_forall_ne_some]
  simp only [ne_eq, find?_eq_some_iff orders inKey inTree ordered, HasKey, not_exists]

/-- A new key gets its place in the sequence. -/
theorem insertUnique_spec (orders : LinearlyOrders less keys) (inEntry : keys entry.1)
    (inTree : ∀ other ∈ tree.toList, keys other.1) (ordered : Ordered less tree)
    (absent : ¬ tree.HasKey entry.1) (before : Option (Key × Value))
    (above : before.all (fun last => less last.1 entry.1) = true) :
    ∃ grown front back, tree.insertUnique less entry before = some grown ∧
      tree.toList = front ++ back ∧ grown.toList = front ++ entry :: back ∧
      (∀ other ∈ front, less other.1 entry.1 = true) ∧
      (∀ other ∈ back, less entry.1 other.1 = true) := by
  induction tree generalizing before with
  | leaf =>
      exact ⟨node true leaf entry leaf, [], [], by simp [insertUnique, above], rfl, rfl, nofun,
        nofun⟩
  | node red left root right leftIH rightIH =>
      obtain ⟨sortedLeft, sortedRight, belowRoot, aboveRoot, across⟩ := Ordered.node_iff.mp ordered
      have inLeft : ∀ other ∈ left.toList, keys other.1 := fun other member =>
        inTree other (List.mem_append_left _ member)
      have inRight : ∀ other ∈ right.toList, keys other.1 := fun other member =>
        inTree other (List.mem_append_right _ (List.mem_cons_of_mem _ member))
      have inRoot : keys root.1 := inTree root (by simp)
      have notLeft : ¬ left.HasKey entry.1 := fun ⟨other, member, same⟩ =>
        absent ⟨other, List.mem_append_left _ member, same⟩
      have notRight : ¬ right.HasKey entry.1 := fun ⟨other, member, same⟩ =>
        absent ⟨other, List.mem_append_right _ (List.mem_cons_of_mem _ member), same⟩
      have notRoot : root.1 ≠ entry.1 := fun same => absent ⟨root, by simp, same⟩
      cases goesLeft : less entry.1 root.1 with
      | true =>
          obtain ⟨grown, front, back, inserted, was, now, small, large⟩ :=
            leftIH inLeft sortedLeft notLeft before above
          refine ⟨node red grown root right, front, back ++ root :: right.toList,
            by simp [insertUnique, goesLeft, inserted], by simp [was], by simp [now], small, ?_⟩
          intro other member
          rcases List.mem_append.mp member with inBack | rest
          · exact large other inBack
          · rcases List.mem_cons.mp rest with rfl | later
            · exact goesLeft
            · exact orders.trans inEntry inRoot (inRight other later) goesLeft
                (aboveRoot other later)
      | false =>
          have rootBelow : less root.1 entry.1 = true := by
            rcases orders.total inRoot inEntry notRoot with below | aboveEntry
            · exact below
            · rw [goesLeft] at aboveEntry
              cases aboveEntry
          obtain ⟨grown, front, back, inserted, was, now, small, large⟩ :=
            rightIH inRight sortedRight notRight (some root) (by simp [rootBelow])
          refine ⟨node red left root grown, left.toList ++ root :: front, back,
            by simp [insertUnique, goesLeft, inserted], by simp [was], by simp [now], ?_, large⟩
          intro other member
          rcases List.mem_append.mp member with inFront | rest
          · exact orders.trans (inLeft other inFront) inRoot inEntry (belowRoot other inFront)
              rootBelow
          · rcases List.mem_cons.mp rest with rfl | later
            · exact rootBelow
            · exact small other later

/-- Whatever the comparisons say, the entries stay. -/
theorem toList_subset_insertUnique {before : Option (Key × Value)}
    {grown : SearchTree (Key × Value)} (inserted : tree.insertUnique less entry before = some grown) :
    tree.toList ⊆ grown.toList := by
  induction tree generalizing before grown with
  | leaf => exact List.nil_subset _
  | node red left root right leftIH rightIH =>
      simp only [insertUnique] at inserted
      split at inserted
      · obtain ⟨left', insertedLeft, rfl⟩ := Option.map_eq_some_iff.mp inserted
        have grows := leftIH insertedLeft
        simp only [toList_node]
        exact List.append_subset.mpr
          ⟨fun _ member => List.mem_append_left _ (grows member), List.subset_append_right _ _⟩
      · obtain ⟨right', insertedRight, rfl⟩ := Option.map_eq_some_iff.mp inserted
        have grows := rightIH insertedRight
        simp only [toList_node]
        exact List.append_subset.mpr ⟨List.subset_append_left _ _, fun _ member =>
          List.mem_append_right _ (List.cons_subset_cons _ grows member)⟩

variable {balancing : Balancing (Key × Value)}

theorem toList_subset_emplace (balancing : Balancing (Key × Value)) (less : Key → Key → Bool)
    (tree : SearchTree (Key × Value)) (entry : Key × Value) :
    tree.toList ⊆ (tree.emplace balancing less entry).toList := by
  unfold emplace
  cases inserted : tree.insertUnique less entry none with
  | none => exact List.Subset.refl _
  | some grown =>
      simp only [Option.map_some, Option.getD_some, Balancing.toList_afterInsert]
      exact toList_subset_insertUnique inserted

theorem emplace_spec (balancing : Balancing (Key × Value)) (entry : Key × Value)
    (orders : LinearlyOrders less keys) (inEntry : keys entry.1)
    (inTree : ∀ other ∈ tree.toList, keys other.1) (ordered : Ordered less tree)
    (absent : ¬ tree.HasKey entry.1) :
    Ordered less (tree.emplace balancing less entry) ∧
      ∀ other, other ∈ (tree.emplace balancing less entry).toList ↔
        other = entry ∨ other ∈ tree.toList := by
  obtain ⟨grown, front, back, inserted, was, now, small, large⟩ :=
    insertUnique_spec orders inEntry inTree ordered absent none rfl
  have sequence : (tree.emplace balancing less entry).toList = front ++ entry :: back := by
    simp [emplace, inserted, now]
  constructor
  · rw [Ordered, sequence]
    rw [Ordered, was, List.pairwise_append] at ordered
    obtain ⟨sortedFront, sortedBack, across⟩ := ordered
    refine List.pairwise_append.mpr ⟨sortedFront, List.pairwise_cons.mpr ⟨large, sortedBack⟩, ?_⟩
    intro first inFront second member
    rcases List.mem_cons.mp member with rfl | later
    · exact small first inFront
    · exact across first inFront second later
  · intro other
    rw [sequence, was]
    simp only [List.mem_append, List.mem_cons]
    tauto

theorem Ordered.erase {wanted : Key × Value → Bool} (ordered : Ordered less tree) :
    Ordered less (balancing.erase wanted tree) := by
  rw [Ordered, balancing.toList_erase]
  exact List.Pairwise.sublist (List.eraseP_sublist) ordered

/-- A tree of these entries that leans to the right. -/
def ofList : List Entry → SearchTree Entry
  | [] => leaf
  | entry :: rest => node false leaf entry (ofList rest)

@[simp] theorem toList_ofList (entries : List Entry) : (ofList entries).toList = entries := by
  induction entries with
  | nil => rfl
  | cons entry rest ih => simp [ofList, ih]

def blackenRoot : SearchTree Entry → SearchTree Entry
  | leaf => leaf
  | node _ left entry right => node false left entry right

/-- What balancing comes to for trees of at most two nodes. -/
def Balancing.small (Entry : Type) : Balancing Entry where
  afterInsert := blackenRoot
  erase wanted tree := ofList (tree.toList.eraseP wanted)
  toList_afterInsert tree := by cases tree <;> rfl
  toList_erase wanted tree := toList_ofList _

end SearchTree

end Lib
