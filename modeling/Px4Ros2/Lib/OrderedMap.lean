import Mathlib.Order.Lattice
import Mathlib.Data.List.Basic

/-! Maps that iterate in the order of their keys, as lists of entries with strictly increasing
keys. The operations are on plain entry lists, where inductive types can nest them; `OrderedMap`
carries the order as a field. -/

set_option autoImplicit false

namespace Lib

namespace Entries

variable {Key Value : Type} [LinearOrder Key]

def Sorted (entries : List (Key × Value)) : Prop :=
  entries.Pairwise fun first second => first.1 < second.1

instance (entries : List (Key × Value)) : Decidable (Sorted entries) :=
  inferInstanceAs (Decidable (entries.Pairwise _))

def find? (key : Key) : List (Key × Value) → Option Value
  | [] => none
  | (other, value) :: rest => if key = other then some value else find? key rest

/-- Adds an entry, or replaces the value of its key. -/
def insert (key : Key) (value : Value) : List (Key × Value) → List (Key × Value)
  | [] => [(key, value)]
  | (other, old) :: rest =>
      if key < other then (key, value) :: (other, old) :: rest
      else if key = other then (key, value) :: rest
      else (other, old) :: insert key value rest

def erase (key : Key) (entries : List (Key × Value)) : List (Key × Value) :=
  entries.filter fun entry => entry.1 ≠ key

/-- The key of the first entry that passes. -/
def firstKey? (passes : Key → Bool) (entries : List (Key × Value)) : Option Key :=
  (entries.find? fun entry => passes entry.1).map Prod.fst

variable {key other : Key} {value : Value} {entries : List (Key × Value)}

@[simp] theorem find?_insert :
    find? other (insert key value entries) =
      if other = key then some value else find? other entries := by
  induction entries with
  | nil => simp [insert, find?]
  | cons entry rest ih =>
      obtain ⟨head, old⟩ := entry
      simp only [insert]
      split
      · simp [find?]
      · split
        · rename_i same
          subst same
          by_cases atKey : other = key <;> simp [find?, atKey]
        · rename_i different
          simp only [find?, ih]
          by_cases atHead : other = head
          · have notKey : other ≠ key := fun same => different (same ▸ atHead)
            simp [atHead, atHead ▸ notKey]
          · simp [atHead]

@[simp] theorem find?_erase :
    find? other (erase key entries) = if other = key then none else find? other entries := by
  induction entries with
  | nil => simp [erase, find?]
  | cons entry rest ih =>
      obtain ⟨head, old⟩ := entry
      by_cases removed : head = key
      · subst removed
        have dropped : erase head ((head, old) :: rest) = erase head rest := by simp [erase]
        rw [dropped, ih]
        by_cases atKey : other = head <;> simp [find?, atKey]
      · have kept : erase key ((head, old) :: rest) = (head, old) :: erase key rest := by
          simp [erase, removed]
        rw [kept]
        simp only [find?, ih]
        by_cases atHead : other = head
        · simp [atHead, removed]
        · simp [atHead]

theorem mem_erase {entry : Key × Value} :
    entry ∈ erase key entries ↔ entry ∈ entries ∧ entry.1 ≠ key := by
  simp [erase]

theorem mem_insert {entry : Key × Value} (member : entry ∈ insert key value entries) :
    entry = (key, value) ∨ entry ∈ entries := by
  induction entries with
  | nil => simpa [insert] using member
  | cons head rest ih =>
      simp only [insert] at member
      split at member
      · exact List.mem_cons.mp member
      · split at member
        · rcases List.mem_cons.mp member with new | old
          · exact .inl new
          · exact .inr (List.mem_cons_of_mem _ old)
        · rcases List.mem_cons.mp member with first | later
          · exact .inr (first ▸ List.mem_cons_self)
          · exact (ih later).imp id (List.mem_cons_of_mem _)

theorem sorted_erase (sorted : Sorted entries) : Sorted (erase key entries) :=
  List.Pairwise.filter _ sorted

theorem sorted_insert (sorted : Sorted entries) : Sorted (insert key value entries) := by
  induction entries with
  | nil => simp [insert, Sorted]
  | cons entry rest ih =>
      obtain ⟨head, old⟩ := entry
      obtain ⟨above, sortedRest⟩ := List.pairwise_cons.mp sorted
      simp only [insert]
      split
      · rename_i before
        refine List.pairwise_cons.mpr ⟨?_, sorted⟩
        intro next member
        rcases List.mem_cons.mp member with rfl | later
        · exact before
        · exact before.trans (above next later)
      · rename_i notBefore
        split
        · rename_i same
          subst same
          exact List.pairwise_cons.mpr ⟨above, sortedRest⟩
        · rename_i different
          refine List.pairwise_cons.mpr ⟨?_, ih sortedRest⟩
          intro next member
          rcases mem_insert member with rfl | later
          · exact lt_of_le_of_ne (not_lt.mp notBefore) (Ne.symm different)
          · exact above next later

theorem find?_eq_none_iff : find? key entries = none ↔ ∀ entry ∈ entries, entry.1 ≠ key := by
  induction entries with
  | nil => simp [find?]
  | cons entry rest ih =>
      obtain ⟨head, old⟩ := entry
      by_cases atHead : key = head
      · simp [find?, atHead]
      · simp [find?, atHead, ih, Ne.symm atHead]

theorem mem_of_find? (found : find? key entries = some value) : (key, value) ∈ entries := by
  induction entries with
  | nil => simp [find?] at found
  | cons entry rest ih =>
      obtain ⟨head, old⟩ := entry
      by_cases atHead : key = head
      · simp only [find?, atHead, if_true, Option.some.injEq] at found
        simp [atHead, found]
      · simp only [find?, atHead, if_false] at found
        exact List.mem_cons_of_mem _ (ih found)

theorem find?_of_mem (sorted : Sorted entries) (member : (key, value) ∈ entries) :
    find? key entries = some value := by
  induction entries with
  | nil => cases member
  | cons entry rest ih =>
      obtain ⟨head, old⟩ := entry
      obtain ⟨above, sortedRest⟩ := List.pairwise_cons.mp sorted
      rcases List.mem_cons.mp member with same | later
      · cases same
        simp [find?]
      · have after : key ≠ head := ne_of_gt (above (key, value) later)
        simpa [find?, after] using ih sortedRest later

theorem firstKey?_of_eq_some {passes : Key → Bool} (sorted : Sorted entries)
    (found : firstKey? passes entries = some key) :
    passes key = true ∧ (find? key entries).isSome = true ∧
      ∀ other, passes other = true → (find? other entries).isSome = true → key ≤ other := by
  induction entries with
  | nil => cases found
  | cons entry rest ih =>
      obtain ⟨head, value⟩ := entry
      obtain ⟨above, sortedRest⟩ := List.pairwise_cons.mp sorted
      cases atHead : passes head with
      | true =>
          have same : head = key := by simpa [firstKey?, atHead] using found
          subst same
          constructor
          · exact atHead
          constructor
          · simp [find?]
          intro other _ present
          obtain ⟨_, present⟩ := Option.isSome_iff_exists.mp present
          rcases List.mem_cons.mp (mem_of_find? present) with same | later
          · exact (congrArg Prod.fst same).ge
          · exact (above _ later).le
      | false =>
          have later : firstKey? passes rest = some key := by
            simpa [firstKey?, atHead] using found
          obtain ⟨passesKey, present, least⟩ := ih sortedRest later
          have notHead : ∀ other, passes other = true → other ≠ head := by
            rintro other passesOther rfl
            rw [atHead] at passesOther
            cases passesOther
          constructor
          · exact passesKey
          constructor
          · simpa [find?, notHead key passesKey] using present
          intro other passesOther inEntries
          refine least other passesOther ?_
          simpa [find?, notHead other passesOther] using inEntries

theorem firstKey?_of_eq_none {passes : Key → Bool} (none : firstKey? passes entries = none)
    (passesKey : passes key = true) : find? key entries = .none := by
  rw [find?_eq_none_iff]
  rintro entry member rfl
  simp only [firstKey?, Option.map_eq_none_iff, List.find?_eq_none] at none
  exact none entry member passesKey

theorem Sorted.nodup (sorted : Sorted entries) : entries.Nodup :=
  sorted.imp fun before same => absurd (same ▸ before) (lt_irrefl _)

/-- Maps with the same lookups have the same entries. -/
theorem ext {first second : List (Key × Value)} (sortedFirst : Sorted first)
    (sortedSecond : Sorted second) (same : ∀ key, find? key first = find? key second) :
    first = second := by
  refine List.Perm.eq_of_pairwise ?_ sortedFirst sortedSecond ?_
  · intro entry next _ _ before after
    exact absurd before (not_lt.mpr after.le)
  · refine (List.perm_ext_iff_of_nodup sortedFirst.nodup sortedSecond.nodup).mpr ?_
    rintro ⟨key, value⟩
    constructor
    · intro member
      exact mem_of_find? (same key ▸ find?_of_mem sortedFirst member)
    · intro member
      exact mem_of_find? (same key ▸ find?_of_mem sortedSecond member)

/-- A key above all others goes to the end. -/
theorem insert_of_above (above : ∀ entry ∈ entries, entry.1 < key) :
    insert key value entries = entries ++ [(key, value)] := by
  induction entries with
  | nil => rfl
  | cons entry rest ih =>
      obtain ⟨head, old⟩ := entry
      have after : head < key := above (head, old) List.mem_cons_self
      simp only [insert, not_lt.mpr after.le, after.ne', if_false, List.cons_append]
      rw [ih fun next member => above next (List.mem_cons_of_mem _ member)]

/-! The values that pass a test, in the order of their keys. -/

def select (passes : Value → Bool) (entries : List (Key × Value)) : List Value :=
  (entries.map Prod.snd).filter passes

variable {passes : Value → Bool}

theorem select_insert_of_not (fails : passes value = false)
    (replaced : ∀ entry ∈ entries, entry.1 = key → passes entry.2 = false) :
    select passes (insert key value entries) = select passes entries := by
  induction entries with
  | nil => simp [select, insert, fails]
  | cons entry rest ih =>
      obtain ⟨head, old⟩ := entry
      simp only [insert]
      split
      · simp [select, fails]
      · split
        · rename_i same
          have gone : passes old = false := replaced (head, old) List.mem_cons_self same.symm
          simp [select, fails, gone]
        · have later := ih fun other member => replaced other (List.mem_cons_of_mem _ member)
          simp only [select, List.map_cons, List.filter_cons] at later ⊢
          rw [later]

omit [LinearOrder Key] in
theorem select_eq_nil_iff :
    select passes entries = [] ↔ ∀ entry ∈ entries, passes entry.2 = false := by
  simp only [select, List.filter_eq_nil_iff, List.forall_mem_map, Bool.not_eq_true]

/-- The only value that passes, when none did before. -/
theorem select_insert_of_none (passed : passes value = true)
    (none : select passes entries = []) : select passes (insert key value entries) = [value] := by
  induction entries with
  | nil => simp [select, insert, passed]
  | cons entry rest ih =>
      obtain ⟨head, old⟩ := entry
      have fails : passes old = false :=
        select_eq_nil_iff.mp none (head, old) List.mem_cons_self
      have restNone : select passes rest = [] := by
        simpa [select, fails] using none
      have later := ih restNone
      simp only [select] at later restNone
      simp only [insert]
      split
      · simp [select, passed, fails, restNone]
      · split
        · simp [select, passed, restNone]
        · simp [select, fails, later]

theorem select_erase_of_not (erased : ∀ entry ∈ entries, entry.1 = key → passes entry.2 = false) :
    select passes (erase key entries) = select passes entries := by
  induction entries with
  | nil => rfl
  | cons entry rest ih =>
      have later := ih fun other member => erased other (List.mem_cons_of_mem _ member)
      by_cases same : entry.1 = key
      · have fails := erased entry List.mem_cons_self same
        have dropped : erase key (entry :: rest) = erase key rest := by simp [erase, same]
        rw [dropped, later]
        simp [select, fails]
      · have kept : erase key (entry :: rest) = entry :: erase key rest := by simp [erase, same]
        rw [kept]
        simp only [select, List.map_cons, List.filter_cons] at later ⊢
        rw [later]

/-- The first value that passes, when it is the only one. -/
theorem find?_of_select {only : Value} (single : select passes entries = [only]) :
    ∃ first, entries.find? (fun entry => passes entry.2) = some (first, only) ∧
      select passes (erase first entries) = [] := by
  induction entries with
  | nil => cases single
  | cons entry rest ih =>
      obtain ⟨head, old⟩ := entry
      cases passed : passes old with
      | true =>
          have shape : old = only ∧ select passes rest = [] := by
            simpa [select, passed] using single
          obtain ⟨rfl, none⟩ := shape
          have dropped : erase head ((head, old) :: rest) = erase head rest := by simp [erase]
          refine ⟨head, by simp [passed], ?_⟩
          rw [dropped, select_erase_of_not fun other member _ =>
            select_eq_nil_iff.mp none other member]
          exact none
      | false =>
          have single' : select passes rest = [only] := by
            simpa [select, passed] using single
          obtain ⟨first, found, none⟩ := ih single'
          refine ⟨first, by simpa [passed] using found, ?_⟩
          by_cases same : head = first
          · have dropped : erase first ((head, old) :: rest) = erase first rest := by
              simp [erase, same]
            rw [dropped]
            exact none
          · have kept : erase first ((head, old) :: rest) = (head, old) :: erase first rest := by
              simp [erase, same]
            rw [kept]
            simp only [select] at none
            simp [select, passed, none]

end Entries

/-- A map whose entries are in the order of their keys. -/
structure OrderedMap (Key Value : Type) [LinearOrder Key] where
  entries : List (Key × Value)
  sorted : Entries.Sorted entries

namespace OrderedMap

variable {Key Value : Type} [LinearOrder Key]

def empty : OrderedMap Key Value := ⟨[], List.Pairwise.nil⟩

@[simp] theorem entries_empty : (empty : OrderedMap Key Value).entries = [] := rfl

def find? (map : OrderedMap Key Value) (key : Key) : Option Value :=
  Entries.find? key map.entries

def insert (map : OrderedMap Key Value) (key : Key) (value : Value) : OrderedMap Key Value :=
  ⟨Entries.insert key value map.entries, Entries.sorted_insert map.sorted⟩

def erase (map : OrderedMap Key Value) (key : Key) : OrderedMap Key Value :=
  ⟨Entries.erase key map.entries, Entries.sorted_erase map.sorted⟩

/-- The key of the first entry. -/
def first? (map : OrderedMap Key Value) : Option Key :=
  Entries.firstKey? (fun _ => true) map.entries

/-- The key of the entry after this key. -/
def next? (map : OrderedMap Key Value) (key : Key) : Option Key :=
  Entries.firstKey? (fun other => decide (key < other)) map.entries

def values (map : OrderedMap Key Value) : List Value :=
  map.entries.map Prod.snd

variable {map : OrderedMap Key Value} {key other : Key} {value : Value}

@[simp] theorem find?_empty : (empty : OrderedMap Key Value).find? key = none := rfl

@[simp] theorem find?_insert :
    (map.insert key value).find? other = if other = key then some value else map.find? other :=
  Entries.find?_insert

@[simp] theorem find?_erase :
    (map.erase key).find? other = if other = key then none else map.find? other :=
  Entries.find?_erase

theorem first?_of_eq_some (found : map.first? = some key) :
    (map.find? key).isSome = true ∧ ∀ other, (map.find? other).isSome = true → key ≤ other := by
  obtain ⟨-, present, least⟩ := Entries.firstKey?_of_eq_some map.sorted found
  exact ⟨present, fun other => least other rfl⟩

theorem first?_of_eq_none (none : map.first? = none) : map.find? key = .none :=
  Entries.firstKey?_of_eq_none none rfl

theorem next?_of_eq_some {next : Key} (found : map.next? key = some next) :
    key < next ∧ (map.find? next).isSome = true ∧
      ∀ other, key < other → (map.find? other).isSome = true → next ≤ other := by
  obtain ⟨above, present, least⟩ := Entries.firstKey?_of_eq_some map.sorted found
  exact ⟨of_decide_eq_true above, present, fun other after => least other (decide_eq_true after)⟩

theorem next?_of_eq_none (none : map.next? key = none) (after : key < other) :
    map.find? other = .none :=
  Entries.firstKey?_of_eq_none none (decide_eq_true after)

/-- A map without entries finds nothing, and only such a map. -/
theorem entries_eq_nil_iff : map.entries = [] ↔ ∀ key, map.find? key = none := by
  constructor
  · intro none key
    simp [find?, none, Entries.find?]
  · intro nothing
    cases shape : map.entries with
    | nil => rfl
    | cons entry rest =>
        have found := nothing entry.1
        simp [find?, shape, Entries.find?] at found

end OrderedMap

end Lib
