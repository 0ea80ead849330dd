import Mathlib.Data.List.Induction

/-! Logs: lists that grow at their end. -/

set_option autoImplicit false

namespace Lib

variable {α : Type} {log before after : List α} {new entry : α}

/-- Where an entry of a log stands after one more was written: it is the new one, or it stands
where it stood. -/
theorem snoc_eq_append_cons :
    log ++ [new] = before ++ entry :: after ↔
      (log = before ∧ new = entry ∧ after = []) ∨
        ∃ rest, after = rest ++ [new] ∧ log = before ++ entry :: rest := by
  constructor
  · intro shape
    cases after using List.reverseRecOn with
    | nil =>
        obtain ⟨same, entries⟩ := List.append_inj' shape rfl
        exact .inl ⟨same, List.singleton_inj.mp entries, rfl⟩
    | append_singleton rest last =>
        rw [← List.cons_append, ← List.append_assoc] at shape
        obtain ⟨same, entries⟩ := List.append_inj' shape rfl
        obtain rfl := List.singleton_inj.mp entries
        exact .inr ⟨rest, rfl, same⟩
  · intro places
    obtain ⟨rfl, rfl, rfl⟩ | ⟨rest, rfl, rfl⟩ := places
    · rfl
    · simp

/-- What holds of every entry and the entries before it. -/
theorem forall_snoc {P : List α → α → Prop} :
    (∀ before entry after, log ++ [new] = before ++ entry :: after → P before entry) ↔
      (∀ before entry after, log = before ++ entry :: after → P before entry) ∧ P log new := by
  constructor
  · intro all
    refine ⟨fun before entry after shape => ?_, all log new [] rfl⟩
    exact all before entry (after ++ [new]) (by simp [shape])
  · intro ⟨old, latest⟩ before entry after shape
    obtain ⟨rfl, rfl, -⟩ | ⟨rest, -, shape⟩ := snoc_eq_append_cons.mp shape
    · exact latest
    · exact old before entry rest shape

/-- What the latest entry of a kind says. -/
def latest {β : Type} (select : α → Option β) (log : List α) : Option β :=
  log.reverse.findSome? select

@[simp] theorem latest_nil {β : Type} {select : α → Option β} : latest select [] = none := rfl

@[simp] theorem latest_snoc {β : Type} {select : α → Option β} :
    latest select (log ++ [entry]) = (select entry).or (latest select log) := by
  simp only [latest, List.reverse_append, List.reverse_singleton, List.singleton_append,
    List.findSome?_cons]
  cases select entry <;> rfl

end Lib
