import Mathlib.Data.List.Basic

/-! Texts that are read by character classes, and records that end with a character of their own. -/

set_option autoImplicit false

namespace Lib

variable {α β : Type} {inside : α → Bool} {body rest : List α}

/-- Nothing of a class begins a text. -/
def StopsAt (inside : α → Bool) (text : List α) : Prop :=
  ∀ character ∈ text.head?, inside character = false

theorem StopsAt.nil : StopsAt inside [] := nofun

theorem StopsAt.cons {character : α} (outside : inside character = false) :
    StopsAt inside (character :: rest) := by
  intro other member
  obtain rfl : character = other := by simpa using member
  exact outside

/-- The longest prefix of a class is what is in the class, up to what stops it. -/
theorem takeWhile_append_stop (all : ∀ character ∈ body, inside character = true)
    (stops : StopsAt inside rest) : (body ++ rest).takeWhile inside = body := by
  rw [List.takeWhile_append_of_pos all]
  cases rest with
  | nil => simp
  | cons character rest => simp [stops character (by simp)]

theorem dropWhile_append_stop (all : ∀ character ∈ body, inside character = true)
    (stops : StopsAt inside rest) : (body ++ rest).dropWhile inside = rest := by
  rw [List.dropWhile_append_of_pos all]
  cases rest with
  | nil => rfl
  | cons character rest => simp [stops character (by simp)]

/-- A text up to the first terminator. -/
theorem append_terminator_inj {terminator : α} {first second before after : List α}
    (freeFirst : terminator ∉ first) (freeSecond : terminator ∉ second) :
    first ++ terminator :: before = second ++ terminator :: after ↔
      first = second ∧ before = after := by
  induction first generalizing second with
  | nil =>
      cases second with
      | nil => simp
      | cons character second =>
          have different : terminator ≠ character := fun same => freeSecond (by simp [same])
          simp [different]
  | cons character first ih =>
      cases second with
      | nil =>
          have different : character ≠ terminator := fun same => freeFirst (by simp [same])
          simp [different]
      | cons other second =>
          simp only [List.mem_cons, not_or] at freeFirst freeSecond
          simp [ih freeFirst.2 freeSecond.2, and_assoc]

/-- Records whose terminator occurs nowhere else can be told apart in their concatenation. -/
theorem flatMap_terminated_inj {record : β → List α} {terminator : α} {first second : List β}
    (free : ∀ value, value ∈ first ∨ value ∈ second → terminator ∉ record value)
    (injective : ∀ one ∈ first, ∀ two ∈ second, record one = record two → one = two) :
    (first.flatMap fun value => record value ++ [terminator]) =
        second.flatMap (fun value => record value ++ [terminator]) ↔
      first = second := by
  induction first generalizing second with
  | nil =>
      cases second with
      | nil => simp
      | cons value second => simp
  | cons one first ih =>
      cases second with
      | nil => simp
      | cons two second =>
          have freeOne := free one (.inl List.mem_cons_self)
          have freeTwo := free two (.inr List.mem_cons_self)
          have others := @ih second
            (fun value member => free value (member.imp (List.mem_cons_of_mem _)
              (List.mem_cons_of_mem _)))
            (fun value member other member' => injective value (List.mem_cons_of_mem _ member)
              other (List.mem_cons_of_mem _ member'))
          simp only [List.flatMap_cons, List.append_assoc, List.singleton_append]
          rw [append_terminator_inj freeOne freeTwo, others, List.cons.injEq]
          constructor
          · intro ⟨same, rest⟩
            exact ⟨injective one List.mem_cons_self two List.mem_cons_self same, rest⟩
          · rintro ⟨rfl, rest⟩
            exact ⟨rfl, rest⟩

end Lib
