import Px4Ros2.Lib.Records
import Px4Ros2.Components.MessageDefinition

/-! What the regular expression finds in a well-formed definition: the lines of its fields and
constants, but for those with a bounded string. -/

set_option autoImplicit false

namespace Px4Ros2.MessageHash

open Lib

variable {character : UInt8} {text rest type name spaces : List UInt8} {array : ArrayBound}

/-! ### Characters -/

theorem isSpace_of_isBlank (blank : isBlank character = true) : isSpace character = true := by
  simp only [isBlank, Bool.or_eq_true, beq_iff_eq] at blank
  cases blank with
  | inl space => subst space; rfl
  | inr tab => subst tab; rfl

theorem isSpace_of_isWord (word : isWord character = true) : isSpace character = false := by
  simp only [isWord, Bool.or_eq_true, Bool.and_eq_true, decide_eq_true_eq, beq_iff_eq,
    UInt8.le_iff_toNat_le, ← UInt8.toNat_inj, UInt8.reduceToNat] at word
  simp only [isSpace, Bool.or_eq_false_iff, Bool.and_eq_false_iff, decide_eq_false_iff_not,
    beq_eq_false_iff_ne, ne_eq, UInt8.le_iff_toNat_le, ← UInt8.toNat_inj, UInt8.reduceToNat]
  omega

theorem isType_of_isWord (word : isWord character = true) : isType character = true := by
  simp [isType, word]

theorem isType_of_isSpace (space : isSpace character = true) : isType character = false := by
  cases type : isType character with
  | false => rfl
  | true =>
      simp only [isType, Bool.or_eq_true, beq_iff_eq] at type
      cases type with
      | inl word => simp [isSpace_of_isWord word] at space
      | inr slash => subst slash; cases space

theorem ne_of_isWord (word : isWord character = true) : character ≠ 10 ∧ character ≠ 32 := by
  constructor
  · rintro rfl
    cases word
  · rintro rfl
    cases word

theorem ne_of_isDigit (digit : isDigit character = true) :
    character ≠ 10 ∧ character ≠ 32 ∧ character ≠ 93 := by
  refine ⟨?_, ?_, ?_⟩ <;>
    · rintro rfl
      cases digit

/-! ### Matching -/

theorem matchField_append_spaces (all : ∀ character ∈ spaces, isSpace character = true) :
    matchField (spaces ++ text) = matchField text := by
  unfold matchField
  rw [List.dropWhile_append_of_pos all]

theorem matchArray_text (wellFormed : array.WellFormed) (stops : rest.head? ≠ some 91) :
    matchArray (array.text ++ rest) = (array.text, rest) := by
  have closed : ∀ inside : List UInt8, (∀ character ∈ inside, (character != 93) = true) →
      matchArray (91 :: inside ++ 93 :: rest) = (91 :: inside ++ [93], rest) := by
    intro inside free
    have stop : StopsAt (· != 93) (93 :: rest) := .cons rfl
    simp only [List.cons_append, matchArray, dropWhile_append_stop free stop,
      takeWhile_append_stop free stop]
  have digits : ∀ size : List UInt8, IsNumber size →
      ∀ character ∈ size, (character != 93) = true := by
    intro size number character member
    simpa using (ne_of_isDigit (number.2.2 character member)).2.2
  cases array with
  | none =>
      unfold matchArray
      split
      · rename_i inside shape
        have shape : rest = 91 :: inside := shape
        exact absurd (by simp [shape]) stops
      · rfl
  | unbounded => exact closed [] nofun
  | fixed size =>
      have found := closed size (digits size wellFormed)
      simpa [ArrayBound.text, ascii] using found
  | bounded size =>
      have found := closed (60 :: 61 :: size) (by simpa using digits size wellFormed)
      simpa [ArrayBound.text, ascii] using found

theorem stopsAt_isSpace_of_name (isName : IsName name) : StopsAt isSpace (name ++ rest) := by
  obtain ⟨some, word⟩ := isName
  cases name with
  | nil => exact absurd rfl some
  | cons character name => exact .cons (isSpace_of_isWord (word character List.mem_cons_self))

theorem stopsAt_isType_of_spaces (some : spaces ≠ []) (blank : IsBlank spaces) :
    StopsAt isType (spaces ++ rest) := by
  cases spaces with
  | nil => exact absurd rfl some
  | cons character spaces =>
      exact .cons (isType_of_isSpace (isSpace_of_isBlank (blank character List.mem_cons_self)))

theorem stopsAt_isType_of_array (some : spaces ≠ []) (blank : IsBlank spaces) :
    StopsAt isType (array.text ++ (spaces ++ rest)) := by
  cases array with
  | none => exact @stopsAt_isType_of_spaces rest spaces some blank
  | unbounded | fixed | bounded => exact .cons rfl

theorem head?_ne_of_spaces (some : spaces ≠ []) (blank : IsBlank spaces) :
    (spaces ++ rest).head? ≠ .some 91 := by
  cases spaces with
  | nil => exact absurd rfl some
  | cons character spaces =>
      intro bracket
      obtain rfl : character = 91 := by simpa using bracket
      cases blank 91 List.mem_cons_self

/-- A type, an array and a name are matched as they stand. -/
theorem matchField_declaration (isType : IsName type) (wellFormed : array.WellFormed)
    (some : spaces ≠ []) (blank : IsBlank spaces) (isName : IsName name)
    (stops : StopsAt isWord rest) :
    matchField (type ++ array.text ++ spaces ++ name ++ rest) = .some
      (if (rest.dropWhile isBlank).head? = .some 61 then
        (⟨type, array.text, name, [61]⟩, (rest.dropWhile isBlank).tail)
      else (⟨type, array.text, name, []⟩, rest.dropWhile isBlank)) := by
  have typeWord : ∀ character ∈ type, MessageHash.isType character = true :=
    fun character member => isType_of_isWord (isType.2 character member)
  have space : ∀ character ∈ spaces, isSpace character = true :=
    fun character member => isSpace_of_isBlank (blank character member)
  have typeStops := @stopsAt_isType_of_array (name ++ rest) spaces array some blank
  have spaceStops := @stopsAt_isSpace_of_name (name ++ rest) type isType
  have nameStops := @stopsAt_isSpace_of_name rest name isName
  have bracket := @head?_ne_of_spaces (name ++ rest) spaces some blank
  unfold matchField
  simp only [List.append_assoc]
  have start := @dropWhile_append_stop _ isSpace [] (type ++ (array.text ++ (spaces ++ (name ++ rest))))
    nofun (stopsAt_isSpace_of_name isType)
  rw [List.nil_append] at start
  rw [start]
  simp only [takeWhile_append_stop typeWord typeStops, dropWhile_append_stop typeWord typeStops,
    matchArray_text wellFormed bracket, takeWhile_append_stop space nameStops,
    dropWhile_append_stop space nameStops, takeWhile_append_stop isName.2 stops,
    dropWhile_append_stop isName.2 stops, isType.1, some, isName.1, or_self, if_false]
  split
  · rename_i value shape
    simp [shape]
  · rename_i other
    rw [if_neg]
    intro equals
    obtain ⟨value, shape⟩ := List.head?_eq_some_iff.mp equals
    exact other value shape

/-! ### Searching -/

variable {field : FieldMatch} {line : Line} {lines : List Line} {following : List UInt8}

theorem suffix_matchArray (text : List UInt8) : (matchArray text).2 <:+ text := by
  unfold matchArray
  split
  · rename_i inside
    split
    · rename_i rest shape
      have dropped := List.dropWhile_suffix (l := inside) (· != 93)
      rw [shape] at dropped
      exact (List.suffix_cons _ rest).trans (dropped.trans (List.suffix_cons _ inside))
    · exact List.suffix_rfl
  · exact List.suffix_rfl

/-- A match ends somewhere in the text. -/
theorem suffix_matchField (found : matchField text = some (field, rest)) : rest <:+ text := by
  have after : ((((matchArray ((text.dropWhile isSpace).dropWhile isType)).2.dropWhile
      isSpace).dropWhile isWord).dropWhile isBlank) <:+ text :=
    ((((List.dropWhile_suffix _).trans (List.dropWhile_suffix _)).trans
      (List.dropWhile_suffix _)).trans (suffix_matchArray _)).trans
        ((List.dropWhile_suffix _).trans (List.dropWhile_suffix _))
  unfold matchField at found
  dsimp only at found
  split at found
  · cases found
  · split at found
    · rename_i value shape
      rw [shape] at after
      cases found
      exact (List.suffix_cons _ _).trans after
    · cases found
      exact after

theorem matchesAfter_skip (skipped : Nat) :
    matchesAfter skipped text = matchesAfter 0 (text.drop skipped) := by
  induction text generalizing skipped with
  | nil => simp [matchesAfter]
  | cons character text ih =>
      cases skipped with
      | zero => rfl
      | succ skipped => rw [matchesAfter, ih, List.drop_succ_cons]

theorem fieldMatches_of_match (found : matchField text = some (field, rest)) :
    fieldMatches text = field :: matchesAfter 0 rest := by
  obtain ⟨before, rfl⟩ := suffix_matchField found
  rw [fieldMatches, found]
  simp [matchesAfter_skip (before.length)]

theorem fieldMatches_of_none (none : matchField text = .none) :
    fieldMatches text = matchesAfter 0 text := by
  rw [fieldMatches, none]

theorem matchesAfter_newline : matchesAfter 0 (10 :: text) = fieldMatches text := by
  rw [matchesAfter, if_pos rfl, fieldMatches]

theorem matchesAfter_append (free : 10 ∉ text) :
    matchesAfter 0 (text ++ rest) = matchesAfter 0 rest := by
  induction text with
  | nil => rfl
  | cons character text ih =>
      simp only [List.mem_cons, not_or] at free
      rw [List.cons_append, matchesAfter, if_neg (fun same => free.1 same.symm), ih free.2]

theorem ne_of_isBlank (blank : isBlank character = true) : character ≠ 10 := by
  rintro rfl
  cases blank

theorem IsBlank.free (blank : IsBlank spaces) : 10 ∉ spaces :=
  fun member => ne_of_isBlank (blank 10 member) rfl

theorem fieldMatches_append_blank (blank : IsBlank spaces) :
    fieldMatches (spaces ++ text) = fieldMatches text := by
  have same : matchField (spaces ++ text) = matchField text :=
    matchField_append_spaces fun character member => isSpace_of_isBlank (blank character member)
  cases found : matchField text with
  | none =>
      rw [fieldMatches_of_none found, fieldMatches_of_none (same.trans found),
        matchesAfter_append blank.free]
  | some result =>
      rw [fieldMatches_of_match found, fieldMatches_of_match (same.trans found)]

theorem fieldMatches_newline : fieldMatches (10 :: text) = fieldMatches text := by
  have same : matchField (10 :: text) = matchField text :=
    @matchField_append_spaces text [10] (by simp [isSpace])
  cases found : matchField text with
  | none => rw [fieldMatches_of_none (same.trans found), matchesAfter_newline]
  | some result => rw [fieldMatches_of_match found, fieldMatches_of_match (same.trans found)]

/-! ### Lines -/

/-- What is found in a line. -/
def Line.match? : Line → Option FieldMatch
  | .field _ declared _ _ =>
      if declared.stringBound = none then
        some ⟨declared.type, declared.array.text, declared.fieldName, []⟩
      else none
  | .constant _ type none _ name _ _ => some ⟨type, [], name, [61]⟩
  | _ => none

/-- The end of a line: the text is over, or there is another line. -/
def EndsLine (following : List UInt8) : Prop :=
  following = [] ∨ ∃ text, following = 10 :: text

theorem EndsLine.stopsAt {inside : UInt8 → Bool} (ends : EndsLine following)
    (outside : inside 10 = false) : StopsAt inside following := by
  obtain rfl | ⟨text, rfl⟩ := ends
  · exact .nil
  · exact .cons outside

theorem OnOneLine.free (oneLine : OnOneLine text) : 10 ∉ text :=
  fun member => (oneLine 10 member).1 rfl

theorem IsName.free (isName : IsName name) : 10 ∉ name :=
  fun member => (ne_of_isWord (isName.2 10 member)).1 rfl

theorem IsNumber.free (number : IsNumber text) : 10 ∉ text :=
  fun member => (ne_of_isDigit (number.2.2 10 member)).1 rfl

theorem free_append (one : 10 ∉ text) (two : 10 ∉ rest) : 10 ∉ text ++ rest := by
  simp [one, two]

theorem ArrayBound.free (wellFormed : array.WellFormed) : 10 ∉ array.text := by
  cases array with
  | none | unbounded => decide
  | fixed size =>
      exact free_append (free_append (by decide) (IsNumber.free wellFormed)) (by decide)
  | bounded size =>
      exact free_append (free_append (by decide) (IsNumber.free wellFormed)) (by decide)

theorem BoundWellFormed.free {stringBound : Option (List UInt8)}
    (wellFormed : BoundWellFormed type stringBound) : 10 ∉ boundText stringBound := by
  cases stringBound with
  | none => decide
  | some bound => exact free_append (by decide) (wellFormed.number bound rfl).free

theorem Line.WellFormed.free (wellFormed : line.WellFormed) : 10 ∉ line.text := by
  cases line with
  | blank spaces => exact IsBlank.free wellFormed
  | comment indent text =>
      obtain ⟨indented, oneLine⟩ := wellFormed
      exact free_append (free_append indented.free (by decide)) oneLine.free
  | field indent declared spaces rest =>
      obtain ⟨indented, declared, blank, _, oneLine, _⟩ := wellFormed
      exact free_append (free_append (free_append (free_append (free_append (free_append
        indented.free declared.type.free) declared.bound.free) (ArrayBound.free declared.array))
        blank.free) declared.fieldName.free) oneLine.free
  | constant indent type stringBound spaces name blanks value =>
      obtain ⟨indented, isType, bound, blank, _, isName, blanks, oneLine⟩ := wellFormed
      exact free_append (free_append (free_append (free_append (free_append (free_append
        (free_append indented.free isType.free) bound.free) blank.free) isName.free)
        blanks.free) (by decide)) oneLine.free

/-- A line without a match is passed over. -/
theorem fieldMatches_of_unmatched (free : 10 ∉ text)
    (unmatched : matchField (text ++ following) = none) :
    fieldMatches (text ++ following) = matchesAfter 0 following := by
  rw [fieldMatches_of_none unmatched, matchesAfter_append free]

/-- A bounded string is no type for the regular expression. -/
theorem matchField_bounded {bound : List UInt8} (isType : IsName type) :
    matchField (type ++ boundText (some bound) ++ rest) = none := by
  have typeWord : ∀ character ∈ type, MessageHash.isType character = true :=
    fun character member => isType_of_isWord (isType.2 character member)
  have stops : StopsAt MessageHash.isType (60 :: 61 :: (bound ++ rest)) := .cons rfl
  have start := @dropWhile_append_stop _ isSpace [] (type ++ 60 :: 61 :: (bound ++ rest))
    nofun (stopsAt_isSpace_of_name isType)
  rw [List.nil_append] at start
  have shape : type ++ boundText (some bound) ++ rest = type ++ 60 :: 61 :: (bound ++ rest) := by
    simp [boundText, ascii]
  have unread : matchArray (60 :: 61 :: (bound ++ rest)) = ([], 60 :: 61 :: (bound ++ rest)) := rfl
  have noSpace : List.takeWhile isSpace (60 :: 61 :: (bound ++ rest)) = [] := rfl
  unfold matchField
  rw [shape]
  simp only [start, dropWhile_append_stop typeWord stops, unread, noSpace, true_or, or_true,
    if_true]

/-- The rest of a field ends at the end of its line. -/
theorem dropWhile_rest (ends : EndsLine following) :
    (rest ++ following).dropWhile isBlank = rest.dropWhile isBlank ++ following := by
  rw [List.dropWhile_append]
  split
  · rename_i empty
    have blank : rest.dropWhile isBlank = [] := List.isEmpty_iff.mp empty
    have stays := @dropWhile_append_stop _ isBlank [] following nofun (ends.stopsAt rfl)
    rw [List.nil_append] at stays
    rw [stays, blank, List.nil_append]
  · rfl

theorem EndsField.stopsAt (endsField : EndsField rest) (ends : EndsLine following) :
    StopsAt isWord (rest ++ following) := by
  cases rest with
  | nil => exact ends.stopsAt rfl
  | cons character rest =>
      apply StopsAt.cons
      cases word : isWord character with
      | false => rfl
      | true =>
          cases endsField.ends character rfl with
          | inl blank => exact absurd (isSpace_of_isBlank blank) (by simp [isSpace_of_isWord word])
          | inr hash =>
              subst hash
              cases word

theorem EndsField.head?_ne (endsField : EndsField rest) (ends : EndsLine following) :
    (rest.dropWhile isBlank ++ following).head? ≠ some 61 := by
  cases shape : rest.dropWhile isBlank with
  | nil =>
      obtain rfl | ⟨text, rfl⟩ := ends
      · nofun
      · simp
  | cons character others =>
      have noConstant := endsField.noConstant
      rw [shape] at noConstant
      exact noConstant

theorem fieldMatches_blank (blank : IsBlank spaces) (ends : EndsLine following) :
    fieldMatches (spaces ++ following) = matchesAfter 0 following := by
  rw [fieldMatches_append_blank blank]
  obtain rfl | ⟨text, rfl⟩ := ends
  · rfl
  · rw [fieldMatches_newline, matchesAfter_newline]

theorem fieldMatches_comment {indent : List UInt8} (indented : IsBlank indent)
    (oneLine : OnOneLine text) :
    fieldMatches ((Line.comment indent text).text ++ following) = matchesAfter 0 following := by
  have unmatched : matchField ((35 :: text) ++ following) = none := rfl
  have free : 10 ∉ 35 :: text := by simp [oneLine.free]
  have shape : (Line.comment indent text).text ++ following =
      indent ++ ((35 :: text) ++ following) := by
    simp [Line.text, ascii]
  rw [shape, fieldMatches_append_blank indented, fieldMatches_of_unmatched free unmatched]

/-- A field, or a constant, of a bounded string is passed over. -/
theorem fieldMatches_bounded {indent : List UInt8} (bound rest : List UInt8)
    (indented : IsBlank indent) (isType : IsName type) (free : 10 ∉ line.text)
    (shape : line.text = indent ++ (type ++ boundText (some bound) ++ rest)) :
    fieldMatches (line.text ++ following) = matchesAfter 0 following := by
  have unmatched : matchField (line.text ++ following) = none := by
    rw [shape, List.append_assoc, matchField_append_spaces fun character member =>
      isSpace_of_isBlank (indented character member), List.append_assoc]
    exact matchField_bounded isType
  exact fieldMatches_of_unmatched free unmatched

theorem fieldMatches_field {indent : List UInt8} (indented : IsBlank indent)
    (isType : IsName type) (wellFormed : array.WellFormed) (blank : IsBlank spaces)
    (some : spaces ≠ []) (isName : IsName name) (oneLine : OnOneLine rest)
    (endsField : EndsField rest) (ends : EndsLine following) :
    fieldMatches ((Line.field indent ⟨type, none, array, name⟩ spaces rest).text ++ following) =
      ⟨type, array.text, name, []⟩ :: matchesAfter 0 following := by
  have shape : (Line.field indent ⟨type, none, array, name⟩ spaces rest).text ++ following =
      indent ++ (type ++ array.text ++ spaces ++ name ++ (rest ++ following)) := by
    simp [Line.text, boundText]
  have found := matchField_declaration isType wellFormed some blank isName (endsField.stopsAt ends)
  rw [dropWhile_rest ends, if_neg (endsField.head?_ne ends)] at found
  have free : 10 ∉ rest.dropWhile isBlank := fun member =>
    oneLine.free ((List.dropWhile_suffix _).mem member)
  rw [shape, fieldMatches_append_blank indented, fieldMatches_of_match found,
    matchesAfter_append free]

theorem stopsAt_isWord_of_blank {blanks : List UInt8} (blank : IsBlank blanks)
    (stops : StopsAt isWord rest) : StopsAt isWord (blanks ++ rest) := by
  cases blanks with
  | nil => exact stops
  | cons character blanks =>
      apply StopsAt.cons
      cases word : isWord character with
      | false => rfl
      | true =>
          exact absurd (isSpace_of_isBlank (blank character List.mem_cons_self))
            (by simp [isSpace_of_isWord word])

theorem fieldMatches_constant {indent blanks value : List UInt8} (indented : IsBlank indent)
    (isType : IsName type) (blank : IsBlank spaces) (some : spaces ≠ []) (isName : IsName name)
    (blank' : IsBlank blanks) (oneLine : OnOneLine value) :
    fieldMatches ((Line.constant indent type none spaces name blanks value).text ++ following) =
      ⟨type, [], name, [61]⟩ :: matchesAfter 0 following := by
  have shape : (Line.constant indent type none spaces name blanks value).text ++ following =
      indent ++ (type ++ ArrayBound.none.text ++ spaces ++ name ++
        (blanks ++ 61 :: (value ++ following))) := by
    simp [Line.text, boundText, ArrayBound.text, ascii]
  have dropped : (blanks ++ 61 :: (value ++ following)).dropWhile isBlank =
      61 :: (value ++ following) := dropWhile_append_stop blank' (.cons rfl)
  have stops : StopsAt isWord (61 :: (value ++ following)) := .cons rfl
  have found := @matchField_declaration _ type name spaces .none isType trivial some blank isName
    (stopsAt_isWord_of_blank blank' stops)
  rw [dropped, List.head?_cons, if_pos rfl, List.tail_cons] at found
  rw [shape, fieldMatches_append_blank indented, fieldMatches_of_match found,
    matchesAfter_append oneLine.free]
  rfl

/-- The search finds what is in a line, and goes on behind it. -/
theorem fieldMatches_line (wellFormed : line.WellFormed) (ends : EndsLine following) :
    fieldMatches (line.text ++ following) = line.match?.toList ++ matchesAfter 0 following := by
  have free := wellFormed.free
  cases line with
  | blank spaces => exact fieldMatches_blank wellFormed ends
  | comment indent text => exact fieldMatches_comment wellFormed.1 wellFormed.2
  | field indent declared spaces rest =>
      obtain ⟨indented, wellFormed, blank, some, oneLine, endsField⟩ := wellFormed
      obtain ⟨type, stringBound, array, name⟩ := declared
      cases stringBound with
      | none =>
          exact fieldMatches_field indented wellFormed.type wellFormed.array blank some
            wellFormed.fieldName oneLine endsField ends
      | some bound =>
          exact fieldMatches_bounded bound (array.text ++ spaces ++ name ++ rest) indented
            wellFormed.type free (by simp [Line.text])
  | constant indent type stringBound spaces name blanks value =>
      obtain ⟨indented, isType, _, blank, some, isName, blank', oneLine⟩ := wellFormed
      cases stringBound with
      | none => exact fieldMatches_constant indented isType blank some isName blank' oneLine
      | some bound =>
          exact fieldMatches_bounded bound (spaces ++ name ++ blanks ++ ascii "=" ++ value)
            indented isType free (by simp [Line.text])

theorem endsLine_lines : EndsLine (lines.flatMap fun line => 10 :: line.text) := by
  cases lines with
  | nil => exact .inl rfl
  | cons line lines => exact .inr ⟨_, rfl⟩

theorem filterMap_match?_cons :
    (line :: lines).filterMap Line.match? = line.match?.toList ++ lines.filterMap Line.match? := by
  cases found : line.match? <;> simp [found]

theorem matchesAfter_lines (wellFormed : ∀ line ∈ lines, line.WellFormed) :
    matchesAfter 0 (lines.flatMap fun line => 10 :: line.text) = lines.filterMap Line.match? := by
  induction lines with
  | nil => rfl
  | cons line lines ih =>
      obtain ⟨first, others⟩ := List.forall_mem_cons.mp wellFormed
      rw [List.flatMap_cons, List.cons_append, matchesAfter_newline,
        fieldMatches_line first endsLine_lines, ih others, filterMap_match?_cons]

/-- The matches in a well-formed file are those of its lines. -/
theorem fieldMatches_fileText (wellFormed : ∀ line ∈ lines, line.WellFormed) :
    fieldMatches (fileText lines) = lines.filterMap Line.match? := by
  cases lines with
  | nil => rfl
  | cons line lines =>
      obtain ⟨first, others⟩ := List.forall_mem_cons.mp wellFormed
      rw [fileText, fieldMatches_line first endsLine_lines, matchesAfter_lines others,
        filterMap_match?_cons]

end Px4Ros2.MessageHash
