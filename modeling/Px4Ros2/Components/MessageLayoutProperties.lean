import Px4Ros2.Components.MessageFieldMatching

/-! The string that the hash is over identifies the inlined fields of a message, but for those with
a bounded string. The script comes to the same verdict. -/

set_option autoImplicit false

namespace Px4Ros2.MessageHash

open Lib

variable {msgs : MsgsDir} {files : Files} {msgsDir name : List UInt8}
  {find : List UInt8 → Option (List UInt8)} {format : List UInt8 → List UInt8}
  {layout nested : List LayoutField} {field one two : Field} {lines : List Line} {depth : Nat}

/-! ### Strings of fields -/

/-- A line of the string, with the array as it is printed. -/
def fieldText (format : List UInt8 → List UInt8) (field : Field) : List UInt8 :=
  field.type ++ format field.array.text ++ [32] ++ field.fieldName

def fieldsText (format : List UInt8 → List UInt8) (fields : List Field) : List UInt8 :=
  fields.flatMap fun field => fieldText format field ++ [10]

/-- How an array is printed: the type can be told apart from it. -/
structure Prints (format : List UInt8 → List UInt8) : Prop where
  free : ∀ array : ArrayBound, array.WellFormed →
    10 ∉ format array.text ∧ 32 ∉ format array.text
  injective : ∀ {first second : List UInt8} {one two : ArrayBound}, IsName first → IsName second →
    one.WellFormed → two.WellFormed →
      first ++ format one.text = second ++ format two.text → first = second ∧ one = two

theorem IsNumber.noSpace {text : List UInt8} (number : IsNumber text) : 32 ∉ text :=
  fun member => (ne_of_isDigit (number.2.2 32 member)).2.1 rfl

theorem ArrayBound.noSpace {array : ArrayBound} (wellFormed : array.WellFormed) :
    32 ∉ array.text := by
  cases array with
  | none | unbounded => decide
  | fixed size | bounded size =>
      have noSpace : 32 ∉ size := IsNumber.noSpace wellFormed
      simp [ArrayBound.text, ascii, noSpace]

/-- An array that is not absent begins with a bracket. -/
theorem ArrayBound.text_cases (array : ArrayBound) :
    array = .none ∨ ∃ inside, array.text = 91 :: inside := by
  cases array with
  | none => exact .inl rfl
  | unbounded | fixed | bounded => exact .inr ⟨_, rfl⟩

/-- What is between the brackets. -/
def ArrayBound.inside : ArrayBound → Option (List UInt8)
  | .none => .none
  | .unbounded => some []
  | .fixed size => some size
  | .bounded size => some (60 :: 61 :: size)

theorem ArrayBound.text_eq (array : ArrayBound) :
    array.text = array.inside.elim [] fun inside => (91 :: inside) ++ [93] := by
  cases array <;> simp [ArrayBound.text, ArrayBound.inside, ascii]

theorem ArrayBound.inside_eq {one two : ArrayBound} (same : one.text = two.text) :
    one.inside = two.inside := by
  rw [one.text_eq, two.text_eq] at same
  cases first : one.inside with
  | none =>
      cases second : two.inside with
      | none => rfl
      | some inside => simp [first, second] at same
  | some inside =>
      cases second : two.inside with
      | none => simp [first, second] at same
      | some inside' =>
          rw [first, second] at same
          rw [List.cons.inj (List.append_cancel_right same) |>.2]

theorem ArrayBound.text_injective {one two : ArrayBound} (first : one.WellFormed)
    (second : two.WellFormed) (same : one.text = two.text) : one = two := by
  have noBound : ∀ size : List UInt8, IsNumber size → ∀ rest, size ≠ 60 :: rest := by
    rintro size number rest rfl
    cases number.2.2 60 List.mem_cons_self
  have inside := ArrayBound.inside_eq same
  cases one with
  | none =>
      cases two with
      | none => rfl
      | unbounded | fixed | bounded => cases inside
  | unbounded =>
      cases two with
      | unbounded => rfl
      | fixed size =>
          cases inside
          exact absurd rfl second.1
      | none | bounded => cases inside
  | fixed size =>
      cases two with
      | unbounded =>
          cases inside
          exact absurd rfl first.1
      | fixed size' =>
          cases inside
          rfl
      | bounded size' =>
          cases inside
          exact absurd rfl (noBound _ first _)
      | none => cases inside
  | bounded size =>
      cases two with
      | fixed size' =>
          cases inside
          exact absurd rfl (noBound _ second _)
      | bounded size' =>
          cases inside
          rfl
      | none | unbounded => cases inside

/-- A name ends where a bracket begins. -/
theorem append_array_inj {first second : List UInt8} {one two : ArrayBound}
    (isFirst : IsName first) (isSecond : IsName second)
    (same : first ++ one.text = second ++ two.text) : first = second ∧ one.text = two.text := by
  have stops : ∀ array : ArrayBound, StopsAt isWord array.text := by
    intro array
    obtain rfl | ⟨inside, shape⟩ := array.text_cases
    · exact .nil
    · rw [shape]
      exact .cons rfl
  have names := congrArg (List.takeWhile isWord) same
  rw [takeWhile_append_stop isFirst.2 (stops one), takeWhile_append_stop isSecond.2 (stops two)]
    at names
  subst names
  exact ⟨rfl, List.append_cancel_left same⟩

theorem prints_id : Prints id where
  free _ wellFormed := ⟨ArrayBound.free wellFormed, ArrayBound.noSpace wellFormed⟩
  injective isFirst isSecond one two same := by
    obtain ⟨rfl, arrays⟩ := append_array_inj isFirst isSecond same
    exact ⟨rfl, ArrayBound.text_injective one two arrays⟩

theorem formatArray_none : Script.formatArray ArrayBound.none.text = ascii "None" := rfl

theorem formatArray_some {array : ArrayBound} (isArray : array ≠ .none) :
    Script.formatArray array.text = array.text := by
  obtain none | ⟨inside, shape⟩ := array.text_cases
  · exact absurd none isArray
  · simp [Script.formatArray, shape]

/-- An absent array is printed as a word, and so belongs to the name before it. -/
theorem printed_word_ne {first second : List UInt8} {array : ArrayBound} (isFirst : IsName first)
    (isArray : array ≠ .none) : first ++ ascii "None" ≠ second ++ array.text := by
  intro same
  obtain none | ⟨inside, shape⟩ := array.text_cases
  · exact isArray none
  · have bracket : (91 : UInt8) ∈ first ++ ascii "None" := by simp [same, shape]
    cases List.mem_append.mp bracket with
    | inl inName => cases isFirst.2 91 inName
    | inr inWord => revert inWord; decide

theorem prints_formatArray : Prints Script.formatArray where
  free array wellFormed := by
    by_cases none : array = .none
    · subst none
      decide
    · rw [formatArray_some none]
      exact ⟨ArrayBound.free wellFormed, ArrayBound.noSpace wellFormed⟩
  injective {first second one two} isFirst isSecond wellFormed wellFormed' same := by
    by_cases none : one = .none
    · by_cases none' : two = .none
      · subst none none'
        exact ⟨List.append_cancel_right same, rfl⟩
      · rw [none, formatArray_none, formatArray_some none'] at same
        exact absurd same (printed_word_ne isFirst none')
    · by_cases none' : two = .none
      · rw [none', formatArray_none, formatArray_some none] at same
        exact absurd same.symm (printed_word_ne isSecond none)
      · rw [formatArray_some none, formatArray_some none'] at same
        obtain ⟨rfl, arrays⟩ := append_array_inj isFirst isSecond same
        exact ⟨rfl, ArrayBound.text_injective wellFormed wellFormed' arrays⟩

/-- The string gives away the fields, as long as none of them is a bounded string. -/
theorem fieldsText_inj {first second : List Field} (prints : Prints format)
    (wellFormed : ∀ field, field ∈ first ∨ field ∈ second → field.WellFormed)
    (unbounded : ∀ field, field ∈ first ∨ field ∈ second → field.stringBound = none) :
    fieldsText format first = fieldsText format second ↔ first = second := by
  have nameSpace : ∀ name : List UInt8, IsName name → 32 ∉ name :=
    fun name isName member => (ne_of_isWord (isName.2 32 member)).2 rfl
  apply flatMap_terminated_inj
  · intro field member
    have fine := wellFormed field member
    have printed := prints.free field.array fine.array
    simp [fieldText, fine.type.free, printed.1, fine.fieldName.free]
  · intro one memberOne two memberTwo same
    have fineOne := wellFormed one (.inl memberOne)
    have fineTwo := wellFormed two (.inr memberTwo)
    have boundOne := unbounded one (.inl memberOne)
    have boundTwo := unbounded two (.inr memberTwo)
    have noSpace : ∀ field : Field, field.WellFormed → 32 ∉ field.type ++ format field.array.text :=
      fun field fine => by
        simp [nameSpace field.type fine.type, (prints.free field.array fine.array).2]
    simp only [fieldText, List.append_assoc, List.singleton_append] at same
    rw [← List.append_assoc, ← List.append_assoc,
      append_terminator_inj (noSpace one fineOne) (noSpace two fineTwo)] at same
    obtain ⟨types, names⟩ := same
    obtain ⟨typeSame, arraySame⟩ := prints.injective fineOne.type fineTwo.type fineOne.array
      fineTwo.array types
    cases one
    cases two
    simp_all

/-! ### Layouts -/

/-- The expansion of a field. -/
def MsgsDir.expand (msgs : MsgsDir) (depth : Nat) (field : Field) : Option LayoutField :=
  if field.type ∈ kBasicTypes then some (.mk field [])
  else (msgs.layout depth field.type).map (.mk field)

theorem MsgsDir.layout_succ :
    msgs.layout (depth + 1) name = (msgs.definitions name).bind fun lines =>
      (fieldsOf lines).mapM (msgs.expand depth) := rfl

@[simp] theorem unboundedFields_nil : unboundedFields [] = [] := rfl

theorem unboundedFields_cons :
    unboundedFields (.mk field nested :: layout) =
      (if field.stringBound = none then [field] else []) ++ unboundedFields nested ++
        unboundedFields layout := by
  cases bound : field.stringBound <;>
    simp [unboundedFields, flattenAll, LayoutField.flatten, bound]

theorem fieldsText_append {first second : List Field} :
    fieldsText format (first ++ second) = fieldsText format first ++ fieldsText format second :=
  List.flatMap_append

/-- One turn of the loops of both programs. They differ in how they print an array, and in what
becomes of a type with a namespace. -/
def addField (format : List UInt8 → List UInt8) (other : List UInt8 → Option (List UInt8))
    (nested : List UInt8 → Option (List UInt8)) (fieldsStr : List UInt8) (found : FieldMatch) :
    Option (List UInt8) :=
  if found.constant = [61] then some fieldsStr
  else
    let fieldsStr := fieldsStr ++ found.type ++ format found.array ++ [32] ++ found.fieldName ++ [10]
    if found.type ∈ kBasicTypes then some fieldsStr
    else if 47 ∉ found.type then (nested found.type).map (fieldsStr ++ ·)
    else other fieldsStr

theorem messageFieldsStr_of {text : List UInt8} (found : files (filename msgsDir name) = some text) :
    messageFieldsStr files msgsDir (depth + 1) name =
      (fieldMatches text).foldlM (addField id some (messageFieldsStr files msgsDir depth)) [] := by
  rw [messageFieldsStr, found]
  refine congrArg (fun turn => List.foldlM turn [] (fieldMatches text))
    (funext fun fieldsStr => funext fun found => ?_)
  unfold addField
  cases messageFieldsStr files msgsDir depth found.type <;> simp

theorem scriptFieldsStr_of {text : List UInt8} (found : find (name ++ ascii ".msg") = some text) :
    Script.messageFieldsStr find (depth + 1) name =
      (fieldMatches text).foldlM (addField Script.formatArray (fun _ => none)
        (Script.messageFieldsStr find depth)) [] := by
  rw [Script.messageFieldsStr, found]
  refine congrArg (fun turn => List.foldlM turn [] (fieldMatches text))
    (funext fun fieldsStr => funext fun found => ?_)
  unfold addField
  cases Script.messageFieldsStr find depth found.type <;> simp

theorem kBasicTypes_string {type : List UInt8} (string : type = ascii "string" ∨
    type = ascii "wstring") : type ∈ kBasicTypes := by
  obtain rfl | rfl := string <;> decide

theorem IsName.noSlash (isName : IsName name) : 47 ∉ name := by
  intro member
  cases isName.2 47 member

/-- A field adds its own line and those of its expansion, if it is found at all. -/
theorem addField_field {other sub : List UInt8 → Option (List UInt8)} {fieldsStr : List UInt8}
    (wellFormed : field.WellFormed)
    (expanded : msgs.expand depth field = some (.mk field nested))
    (inner : ∀ name layout, msgs.layout depth name = some layout →
      sub name = some (fieldsText format (unboundedFields layout))) :
    addField format other sub fieldsStr ⟨field.type, field.array.text, field.fieldName, []⟩ =
      some (fieldsStr ++ fieldsText format (field :: unboundedFields nested)) := by
  have line : fieldsText format (field :: unboundedFields nested) =
      fieldText format field ++ [10] ++ fieldsText format (unboundedFields nested) := rfl
  unfold addField
  rw [if_neg (by simp), line]
  unfold MsgsDir.expand at expanded
  split at expanded
  · rename_i basic
    obtain rfl : [] = nested := by simpa using expanded
    simp [basic, fieldText, fieldsText]
  · rename_i other
    obtain ⟨layout, found, same⟩ := Option.map_eq_some_iff.mp expanded
    obtain rfl : layout = nested := by simpa using same
    simp [other, wellFormed.type.noSlash, inner _ _ found, fieldText]

theorem MsgsDir.expand_eq {expansion : LayoutField}
    (expanded : msgs.expand depth field = some expansion) :
    ∃ nested, expansion = .mk field nested := by
  unfold MsgsDir.expand at expanded
  split at expanded
  · cases expanded
    exact ⟨[], rfl⟩
  · obtain ⟨nested, _, rfl⟩ := Option.map_eq_some_iff.mp expanded
    exact ⟨nested, rfl⟩

/-- A bounded string has no expansion. -/
theorem MsgsDir.expand_bounded (wellFormed : field.WellFormed) (bounded : field.stringBound ≠ none)
    (expanded : msgs.expand depth field = some (.mk field nested)) : nested = [] := by
  have basic := kBasicTypes_string (wellFormed.bound.string bounded)
  unfold MsgsDir.expand at expanded
  rw [if_pos basic] at expanded
  cases expanded
  rfl

theorem flattenAll_append {first second : List LayoutField} :
    flattenAll (first ++ second) = flattenAll first ++ flattenAll second := by
  induction first with
  | nil => rfl
  | cons field first ih => rw [List.cons_append, flattenAll, flattenAll, ih, List.append_assoc]

theorem unboundedFields_append {first second : List LayoutField} :
    unboundedFields (first ++ second) = unboundedFields first ++ unboundedFields second := by
  simp only [unboundedFields, flattenAll_append, List.filter_append]

/-- What a line adds is what the expansion of its field has. -/
theorem addField_line {other sub : List UInt8 → Option (List UInt8)} {fieldsStr : List UInt8}
    {line : Line} (wellFormed : line.WellFormed)
    (expanded : line.field?.toList.mapM (msgs.expand depth) = some layout)
    (inner : ∀ name layout, msgs.layout depth name = some layout →
      sub name = some (fieldsText format (unboundedFields layout))) :
    line.match?.toList.foldlM (addField format other sub) fieldsStr =
      some (fieldsStr ++ fieldsText format (unboundedFields layout)) := by
  cases line with
  | blank | comment =>
      obtain rfl : [] = layout := by simpa [Line.field?] using expanded
      simp [Line.match?, fieldsText]
  | constant indent type stringBound spaces name blanks value =>
      obtain rfl : [] = layout := by simpa [Line.field?] using expanded
      cases stringBound <;> simp [Line.match?, fieldsText, addField]
  | field indent declared spaces rest =>
      have fine : declared.WellFormed := wellFormed.2.1
      obtain ⟨expansion, expandedField, same⟩ : ∃ expansion,
          msgs.expand depth declared = some expansion ∧ [expansion] = layout := by
        simpa [Line.field?, Option.bind_eq_some_iff] using expanded
      obtain ⟨nested, rfl⟩ := MsgsDir.expand_eq expandedField
      subst same
      rw [unboundedFields_cons, unboundedFields_nil, List.append_nil]
      cases bound : declared.stringBound with
      | none =>
          have found : (Line.field indent declared spaces rest).match? =
              some ⟨declared.type, declared.array.text, declared.fieldName, []⟩ := by
            simp [Line.match?, bound]
          rw [found, if_pos rfl, Option.toList_some, List.foldlM_cons,
            addField_field fine expandedField inner]
          rfl
      | some text =>
          have unmatched : (Line.field indent declared spaces rest).match? = none := by
            simp [Line.match?, bound]
          obtain rfl := MsgsDir.expand_bounded fine (by simp [bound]) expandedField
          rw [unmatched, if_neg (by simp)]
          simp [fieldsText]

theorem fieldsOf_cons {line : Line} :
    fieldsOf (line :: lines) = line.field?.toList ++ fieldsOf lines := by
  cases found : line.field? <;> simp [fieldsOf, found]

/-- The loop over the lines of a definition. -/
theorem addField_lines {other sub : List UInt8 → Option (List UInt8)} {fieldsStr : List UInt8}
    (wellFormed : ∀ line ∈ lines, line.WellFormed)
    (expanded : (fieldsOf lines).mapM (msgs.expand depth) = some layout)
    (inner : ∀ name layout, msgs.layout depth name = some layout →
      sub name = some (fieldsText format (unboundedFields layout))) :
    (lines.filterMap Line.match?).foldlM (addField format other sub) fieldsStr =
      some (fieldsStr ++ fieldsText format (unboundedFields layout)) := by
  induction lines generalizing fieldsStr layout with
  | nil =>
      obtain rfl : [] = layout := by simpa [fieldsOf] using expanded
      simp [fieldsText]
  | cons line lines ih =>
      obtain ⟨first, others⟩ := List.forall_mem_cons.mp wellFormed
      rw [fieldsOf_cons, List.mapM_append] at expanded
      obtain ⟨one, expandedOne, expanded⟩ := Option.bind_eq_some_iff.mp expanded
      obtain ⟨rest, expandedRest, same⟩ := Option.bind_eq_some_iff.mp expanded
      obtain rfl : one ++ rest = layout := by simpa using same
      rw [filterMap_match?_cons, List.foldlM_append, addField_line first expandedOne inner,
        unboundedFields_append, fieldsText_append, ← List.append_assoc]
      exact ih others expandedRest

/-- Both programs print the inlined fields that are no bounded strings. -/
theorem fieldsStr_of_layout (installed : msgs.Installed files msgsDir find)
    (expanded : msgs.layout depth name = some layout) :
    messageFieldsStr files msgsDir depth name = some (fieldsText id (unboundedFields layout)) ∧
      Script.messageFieldsStr find depth name =
        some (fieldsText Script.formatArray (unboundedFields layout)) := by
  induction depth generalizing name layout with
  | zero => cases expanded
  | succ depth ih =>
      rw [MsgsDir.layout_succ] at expanded
      obtain ⟨lines, defined, expanded⟩ := Option.bind_eq_some_iff.mp expanded
      have wellFormed := msgs.wellFormed name lines defined
      have library : files (filename msgsDir name) = some (fileText lines) := by
        rw [installed.library, defined, Option.map_some]
      have script : find (name ++ ascii ".msg") = some (fileText lines) := by
        rw [installed.script, defined, Option.map_some]
      rw [messageFieldsStr_of library, scriptFieldsStr_of script, fieldMatches_fileText wellFormed]
      exact ⟨addField_lines wellFormed expanded fun _ _ found => (ih found).1,
        addField_lines wellFormed expanded fun _ _ found => (ih found).2⟩

/-! ### The fields of a layout -/

theorem mem_mapM {Source Target : Type} {expand : Source → Option Target} {sources : List Source}
    {targets : List Target} (mapped : sources.mapM expand = some targets) {target : Target}
    (member : target ∈ targets) : ∃ source ∈ sources, expand source = some target := by
  induction sources generalizing targets with
  | nil =>
      obtain rfl : [] = targets := by simpa using mapped
      cases member
  | cons source sources ih =>
      rw [List.mapM_cons] at mapped
      obtain ⟨first, expanded, mapped⟩ := Option.bind_eq_some_iff.mp mapped
      obtain ⟨rest, others, same⟩ := Option.bind_eq_some_iff.mp mapped
      obtain rfl : first :: rest = targets := by simpa using same
      cases member with
      | head => exact ⟨source, List.mem_cons_self, expanded⟩
      | tail _ member =>
          obtain ⟨source', member', expanded'⟩ := ih others member
          exact ⟨source', List.mem_cons_of_mem _ member', expanded'⟩

theorem mem_flattenAll {fields : List LayoutField} :
    field ∈ flattenAll fields ↔ ∃ expansion ∈ fields, field ∈ expansion.flatten := by
  induction fields with
  | nil => simp [flattenAll]
  | cons expansion fields ih => simp [flattenAll, ih]

theorem MsgsDir.field_wellFormed (defined : msgs.definitions name = some lines)
    (member : field ∈ fieldsOf lines) : field.WellFormed := by
  obtain ⟨line, inLines, same⟩ := List.mem_filterMap.mp member
  have fine := msgs.wellFormed name lines defined line inLines
  cases line with
  | field indent declared spaces rest =>
      cases same
      exact fine.2.1
  | blank | comment | constant => cases same

theorem MsgsDir.layout_wellFormed (expanded : msgs.layout depth name = some layout) :
    ∀ field ∈ flattenAll layout, field.WellFormed := by
  induction depth generalizing name layout with
  | zero => cases expanded
  | succ depth ih =>
      rw [MsgsDir.layout_succ] at expanded
      obtain ⟨lines, defined, expanded⟩ := Option.bind_eq_some_iff.mp expanded
      intro field member
      obtain ⟨expansion, inLayout, inExpansion⟩ := mem_flattenAll.mp member
      obtain ⟨declared, inLines, same⟩ := mem_mapM expanded inLayout
      have fine := msgs.field_wellFormed defined inLines
      unfold MsgsDir.expand at same
      split at same
      · cases same
        obtain rfl : field = declared := by
          simpa [LayoutField.flatten, flattenAll] using inExpansion
        exact fine
      · obtain ⟨nested, found, rfl⟩ := Option.map_eq_some_iff.mp same
        simp only [LayoutField.flatten, List.mem_cons] at inExpansion
        cases inExpansion with
        | inl same => rwa [same]
        | inr inNested => exact ih found field inNested

/-! ### Enough depth -/

/-- A value that does not change any more from some depth on. -/
def Settles {Value : Type} (at_depth : Nat → Option Value) (value : Value) : Prop :=
  ∃ enough, ∀ depth, enough ≤ depth → at_depth depth = some value

theorem settles_mapM {Source Target : Type} {expand : Nat → Source → Option Target}
    {sources : List Source}
    (each : ∀ source ∈ sources, ∃ target, Settles (fun depth => expand depth source) target) :
    ∃ targets, Settles (fun depth => sources.mapM (expand depth)) targets := by
  induction sources with
  | nil => exact ⟨[], 0, fun _ _ => rfl⟩
  | cons source sources ih =>
      obtain ⟨⟨target, enough, settled⟩, others⟩ := List.forall_mem_cons.mp each
      obtain ⟨targets, enough', settled'⟩ := ih others
      refine ⟨target :: targets, max enough enough', fun depth deep => ?_⟩
      have first := settled depth (le_trans (le_max_left _ _) deep)
      have rest := settled' depth (le_trans (le_max_right _ _) deep)
      simp only at first rest
      simp [List.mapM_cons, first, rest]

theorem MsgsDir.layout_settles (defined : (msgs.definitions name).isSome = true) :
    ∃ layout, Settles (fun depth => msgs.layout depth name) layout := by
  induction name using msgs.acyclic.induction with
  | _ name ih =>
      obtain ⟨lines, defined⟩ := Option.isSome_iff_exists.mp defined
      have each : ∀ field ∈ fieldsOf lines, ∃ expansion,
          Settles (fun depth => msgs.expand depth field) expansion := by
        intro field member
        by_cases basic : field.type ∈ kBasicTypes
        · exact ⟨.mk field [], 0, fun depth _ => by simp [MsgsDir.expand, basic]⟩
        · have contained : Contains msgs.definitions field.type name :=
            ⟨lines, defined, field, member, rfl, basic⟩
          obtain ⟨nested, enough, settled⟩ := ih field.type contained
            (msgs.closed field.type name contained)
          exact ⟨.mk field nested, enough, fun depth deep => by
            simp [MsgsDir.expand, basic, settled depth deep]⟩
      obtain ⟨layout, enough, settled⟩ := settles_mapM each
      refine ⟨layout, enough + 1, fun depth deep => ?_⟩
      cases depth with
      | zero => omega
      | succ depth =>
          simp only [MsgsDir.layout_succ, defined, Option.bind_some]
          exact settled depth (by omega)

/-! ### The verdicts -/

/-- What becomes of a message type: its layout, and the strings of the two programs. -/
structure Reading (msgs : MsgsDir) (files : Files) (msgsDir : List UInt8)
    (find : List UInt8 → Option (List UInt8)) (name : List UInt8) (layout : List LayoutField)
    (fieldsStr scriptStr : List UInt8) : Prop where
  layout : Settles (fun depth => msgs.layout depth name) layout
  library : Settles (fun depth => messageFieldsStr files msgsDir depth name) fieldsStr
  script : Settles (fun depth => Script.messageFieldsStr find depth name) scriptStr

theorem MsgsDir.reading (installed : msgs.Installed files msgsDir find)
    (defined : (msgs.definitions name).isSome = true) :
    ∃ layout, (∀ field ∈ flattenAll layout, field.WellFormed) ∧
      Reading msgs files msgsDir find name layout (fieldsText id (unboundedFields layout))
        (fieldsText Script.formatArray (unboundedFields layout)) := by
  obtain ⟨layout, enough, settled⟩ := msgs.layout_settles defined
  refine ⟨layout, msgs.layout_wellFormed (settled enough le_rfl), ⟨enough, settled⟩, ?_, ?_⟩
  · exact ⟨enough, fun depth deep => (fieldsStr_of_layout installed (settled depth deep)).1⟩
  · exact ⟨enough, fun depth deep => (fieldsStr_of_layout installed (settled depth deep)).2⟩

/-- The strings are equal when the inlined fields that are no bounded strings are. -/
theorem unboundedText_inj {first second : List LayoutField} (prints : Prints format)
    (one : ∀ field ∈ flattenAll first, field.WellFormed)
    (two : ∀ field ∈ flattenAll second, field.WellFormed) :
    fieldsText format (unboundedFields first) = fieldsText format (unboundedFields second) ↔
      unboundedFields first = unboundedFields second := by
  apply fieldsText_inj prints
  · rintro field (member | member)
    · exact one field (List.mem_filter.mp member).1
    · exact two field (List.mem_filter.mp member).1
  · rintro field (member | member)
    · simpa using (List.mem_filter.mp member).2
    · simpa using (List.mem_filter.mp member).2

/-- For a message type that is defined in two directories, the strings of either program tell the
layouts apart exactly when these do not differ in bounded strings alone (nor, for layouts as trees,
in where a nested expansion ends). -/
theorem hash_input_identifies_layout {old new : MsgsDir} {oldFiles newFiles : Files}
    {oldDir newDir : List UInt8} {oldFind newFind : List UInt8 → Option (List UInt8)}
    (oldInstalled : old.Installed oldFiles oldDir oldFind)
    (newInstalled : new.Installed newFiles newDir newFind)
    (inOld : (old.definitions name).isSome = true)
    (inNew : (new.definitions name).isSome = true) :
    ∃ oldLayout newLayout oldStr newStr oldScript newScript,
      Reading old oldFiles oldDir oldFind name oldLayout oldStr oldScript ∧
      Reading new newFiles newDir newFind name newLayout newStr newScript ∧
      (oldScript = newScript ↔ oldStr = newStr) ∧
      ((oldStr = newStr ↔ flattenAll oldLayout = flattenAll newLayout) ↔
        (unboundedFields oldLayout = unboundedFields newLayout →
          flattenAll oldLayout = flattenAll newLayout)) ∧
      ((oldStr = newStr ↔ oldLayout = newLayout) ↔
        (unboundedFields oldLayout = unboundedFields newLayout → oldLayout = newLayout)) := by
  obtain ⟨oldLayout, oldFine, oldReading⟩ := old.reading oldInstalled inOld
  obtain ⟨newLayout, newFine, newReading⟩ := new.reading newInstalled inNew
  refine ⟨_, _, _, _, _, _, oldReading, newReading, ?_, ?_, ?_⟩
  · rw [unboundedText_inj prints_formatArray oldFine newFine,
      unboundedText_inj prints_id oldFine newFine]
  · rw [unboundedText_inj prints_id oldFine newFine]
    refine ⟨Iff.mp, fun decides => ⟨decides, fun same => ?_⟩⟩
    rw [unboundedFields, unboundedFields, same]
  · rw [unboundedText_inj prints_id oldFine newFine]
    refine ⟨Iff.mp, fun decides => ⟨decides, fun same => ?_⟩⟩
    rw [same]

/-! ### A directory with nested messages -/

/-- A message whose only field is a string of at most so many characters. -/
def pilotLines (bound : List UInt8) : List Line :=
  [.field [] ⟨ascii "string", some bound, .none, ascii "name"⟩ [32] []]

def pilot : List UInt8 := ascii "Pilot"

def pilotDefinitions (bound name : List UInt8) : Option (List Line) :=
  if name = pilot then some (pilotLines bound) else none

theorem isName_of_all {text : List UInt8} (all : (text != [] && text.all isWord) = true) :
    IsName text := by
  simpa [IsName] using all

theorem pilot_wellFormed {bound : List UInt8} (number : IsNumber bound) :
    ∀ line ∈ pilotLines bound, line.WellFormed := by
  intro line member
  obtain rfl := List.mem_singleton.mp member
  have isString : IsName (ascii "string") := isName_of_all (by decide)
  have isName : IsName (ascii "name") := isName_of_all (by decide)
  have blank : IsBlank [32] := List.all_eq_true.mp rfl
  refine ⟨nofun, ⟨isString, ⟨?_, fun _ => .inl rfl⟩, trivial, isName⟩, blank, by simp, nofun,
    ⟨nofun, by simp⟩⟩
  intro text same
  cases same
  exact number

theorem pilot_contains_nothing {bound inner outer : List UInt8} :
    ¬ Contains (pilotDefinitions bound) inner outer := by
  rintro ⟨lines, defined, field, member, rfl, notBasic⟩
  unfold pilotDefinitions at defined
  split at defined
  · cases defined
    obtain rfl := List.mem_singleton.mp member
    exact notBasic (kBasicTypes_string (.inl rfl))
  · cases defined

def pilotDir (bound : List UInt8) (number : IsNumber bound) : MsgsDir where
  definitions := pilotDefinitions bound
  wellFormed name lines defined := by
    unfold pilotDefinitions at defined
    split at defined
    · cases defined
      exact pilot_wellFormed number
    · cases defined
  closed inner outer contained := absurd contained pilot_contains_nothing
  acyclic := ⟨fun _ => ⟨_, fun _ contained => absurd contained pilot_contains_nothing⟩⟩

/-- The one file of the directory, for the library and for the script. -/
def pilotFile (path : List UInt8) (bound file : List UInt8) : Option (List UInt8) :=
  if file = path then some (fileText (pilotLines bound)) else none

theorem pilot_installed {bound : List UInt8} (number : IsNumber bound) :
    (pilotDir bound number).Installed (pilotFile (filename [] pilot) bound) []
      (pilotFile (pilot ++ ascii ".msg") bound) := by
  constructor
  · intro name
    by_cases same : name = pilot <;>
      simp [pilotFile, pilotDir, pilotDefinitions, filename, same]
  · intro name
    by_cases same : name = pilot <;> simp [pilotFile, pilotDir, pilotDefinitions, same]

theorem isNumber_ten : IsNumber (ascii "10") :=
  ⟨by decide, by decide, List.all_eq_true.mp (by decide)⟩

theorem isNumber_twenty : IsNumber (ascii "20") :=
  ⟨by decide, by decide, List.all_eq_true.mp (by decide)⟩

def crew : List UInt8 := ascii "Crew"

/-- A message with a constant, an array and a bounded sequence of another message. -/
def crewLines (size : List UInt8) : List Line :=
  [.constant [] (ascii "uint8") none [32] (ascii "SEATS") [] (ascii "4"),
    .field [] ⟨ascii "float32", none, .fixed (ascii "10"), ascii "weights"⟩ [32] [],
    .field [] ⟨pilot, none, .bounded size, ascii "pilots"⟩ [32] []]

def crewDefinitions (size name : List UInt8) : Option (List Line) :=
  if name = crew then some (crewLines size) else pilotDefinitions (ascii "10") name

theorem crew_wellFormed {size : List UInt8} (number : IsNumber size) :
    ∀ line ∈ crewLines size, line.WellFormed := by
  have blank : IsBlank [32] := List.all_eq_true.mp rfl
  have noBound : ∀ type, BoundWellFormed type none := fun type => ⟨nofun, by simp⟩
  have seats : IsName (ascii "SEATS") := isName_of_all (by decide)
  have weights : IsName (ascii "weights") := isName_of_all (by decide)
  have isPilot : IsName pilot := isName_of_all (by decide)
  have pilots : IsName (ascii "pilots") := isName_of_all (by decide)
  have four : OnOneLine (ascii "4") := by
    intro character member
    obtain rfl := List.mem_singleton.mp member
    decide
  simp only [crewLines, List.forall_mem_cons, List.not_mem_nil, false_implies, implies_true,
    and_true]
  refine ⟨⟨nofun, isName_of_all (by decide), noBound _, blank, by simp, seats, nofun, four⟩,
    ⟨nofun, ⟨isName_of_all (by decide), noBound _, isNumber_ten, weights⟩, blank, by simp, nofun,
      ⟨nofun, by simp⟩⟩,
    ⟨nofun, ⟨isPilot, noBound _, number, pilots⟩, blank, by simp, nofun,
      ⟨nofun, by simp⟩⟩⟩

theorem crew_contains {size inner outer : List UInt8}
    (contained : Contains (crewDefinitions size) inner outer) : inner = pilot ∧ outer = crew := by
  obtain ⟨lines, defined, field, member, rfl, notBasic⟩ := contained
  unfold crewDefinitions at defined
  split at defined
  · rename_i isCrew
    cases defined
    simp only [crewLines, fieldsOf, List.filterMap_cons, Line.field?, List.filterMap_nil,
      List.mem_cons, List.not_mem_nil, or_false] at member
    obtain rfl | rfl := member
    · exact absurd (by decide) notBasic
    · exact ⟨rfl, isCrew⟩
  · exact absurd ⟨lines, defined, field, member, rfl, notBasic⟩ pilot_contains_nothing

def crewDir (size : List UInt8) (number : IsNumber size) : MsgsDir where
  definitions := crewDefinitions size
  wellFormed name lines defined := by
    unfold crewDefinitions at defined
    split at defined
    · cases defined
      exact crew_wellFormed number
    · exact (pilotDir (ascii "10") isNumber_ten).wellFormed name lines defined
  closed inner outer contained := by
    rw [(crew_contains contained).1]
    rfl
  acyclic := ⟨fun _ => ⟨_, fun _ contained => ⟨_, fun _ deeper => by
    have same := (crew_contains contained).1.symm.trans (crew_contains deeper).2
    exact absurd same (by decide)⟩⟩⟩

/-- The two files of the directory, for the library or for the script. -/
def crewFile (path : List UInt8 → List UInt8) (size file : List UInt8) : Option (List UInt8) :=
  if file = path crew then some (fileText (crewLines size))
  else pilotFile (path pilot) (ascii "10") file

theorem crew_installed {size : List UInt8} (number : IsNumber size) :
    (crewDir size number).Installed (crewFile (filename []) size) []
      (crewFile (· ++ ascii ".msg") size) := by
  have pilots := pilot_installed isNumber_ten
  constructor
  · intro name
    by_cases same : name = crew
    · simp [crewFile, crewDir, crewDefinitions, same]
    · have other : filename [] name ≠ filename [] crew := by simpa [filename] using same
      simp only [crewFile, if_neg other, crewDir, crewDefinitions, if_neg same]
      exact pilots.library name
  · intro name
    by_cases same : name = crew
    · simp [crewFile, crewDir, crewDefinitions, same]
    · have other : name ++ ascii ".msg" ≠ crew ++ ascii ".msg" := by simpa using same
      simp only [crewFile, if_neg other, crewDir, crewDefinitions, if_neg same]
      exact pilots.script name

theorem hash_input_identifies_layout_of_crew :
    ∃ oldLayout newLayout oldStr newStr oldScript newScript,
      Reading (crewDir (ascii "10") isNumber_ten) (crewFile (filename []) (ascii "10")) []
        (crewFile (· ++ ascii ".msg") (ascii "10")) crew oldLayout oldStr oldScript ∧
      Reading (crewDir (ascii "20") isNumber_twenty) (crewFile (filename []) (ascii "20")) []
        (crewFile (· ++ ascii ".msg") (ascii "20")) crew newLayout newStr newScript ∧
      (oldScript = newScript ↔ oldStr = newStr) ∧
      ((oldStr = newStr ↔ flattenAll oldLayout = flattenAll newLayout) ↔
        (unboundedFields oldLayout = unboundedFields newLayout →
          flattenAll oldLayout = flattenAll newLayout)) ∧
      ((oldStr = newStr ↔ oldLayout = newLayout) ↔
        (unboundedFields oldLayout = unboundedFields newLayout → oldLayout = newLayout)) :=
  hash_input_identifies_layout (crew_installed isNumber_ten) (crew_installed isNumber_twenty) rfl
    rfl

/-! ### Bounded strings -/

theorem pilot_reading {bound : List UInt8} (number : IsNumber bound) :
    Reading (pilotDir bound number) (pilotFile (filename [] pilot) bound) []
      (pilotFile (pilot ++ ascii ".msg") bound) pilot
      [.mk ⟨ascii "string", some bound, .none, ascii "name"⟩ []] [] [] := by
  have layout : ∀ depth, 1 ≤ depth → (pilotDir bound number).layout depth pilot =
      some [.mk ⟨ascii "string", some bound, .none, ascii "name"⟩ []] := by
    intro depth deep
    obtain ⟨depth, rfl⟩ := Nat.exists_eq_succ_of_ne_zero (Nat.one_le_iff_ne_zero.mp deep)
    rfl
  have strings := fun depth deep => fieldsStr_of_layout (pilot_installed number) (layout depth deep)
  exact ⟨⟨1, layout⟩, ⟨1, fun depth deep => (strings depth deep).1⟩,
    ⟨1, fun depth deep => (strings depth deep).2⟩⟩

/-- Names of at most 10 and of at most 20 characters have the same string. -/
theorem bounded_strings_unseen :
    ∃ oldLayout newLayout oldStr newStr oldScript newScript,
      Reading (pilotDir (ascii "10") isNumber_ten) (pilotFile (filename [] pilot) (ascii "10")) []
        (pilotFile (pilot ++ ascii ".msg") (ascii "10")) pilot oldLayout oldStr oldScript ∧
      Reading (pilotDir (ascii "20") isNumber_twenty) (pilotFile (filename [] pilot) (ascii "20")) []
        (pilotFile (pilot ++ ascii ".msg") (ascii "20")) pilot newLayout newStr newScript ∧
      oldStr = newStr ∧ oldScript = newScript ∧
      flattenAll oldLayout ≠ flattenAll newLayout ∧ oldLayout ≠ newLayout := by
  refine ⟨_, _, _, _, _, _, pilot_reading isNumber_ten, pilot_reading isNumber_twenty, rfl, rfl, ?_⟩
  have different : flattenAll [.mk ⟨ascii "string", some (ascii "10"), .none, ascii "name"⟩ []] ≠
      flattenAll [.mk ⟨ascii "string", some (ascii "20"), .none, ascii "name"⟩ []] := by decide
  exact ⟨different, fun same => different (congrArg flattenAll same)⟩

end Px4Ros2.MessageHash
