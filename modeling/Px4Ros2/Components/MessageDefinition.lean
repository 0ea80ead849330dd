import Px4Ros2.Components.MessageHash

/-! Message definitions: the syntax of their files, the layout that a directory of them gives to a
message, and the script that compares two directories. -/

set_option autoImplicit false

namespace Px4Ros2.MessageHash

/-! ### Syntax -/

inductive ArrayBound where
  | none
  | unbounded
  | fixed (size : List UInt8)
  | bounded (size : List UInt8)
deriving DecidableEq, Repr

def ArrayBound.text : ArrayBound → List UInt8
  | .none => []
  | .unbounded => ascii "[]"
  | .fixed size => ascii "[" ++ size ++ ascii "]"
  | .bounded size => ascii "[<=" ++ size ++ ascii "]"

structure Field where
  type : List UInt8
  /-- The bound of a bounded string. -/
  stringBound : Option (List UInt8) := none
  array : ArrayBound := .none
  fieldName : List UInt8
deriving DecidableEq, Repr

def boundText : Option (List UInt8) → List UInt8
  | none => []
  | some bound => ascii "<=" ++ bound

inductive Line where
  | blank (spaces : List UInt8)
  | comment (indent text : List UInt8)
  /-- A default value and a comment are in the rest. -/
  | field (indent : List UInt8) (field : Field) (spaces rest : List UInt8)
  | constant (indent type : List UInt8) (stringBound : Option (List UInt8))
      (spaces name blanks value : List UInt8)
deriving DecidableEq, Repr

def Line.text : Line → List UInt8
  | .blank spaces => spaces
  | .comment indent text => indent ++ ascii "#" ++ text
  | .field indent declared spaces rest =>
      indent ++ declared.type ++ boundText declared.stringBound ++ declared.array.text ++ spaces ++
        declared.fieldName ++ rest
  | .constant indent type stringBound spaces name blanks value =>
      indent ++ type ++ boundText stringBound ++ spaces ++ name ++ blanks ++ ascii "=" ++ value

/-- A file is its lines with line feeds between them. -/
def fileText : List Line → List UInt8
  | [] => []
  | line :: lines => line.text ++ lines.flatMap fun line => 10 :: line.text

def Line.field? : Line → Option Field
  | .field _ declared _ _ => some declared
  | _ => none

def isDigit (character : UInt8) : Bool := 48 ≤ character && character ≤ 57

/-- A decimal number without leading zeros. -/
def IsNumber (text : List UInt8) : Prop :=
  text ≠ [] ∧ text.head? ≠ some 48 ∧ ∀ character ∈ text, isDigit character = true

def IsName (text : List UInt8) : Prop :=
  text ≠ [] ∧ ∀ character ∈ text, isWord character = true

def IsBlank (text : List UInt8) : Prop :=
  ∀ character ∈ text, isBlank character = true

def OnOneLine (text : List UInt8) : Prop :=
  ∀ character ∈ text, character ≠ 10 ∧ character ≠ 13

def ArrayBound.WellFormed : ArrayBound → Prop
  | .none | .unbounded => True
  | .fixed size | .bounded size => IsNumber size

/-- Only strings have a bound of their own. -/
structure BoundWellFormed (type : List UInt8) (stringBound : Option (List UInt8)) : Prop where
  number : ∀ bound ∈ stringBound, IsNumber bound
  string : stringBound ≠ none → type = ascii "string" ∨ type = ascii "wstring"

structure Field.WellFormed (field : Field) : Prop where
  type : IsName field.type
  bound : BoundWellFormed field.type field.stringBound
  array : field.array.WellFormed
  fieldName : IsName field.fieldName

/-- What follows the name of a field: no constant's value, and nothing that belongs to the name. -/
structure EndsField (rest : List UInt8) : Prop where
  ends : ∀ character ∈ rest.head?, isBlank character = true ∨ character = 35
  noConstant : (rest.dropWhile isBlank).head? ≠ some 61

def Line.WellFormed : Line → Prop
  | .blank spaces => IsBlank spaces
  | .comment indent text => IsBlank indent ∧ OnOneLine text
  | .field indent declared spaces rest =>
      IsBlank indent ∧ declared.WellFormed ∧ IsBlank spaces ∧ spaces ≠ [] ∧ OnOneLine rest ∧
        EndsField rest
  | .constant indent type stringBound spaces name blanks value =>
      IsBlank indent ∧ IsName type ∧ BoundWellFormed type stringBound ∧ IsBlank spaces ∧
        spaces ≠ [] ∧ IsName name ∧ IsBlank blanks ∧ OnOneLine value

/-! ### Directories -/

def fieldsOf (lines : List Line) : List Field :=
  lines.filterMap Line.field?

/-- A definition has a field of another type. -/
def Contains (definitions : List UInt8 → Option (List Line)) (inner outer : List UInt8) : Prop :=
  ∃ lines, definitions outer = some lines ∧
    ∃ field ∈ fieldsOf lines, field.type = inner ∧ inner ∉ kBasicTypes

/-- Well-formed definitions, each with all that it contains, and none that contains itself. -/
structure MsgsDir where
  definitions : List UInt8 → Option (List Line)
  wellFormed : ∀ name lines, definitions name = some lines → ∀ line ∈ lines, line.WellFormed
  closed : ∀ inner outer, Contains definitions inner outer → (definitions inner).isSome = true
  acyclic : WellFounded (Contains definitions)

/-! ### Layouts -/

/-- A field with the expansion of its type. -/
inductive LayoutField where
  | mk (field : Field) (nested : List LayoutField)
deriving Repr

/-- The fields of a message, fully expanded. The number bounds how deep they are nested. -/
def MsgsDir.layout (msgs : MsgsDir) : Nat → List UInt8 → Option (List LayoutField)
  | 0, _ => none
  | depth + 1, name =>
      (msgs.definitions name).bind fun lines =>
        (fieldsOf lines).mapM fun field =>
          if field.type ∈ kBasicTypes then some (.mk field [])
          else (msgs.layout depth field.type).map (.mk field)

mutual

/-- The expansions inlined at their positions. -/
def LayoutField.flatten : LayoutField → List Field
  | .mk field nested => field :: flattenAll nested

def flattenAll : List LayoutField → List Field
  | [] => []
  | field :: fields => field.flatten ++ flattenAll fields

end

/-- The inlined fields that are no bounded strings. -/
def unboundedFields (layout : List LayoutField) : List Field :=
  (flattenAll layout).filter fun field => field.stringBound.isNone

/-! ### The script -/

namespace Script

/-- `f"{array}"`, of a group that may not have matched. -/
def formatArray (array : List UInt8) : List UInt8 :=
  if array = [] then ascii "None" else array

/-- `message_fields_str_for_message_hash`, over the files that `find_file_in_subfolders` finds;
nothing when it raises an error. -/
def messageFieldsStr (find : List UInt8 → Option (List UInt8)) :
    Nat → List UInt8 → Option (List UInt8)
  | 0, _ => none
  | depth + 1, topicType =>
      (find (topicType ++ ascii ".msg")).bind fun text =>
        (fieldMatches text).foldlM (fun fieldsStr field =>
          if field.constant = [61] then some fieldsStr
          else
            let fieldsStr :=
              fieldsStr ++ field.type ++ formatArray field.array ++ [32] ++ field.fieldName ++ [10]
            if field.type ∈ kBasicTypes then some fieldsStr
            else if 47 ∉ field.type then do
              let nested ← messageFieldsStr find depth field.type
              return fieldsStr ++ nested
            else none) []

end Script

/-- The directory as the library opens its files, and as the script finds them. -/
structure MsgsDir.Installed (msgs : MsgsDir) (files : Files) (msgsDir : List UInt8)
    (find : List UInt8 → Option (List UInt8)) : Prop where
  library : ∀ name, files (filename msgsDir name) = (msgs.definitions name).map fileText
  script : ∀ name, find (name ++ ascii ".msg") = (msgs.definitions name).map fileText

end Px4Ros2.MessageHash
