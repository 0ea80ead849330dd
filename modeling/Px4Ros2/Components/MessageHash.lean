import Px4Ros2.Lib.CString
import Mathlib.Data.String.Basic

/-! Reading message definitions, and the hash over their fields. Texts are lists of characters as the
files have them. -/

set_option autoImplicit false

namespace Px4Ros2

open Lib

/-- A text of the source. -/
def ascii (text : String) : List UInt8 := text.toList.map (·.toNat.toUInt8)

namespace MessageHash

/-! ### The regular expression of fields -/

/-- `\s`. -/
def isSpace (character : UInt8) : Bool := character == 32 || 9 ≤ character && character ≤ 13

/-- `\w`. -/
def isWord (character : UInt8) : Bool :=
  97 ≤ character && character ≤ 122 || 65 ≤ character && character ≤ 90 ||
    48 ≤ character && character ≤ 57 || character == 95

/-- `[a-zA-Z0-9_/]`. -/
def isType (character : UInt8) : Bool := isWord character || character == 47

/-- `[ \t]`. -/
def isBlank (character : UInt8) : Bool := character == 32 || character == 9

/-- The captures of a match. -/
structure FieldMatch where
  type : List UInt8
  array : List UInt8
  fieldName : List UInt8
  constant : List UInt8
deriving DecidableEq, Repr

/-- `(\[[^\]]*\])?`, with what follows it. -/
def matchArray : List UInt8 → List UInt8 × List UInt8
  | 91 :: inside =>
      match inside.dropWhile (· != 93) with
      | _ :: rest => (91 :: inside.takeWhile (· != 93) ++ [93], rest)
      | [] => ([], 91 :: inside)
  | text => ([], text)

/-- `\s*([a-zA-Z0-9_/]+)(\[[^\]]*\])?\s+(\w+)[ \t]*(=)?`, with what follows it. No part can end
with a character that the next one begins with, so that each takes what it can get. -/
def matchField (text : List UInt8) : Option (FieldMatch × List UInt8) :=
  let text := text.dropWhile isSpace
  let type := text.takeWhile isType
  let (array, text) := matchArray (text.dropWhile isType)
  let spaces := text.takeWhile isSpace
  let text := text.dropWhile isSpace
  let fieldName := text.takeWhile isWord
  let text := (text.dropWhile isWord).dropWhile isBlank
  if type = [] ∨ spaces = [] ∨ fieldName = [] then none
  else
    match text with
    | 61 :: rest => some (⟨type, array, fieldName, [61]⟩, rest)
    | rest => some (⟨type, array, fieldName, []⟩, rest)

/-- The matches behind a line feed, after some characters that belong to the match before. -/
def matchesAfter : Nat → List UInt8 → List FieldMatch
  | _, [] => []
  | skipped + 1, _ :: text => matchesAfter skipped text
  | 0, character :: text =>
      if character = 10 then
        match matchField text with
        | some (field, rest) => field :: matchesAfter (text.length - rest.length) text
        | none => matchesAfter 0 text
      else matchesAfter 0 text

/-- All matches of `kMsgFieldTypeRegex`. -/
def fieldMatches (text : List UInt8) : List FieldMatch :=
  match matchField text with
  | some (field, rest) => field :: matchesAfter (text.length - rest.length) text
  | none => matchesAfter 0 text

/-! ### The fields of a definition -/

instance lawfulBEq_text : LawfulBEq (List UInt8) := inferInstance

def kBasicTypes : List (List UInt8) :=
  ["bool", "byte", "char", "float32", "float64", "int8", "uint8", "int16", "uint16", "int32",
    "uint32", "int64", "uint64", "string", "wstring"].map ascii

/-- A file of the installation, when it can be opened. -/
abbrev Files := List UInt8 → Option (List UInt8)

def filename (msgsDir topicType : List UInt8) : List UInt8 :=
  msgsDir ++ ascii "/msg/" ++ topicType ++ ascii ".msg"

/-- `messageFieldsStrForMessageHash`. Definitions that contain themselves are never finished; the
number bounds how deep they are nested. -/
def messageFieldsStr (files : Files) (msgsDir : List UInt8) :
    Nat → List UInt8 → Option (List UInt8)
  | 0, _ => none
  | depth + 1, topicType =>
      match files (filename msgsDir topicType) with
      -- the failure is only logged
      | none => some []
      | some text =>
          (fieldMatches text).foldlM (fun fieldsStr field =>
            if field.constant = [61] then some fieldsStr
            else
              let fieldsStr :=
                fieldsStr ++ field.type ++ field.array ++ [32] ++ field.fieldName ++ [10]
              if field.type ∈ kBasicTypes then some fieldsStr
              else if 47 ∉ field.type then do
                let nested ← messageFieldsStr files msgsDir depth field.type
                return fieldsStr ++ nested
              -- so is a namespace
              else some fieldsStr) []

/-- `static_cast<uint32_t>` of a `char`. -/
def charToUInt32 (character : UInt8) : UInt32 := character.toInt8.toInt32.toUInt32

def kVal32Const : UInt32 := 0x811c9dc5

def kPrime32Const : UInt32 := 0x1000193

def hash32Fnv1aConst : List UInt8 → UInt32 → UInt32
  | [], value => value
  | character :: text, value =>
      hash32Fnv1aConst text ((value ^^^ charToUInt32 character) * kPrime32Const)

def messageHash (files : Files) (msgsDir : List UInt8) (depth : Nat) (topicType : List UInt8) :
    Option UInt32 :=
  (messageFieldsStr files msgsDir depth topicType).map fun fields =>
    hash32Fnv1aConst (cString fields) kVal32Const

/-- `std::toupper`. -/
def toUpper (character : UInt8) : UInt8 :=
  if 97 ≤ character ∧ character ≤ 122 then character - 32 else character

/-- `snakeToCamelCase`, from within a word or from its beginning. -/
def snakeToCamelCase (tail : Bool) : List UInt8 → List UInt8
  | [] => []
  | character :: text =>
      if character = 45 ∨ character = 95 then snakeToCamelCase false text
      else if tail then character :: snakeToCamelCase true text
      else toUpper character :: snakeToCamelCase true text

/-- The part of a topic name after its last slash. -/
def afterLastSlash (topicName : List UInt8) : List UInt8 :=
  (topicName.reverse.takeWhile (· != 47)).reverse

/-- A definition and all that it contains can be read. -/
def readable (files : Files) (msgsDir : List UInt8) : Nat → List UInt8 → Bool
  | 0, _ => false
  | depth + 1, topicType =>
      match files (filename msgsDir topicType) with
      | none => false
      | some text =>
          (fieldMatches text).all fun field =>
            field.constant == [61] || decide (field.type ∈ kBasicTypes) ||
              decide (47 ∉ field.type) && readable files msgsDir depth field.type

example : fieldMatches (ascii "uint8 A=1 # text\nfloat32[2] b\n#int8 c\n Nested d") =
    [⟨ascii "uint8", [], ascii "A", [61]⟩, ⟨ascii "float32", ascii "[2]", ascii "b", []⟩,
      ⟨ascii "Nested", [], ascii "d", []⟩] := by
  decide

end MessageHash

end Px4Ros2
