-- What can be wrong with a JSON value that should spell a record, and how it is told.
import HueLink.Json.Basic
import HueLink.Text.Quoted

namespace HueLink.Codec

/-- What a value is, as far as a message tells it. -/
inductive Shape where
  | null
  | boolean (b : Bool)
  | integer (n : Int)
  | floating (x : Double)
  | text (s : String)
  | sequence
  | map
deriving DecidableEq, Repr

/-- The shape of a value. -/
def Shape.of : Json → Shape
  | .null => null
  | .bool b => boolean b
  | .int n => integer n
  | .real x => floating x
  | .str s => text s
  | .arr _ => sequence
  | .obj _ => map

def Shape.message : Shape → String
  | null => "null"
  | boolean b => "boolean `" ++ (if b then "true" else "false") ++ "`"
  | integer n => "integer `" ++ toString n ++ "`"
  | floating x => "floating point `" ++ x.text ++ "`"
  | text s => "string " ++ Text.quoted s
  | sequence => "sequence"
  | map => "map"

/-- What a value should have been. -/
inductive Expected where
  | text | boolean | sequence | path | uuid | unit | textOrMap
  | record (name : String)
deriving DecidableEq, Repr

def Expected.message : Expected → String
  | text => "a string"
  | boolean => "a boolean"
  | sequence => "a sequence"
  | path => "path string"
  | uuid => "a formatted UUID string"
  | unit => "unit"
  | textOrMap => "string or map"
  | record name => "struct " ++ name

/-- Why a value does not spell what it should. -/
inductive DecodeError where
  | wrongShape (found : Shape) (expected : Expected)
  | missingField (name : String)
  /-- An array ends before its record is complete: `length` elements are there of `fields`. -/
  | tooShort (length : Nat) (record : String) (fields : Nat)
  /-- An array goes on after its record is complete. -/
  | tooLong (length : Nat)
  | unknownVariant (name : String) (variants : List String)
  | notSingleKey
  | badUuid
deriving DecidableEq, Repr

def DecodeError.message : DecodeError → String
  | wrongShape found expected =>
    "invalid type: " ++ found.message ++ ", expected " ++ expected.message
  | missingField name => "missing field `" ++ name ++ "`"
  | tooShort length record fields =>
    "invalid length " ++ toString length ++ ", expected struct " ++ record ++ " with "
      ++ toString fields ++ (if fields = 1 then " element" else " elements")
  | tooLong length => "invalid length " ++ toString length ++ ", expected fewer elements in array"
  | unknownVariant name variants =>
    "unknown variant `" ++ name ++ "`, expected one of "
      ++ ", ".intercalate (variants.map fun v => "`" ++ v ++ "`")
  | notSingleKey => "invalid value: map, expected map with a single key"
  | badUuid => "UUID parsing failed"

end HueLink.Codec
