-- Writing a JSON value on one line, without blanks and with the members of an object in the order
-- of their keys.
import HueLink.Json.Basic

namespace HueLink.Json

/-- A digit to the base 16. -/
def hexDigit (n : Nat) : Char := ("0123456789abcdef".toList)[n % 16]?.getD '0'

/-- A character inside a written text. -/
def escape (c : Char) : List Char :=
  if c = '"' ∨ c = '\\' then ['\\', c]
  else if c = '\n' then ['\\', 'n']
  else if c = '\r' then ['\\', 'r']
  else if c = '\t' then ['\\', 't']
  else if c.toNat < 0x20 then ['\\', 'u', '0', '0', hexDigit (c.toNat / 16), hexDigit c.toNat]
  else [c]

/-- A written text. -/
def writeText (s : String) : String := String.ofList ('"' :: s.toList.flatMap escape ++ ['"'])

mutual

/-- The text of a value. -/
def write : Json → String
  | null => "null"
  | bool true => "true"
  | bool false => "false"
  | int n => toString n
  | real x => x.text
  | str s => writeText s
  | arr items => "[" ++ ",".intercalate (writeItems items) ++ "]"
  | obj members => "\x7b" ++ ",".intercalate
      ((entries (writeMembers members)).map fun m => writeText m.1 ++ ":" ++ m.2) ++ "\x7d"

/-- The texts of the items of an array. -/
def writeItems : List Json → List String
  | [] => []
  | v :: rest => write v :: writeItems rest

/-- The members of an object, each with the text of its value. -/
def writeMembers : List (String × Json) → List (String × String)
  | [] => []
  | (k, v) :: rest => (k, write v) :: writeMembers rest

end

end HueLink.Json
