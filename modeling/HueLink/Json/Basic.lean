-- JSON values. An object keeps its members as they were written; what it holds is read through
-- `entries`, where the last of equal keys counts and the keys are in order.
import HueLink.Json.Double

namespace HueLink

/-- A JSON value. A number is whole if it was written without a fraction and without an exponent and
fits 64 bits, and a double otherwise. -/
inductive Json where
  | null
  | bool (b : Bool)
  | int (n : Int)
  | real (x : Double)
  | str (s : String)
  | arr (items : List Json)
  | obj (members : List (String × Json))
deriving Inhabited, Repr

namespace Json

/-- One more member among members in the order of their keys. A member of the same key gives way. -/
def put {β : Type} (key : String) (value : β) : List (String × β) → List (String × β)
  | [] => [(key, value)]
  | (k, v) :: rest =>
    if key < k then (key, value) :: (k, v) :: rest
    else if key = k then (key, value) :: rest
    else (k, v) :: put key value rest

/-- What members hold, each key once, in the order of the keys by their code points. -/
def entries {β : Type} (members : List (String × β)) : List (String × β) :=
  members.foldl (fun held m => put m.1 m.2 held) []

/-- The value of a key in an object, if the value is an object and has the key. -/
def get? : Json → String → Option Json
  | obj members, key => (entries members).lookup key
  | _, _ => none

/-- The text of a text value. -/
def str? : Json → Option String
  | str s => some s
  | _ => none

end Json

end HueLink
