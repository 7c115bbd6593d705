-- Records as JSON. A record is described once, by its fields in order, and is read and written by
-- that description: as an object with one member for each field, or as an array of the values in
-- order.
import HueLink.Codec.Error
import HueLink.Uuid

namespace HueLink.Codec

/-- A field of a record. -/
structure Field (α : Type) where
  name : String
  read : Json → Except DecodeError α
  /-- The member for a value, or `none` if the field is left out. -/
  write : α → Option Json
  /-- What an object without the field stands for, if it may lack it. -/
  whenMissing : Option α
  /-- What an array stands for that ends before the field, if it may. -/
  whenShort : Option α

/-- The fields of a record in order; their values form nested pairs. -/
inductive Fields : Type → Type 1 where
  | none : Fields Unit
  | field {α β : Type} (f : Field α) (rest : Fields β) : Fields (α × β)

namespace Fields

/-- How many fields there are. -/
def count {ρ : Type} : Fields ρ → Nat
  | none => 0
  | field _ rest => rest.count + 1

/-- What is wrong with the value of a member, if it is the member of a field. -/
def fault? {ρ : Type} (key : String) (value : Json) : Fields ρ → Option DecodeError
  | none => Option.none
  | field f rest =>
    if f.name = key then
      match f.read value with
      | .ok _ => Option.none
      | .error e => some e
    else rest.fault? key value

/-- The values of all fields from members that have no fault. -/
def assemble {ρ : Type} (members : List (String × Json)) : Fields ρ → Except DecodeError ρ
  | none => .ok ()
  | field f rest => do
    let a ← match members.lookup f.name with
      | some value => f.read value
      | Option.none =>
        match f.whenMissing with
        | some a => .ok a
        | Option.none => .error (.missingField f.name)
    let b ← rest.assemble members
    .ok (a, b)

/-- The values of all fields from an object. Members count in the order of their keys: the first
with a fault is told, and only then the first field that is missing. -/
def ofMembers {ρ : Type} (fs : Fields ρ) (members : List (String × Json)) : Except DecodeError ρ :=
  let held := Json.entries members
  match held.findSome? fun m => fs.fault? m.1 m.2 with
  | some e => .error e
  | Option.none => fs.assemble held

/-- The values of the fields from the items of an array, and the items left over. `total` is the
number of all fields of the record, of which `total - fs.count` are read already. -/
def ofItems {ρ : Type} (record : String) (total : Nat) :
    Fields ρ → List Json → Except DecodeError (ρ × List Json)
  | none, items => .ok ((), items)
  | field f rest, item :: items => do
    let a ← f.read item
    let (b, left) ← rest.ofItems record total items
    .ok ((a, b), left)
  | field f rest, [] => do
    let a ← match f.whenShort with
      | some a => .ok a
      | Option.none => .error (.tooShort (total - (rest.count + 1)) record total)
    let (b, left) ← rest.ofItems record total []
    .ok ((a, b), left)

/-- The members that a record is written with. -/
def members {ρ : Type} : Fields ρ → ρ → List (String × Json)
  | none, _ => []
  | field f rest, (a, b) =>
    match f.write a with
    | some v => (f.name, v) :: rest.members b
    | Option.none => rest.members b

end Fields

/-- The description of a record: its name, its fields, and how it is made of their values. -/
structure Record (α : Type) where
  name : String
  shape : Type
  fields : Fields shape
  pack : shape → α
  unpack : α → shape

namespace Record

/-- Reads a record from an object or an array. -/
def decode {α : Type} (r : Record α) : Json → Except DecodeError α
  | .obj members => r.pack <$> r.fields.ofMembers members
  | .arr items => do
    let (a, left) ← r.fields.ofItems r.name r.fields.count items
    if left.isEmpty then .ok (r.pack a) else .error (.tooLong items.length)
  | v => .error (.wrongShape (.of v) (.record r.name))

/-- Writes a record as an object. -/
def encode {α : Type} (r : Record α) (a : α) : Json := .obj (r.fields.members (r.unpack a))

end Record

/-! ## Values of fields -/

/-- A text, told apart from other values under a given name. -/
def readText (expected : Expected) : Json → Except DecodeError String
  | .str s => .ok s
  | v => .error (.wrongShape (.of v) expected)

def readBool : Json → Except DecodeError Bool
  | .bool b => .ok b
  | v => .error (.wrongShape (.of v) .boolean)

def readTexts : Json → Except DecodeError (List String)
  | .arr items => items.mapM (readText .text)
  | v => .error (.wrongShape (.of v) .sequence)

def readUuid : Json → Except DecodeError Uuid
  | .str s => match Uuid.parse? s with
    | some u => .ok u
    | none => .error .badUuid
  | v => .error (.wrongShape (.of v) .uuid)

/-- A value or null. -/
def readOption {α : Type} (read : Json → Except DecodeError α) :
    Json → Except DecodeError (Option α)
  | .null => .ok none
  | v => some <$> read v

/-- A value or null, written. -/
def writeOption {α : Type} (write : α → Json) : Option α → Json
  | none => .null
  | some a => write a

/-! ## Kinds of fields -/

namespace Field

/-- A field that has to be there. -/
def required {α : Type} (name : String) (read : Json → Except DecodeError α) (write : α → Json) :
    Field α :=
  ⟨name, read, fun a => some (write a), none, none⟩

def text (name : String) : Field String := required name (readText .text) .str

def texts (name : String) : Field (List String) :=
  required name readTexts fun ss => .arr (ss.map .str)

/-- A truth value that stands for `default` where it is not given. -/
def flag (name : String) (default : Bool) : Field Bool :=
  ⟨name, readBool, fun b => some (.bool b), some default, some default⟩

/-- A text that may be null, or not be there at all. -/
def optional (name : String) (expected : Expected) : Field (Option String) :=
  ⟨name, readOption (readText expected), fun s => some (writeOption .str s), some none, some none⟩

/-- A text that may be null and is not written then. An object may lack it, an array may not. -/
def omitted (name : String) : Field (Option String) :=
  ⟨name, readOption (readText .text), fun s => s.map .str, some none, none⟩

def uuid (name : String) : Field Uuid := required name readUuid fun u => .str u.text

end Field

end HueLink.Codec
