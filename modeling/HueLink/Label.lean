-- The label of a user created on a bridge. It names the home in a short form that every bridge
-- takes: lower case letters, digits and single dashes, at most nineteen of them.
-- How characters outside ASCII are spelled is a table from elsewhere, and part of what a home tells
-- of its name.

namespace HueLink

/-- The name of a home, with the ASCII spellings of what is not ASCII in it. -/
structure HomeName where
  text : String
  /-- The spelling of a character, if it has one. -/
  spelling : Char → Option String

/-- A name that is in ASCII. -/
def HomeName.plain (text : String) : HomeName := ⟨text, fun _ => none⟩

namespace Label

/-! ## The slug of a name -/

/-- The sign that a slug keeps of a character: small letters and digits stay, capitals are lowered,
and nothing else is kept. -/
def keep (c : Char) : Option Char :=
  if c.isLower || c.isDigit then some c
  else if c.isUpper then some c.toLower
  else none

/-- One more character at the end of a slug that is held last sign first. What is not kept becomes a
dash, unless the slug is empty or ends in a dash already. -/
def push (slug : List Char) (c : Char) : List Char :=
  match keep c, slug with
  | some d, slug => d :: slug
  | none, [] => []
  | none, '-' :: rest => '-' :: rest
  | none, slug => '-' :: slug

/-- A name spelled in ASCII. What has no spelling stands as a dash. -/
def spell (table : Char → Option String) (name : List Char) : List Char :=
  name.flatMap fun c => if c.toNat < 128 then [c] else ((table c).getD "-").toList

/-- A slug held last sign first, without the dash it may end in. -/
def dropDash : List Char → List Char
  | '-' :: rest => rest
  | slug => slug

/-- The slug of a name: its kept signs, with one dash for each gap between them. -/
def slug (table : Char → Option String) (name : String) : List Char :=
  (dropDash ((spell table name.toList).foldl push [])).reverse

/-! ## The label -/

/-- The most signs of a slug that a bridge takes. -/
def maxLength : Nat := 19

/-- The slug cut to its length, without the dashes that the cut left at its end. -/
def shorten (slug : List Char) : List Char :=
  ((slug.take maxLength).reverse.dropWhile (· == '-')).reverse

/-- What every label starts with: the kind of application that asks for a user. -/
def application : String := "home-assistant"

/-- The label for a home under a given table of spellings. -/
def ofName (table : Char → Option String) (name : String) : String :=
  application ++ "#" ++ String.ofList (shorten (slug table name))

/-- The label of a user created for a home. -/
def forHome (home : HomeName) : String := ofName home.spelling home.text

end Label

end HueLink
