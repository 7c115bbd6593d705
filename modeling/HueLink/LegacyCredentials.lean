-- Usernames in legacy configuration files. Such a file maps the address of a bridge to an object
-- with a username; the entry with the least key counts.
import HueLink.Json.Reader
import HueLink.Notice

namespace HueLink.LegacyCredentials

/-- What is found at a path. -/
inductive File where
  /-- There is no such file, or it cannot be read. -/
  | unreadable
  | bytes (content : ByteArray)
deriving Inhabited

/-- The text of a file, if it can be read and is UTF-8. -/
def File.text? : File → Option String
  | unreadable => none
  | bytes content => String.fromUTF8? content

/-- The members of the object that a text spells. -/
def members? (text : String) : Option (List (String × Json)) :=
  match Json.parse? text with
  | some (.obj members) => some (Json.entries members)
  | _ => none

def firstUsername (members : List (String × Json)) : Option String := do
  let first ← members.head?
  let username ← first.2.get? "username"
  username.str?

/-- The username that a file holds, and what there is to note: a file whose text is no object is
ignored with a notice, one that cannot be read without. -/
def read (file : File) : Option String × List Notice :=
  match file.text? with
  | none => (none, [])
  | some text =>
    match members? text with
    | none => (none, [.legacyIgnored])
    | some members => (firstUsername members, [])

end HueLink.LegacyCredentials
