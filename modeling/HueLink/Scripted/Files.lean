-- Files by their paths. A path is walked part by part from the root: it may stay where it is or go
-- back up, but only from a directory, so that nothing is found beyond a file or beyond what is not
-- there.
import HueLink.LegacyCredentials

namespace HueLink.Scripted

/-- The parts of a path between its slashes. -/
def pathParts (path : String) : List String := path.splitOn "/"

/-- Files with the parts of their paths from the root. -/
abbrev Files := List (List String × LegacyCredentials.File)

namespace Files

/-- A place is a directory if it is the root or something lies below it. -/
def isDirectory (files : Files) (place : List String) : Bool :=
  place.isEmpty || files.any fun f => place.isPrefixOf f.1 && place != f.1

/-- Where a walk ends that starts at a place. -/
def walk (files : Files) : List String → List String → Option (List String)
  | place, [] => some place
  | place, part :: rest =>
    if files.isDirectory place then
      if part = "" ∨ part = "." then files.walk place rest
      else if part = ".." then files.walk place.dropLast rest
      else files.walk (place ++ [part]) rest
    else none

/-- What is at a path. What is missing or is a directory cannot be read. -/
def content (files : Files) (path : String) : LegacyCredentials.File :=
  ((files.walk [] (pathParts path)).bind fun place => files.lookup place).getD .unreadable

end Files

end HueLink.Scripted
