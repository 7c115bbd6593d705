-- Bridge identifiers. A bridge spells its id with 12 characters, or with 16 of which the four in
-- the middle are padding. `normalize` brings both to the short form and leaves every other text as
-- it is.
import HueLink.Notice

namespace HueLink.BridgeId

/-- A spelling that bridges use. Ids come from the network, so any other is possible too. -/
def isExpected (id : String) : Bool := id.length == 12 || id.length == 16

/-- The 12 character form of an id. -/
def normalize (id : String) : String :=
  if id.length = 16 then String.ofList (id.toList.take 6 ++ id.toList.drop 10) else id

/-- What there is to note when an id is brought to its short form. -/
def remarks (id : String) : List Notice := if isExpected id then [] else [.unexpectedBridgeId id]

end HueLink.BridgeId
