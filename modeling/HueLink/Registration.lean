-- Registrations: what a host stores of a paired bridge. A store holds at most one record for each
-- host and for each bridge, so a new record displaces those it conflicts with.

namespace HueLink

/-- The record of a paired bridge. -/
structure Registration where
  host : String
  /-- The normalized id of the bridge. -/
  bridgeId : String
  /-- The username that the bridge gave out. -/
  username : String
deriving DecidableEq, Repr

namespace Registration

/-- The other record has to go once this one is stored: it differs, and it has the same bridge or
the same host. -/
def supersedes (r other : Registration) : Bool :=
  r != other && (r.bridgeId == other.bridgeId || r.host == other.host)

/-- The records of a store that a new one displaces, in the order of the store. -/
def displaced (r : Registration) (store : List Registration) : List Registration :=
  store.filter r.supersedes

/-- The store after an entry was persisted literally: the replaced records go, the new one comes
last. -/
def persist (r : Registration) (replaces store : List Registration) : List Registration :=
  store.filter (fun old => !replaces.contains old) ++ [r]

end Registration

/-- The hosts that have a record, each once, in the order of their characters. -/
def configuredHosts (store : List Registration) : List String :=
  (store.map (·.host)).eraseDups.mergeSort (fun a b => decide (a ≤ b))

end HueLink
