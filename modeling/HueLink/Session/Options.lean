-- What a host chooses for a registered bridge, and what it sends to recall a scene.

namespace HueLink

/-- Options of a registration, handed on to the platforms. -/
structure Options where
  /-- Keep lights that the bridge reports as out of reach. -/
  allowUnreachable : Bool
  /-- Show groups of lights as well. -/
  allowGroups : Bool
deriving DecidableEq, Repr

/-- The options of a registration for which nothing was chosen. -/
def Options.default : Options := ⟨false, true⟩

/-- The data of a call of the scene service. -/
structure SceneCall where
  group : String
  scene : String
deriving DecidableEq, Repr

end HueLink
