-- What a bridge tells about itself once it accepted a username, and how much work its model can
-- take.

namespace HueLink

/-- The description a bridge gives of itself. -/
structure BridgeConfig where
  /-- The name its owner sees; it becomes the title of the registration. -/
  name : String
  /-- The hardware model, such as BSB001 for the first generation. -/
  modelId : String
  /-- The id as the bridge spells it. -/
  bridgeId : String
  swVersion : Option String
deriving DecidableEq, Repr

/-- The models that take fewer calls at once than the others, with how many they take. -/
def limitedModels : List (String × Nat) := [("BSB001", 3)]

/-- How many calls at once a model takes if nothing else is known of it. -/
def defaultConcurrencyLimit : Nat := 10

/-- The most calls at once that a bridge of this model can serve. -/
def concurrencyLimit (modelId : String) : Nat :=
  (limitedModels.lookup modelId).getD defaultConcurrencyLimit

end HueLink
