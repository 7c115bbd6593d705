-- The platforms a host sets up on top of a bridge.

namespace HueLink

/-- A kind of device that a bridge brings into the home. -/
inductive Platform where
  | light | binarySensor | sensor
deriving DecidableEq, Repr

namespace Platform

/-- All platforms, in the order in which they are set up. -/
def all : List Platform := [light, binarySensor, sensor]

def name : Platform → String
  | light => "light"
  | binarySensor => "binary_sensor"
  | sensor => "sensor"

end Platform

end HueLink
