-- The fixed values of the integration: its names, its patience, and what it takes for a bridge.
import HueLink.Outside

namespace HueLink

/-- The domain under which services are registered. -/
def domain : String := "hue"

/-- The service that recalls a scene by the names of a group and a scene. -/
def sceneService : String := "hue_activate_scene"

/-- How long creating and validating a username may take. -/
def authLimit : Nat := 10000

/-- How long a discovery round may take. -/
def discoveryLimit : Nat := 5000

/-- The manufacturer that real bridges announce. -/
def genuineManufacturer : String := "http://www.philips.com"

/-- Names of emulated bridges that announce themselves like real ones. -/
def ignoredNames : List String := ["HASS Bridge", "Espalexa"]

end HueLink
