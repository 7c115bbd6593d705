-- Groups of lights and the scenes stored for them. A scene belongs to a group if it sets exactly
-- the lights of the group, in whatever order and however often either lists them.

namespace HueLink

/-- A group of lights as a bridge knows it. -/
structure Group where
  id : String
  name : String
  lights : List String
deriving DecidableEq, Repr

/-- A stored scene as a bridge knows it. -/
structure Scene where
  id : String
  name : String
  lights : List String
deriving DecidableEq, Repr

/-- The scene sets the lights of the group and no others. -/
def Scene.matchesGroup (scene : Scene) (group : Group) : Bool :=
  scene.lights.all group.lights.contains && group.lights.all scene.lights.contains

end HueLink
