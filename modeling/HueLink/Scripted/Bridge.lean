-- A bridge that answers as it was told to: after which delay, and with which fault if any. Without
-- orders it does at once what a bridge does.
import HueLink.Bridge.Config
import HueLink.Bridge.Scene
import HueLink.Outside

namespace HueLink.Scripted

/-- What a client can ask of a bridge. -/
inductive Method where
  | createUser | validate | groups | scenes | updateGroups | updateScenes | setGroupScene
deriving DecidableEq, Repr

namespace Method

def all : List Method :=
  [createUser, validate, groups, scenes, updateGroups, updateScenes, setGroupScene]

def name : Method → String
  | createUser => "create_user"
  | validate => "initialize"
  | groups => "groups"
  | scenes => "scenes"
  | updateGroups => "update_groups"
  | updateScenes => "update_scenes"
  | setGroupScene => "set_group_scene"

def ofName? (s : String) : Option Method := all.find? (·.name == s)

end Method

/-- An order for one call: wait, then fail if a fault is given. -/
structure Action where
  delay : Nat
  fault : Option Fault
deriving DecidableEq, Repr

/-- Nothing is ordered. -/
def Action.plain : Action := ⟨0, none⟩

/-- A bridge and its orders. -/
structure Bridge where
  config : BridgeConfig
  linkPressed : Bool
  usernames : List String
  /-- The name of the next user, if it is to be a certain one. -/
  nextUsername : Option String
  /-- A client keeps the username that it created. -/
  keepsUsername : Bool
  /-- The address that clients report instead of the one they were connected to. -/
  reportHost : Option String
  groups : List Group
  scenes : List Scene
  /-- Orders for all calls of a method. -/
  always : List (Method × Action)
  /-- Orders for the next calls of a method, which go before the others. -/
  script : List (Method × List Action)
deriving DecidableEq, Repr

namespace Bridge

/-- A bridge as it comes. -/
def plain : Bridge where
  config := ⟨"Philips hue", "BSB002", "001788fffe23af15", none⟩
  linkPressed := false
  usernames := []
  nextUsername := none
  keepsUsername := true
  reportHost := none
  groups := []
  scenes := []
  always := []
  script := []

/-- The order for the next call of a method, and the bridge without it. -/
def take (b : Bridge) (m : Method) : Action × Bridge :=
  match b.script.lookup m with
  | some (action :: rest) =>
    (action, { b with script := b.script.map fun s => if s.1 = m then (m, rest) else s })
  | _ => ((b.always.lookup m).getD .plain, b)

/-- The username of a client is accepted. A bridge whose clients keep no username accepts clients
without one. -/
def accepts (b : Bridge) : Option String → Bool
  | some username => b.usernames.contains username
  | none => !b.keepsUsername

/-- The name of the next user. -/
def freshUsername (b : Bridge) : String :=
  b.nextUsername.getD ("user-" ++ toString (b.usernames.length + 1))

end Bridge

end HueLink.Scripted
