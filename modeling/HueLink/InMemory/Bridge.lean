-- A bridge in memory, shared by all clients that are connected to it. Each client has its own copy
-- of the groups and scenes, as they were when it last loaded them. The bridge keeps account of what
-- it granted: the users created, the scenes recalled, and the refreshes.
import HueLink.Bridge.Config
import HueLink.Bridge.Scene
import HueLink.Outside

namespace HueLink.InMemory

structure Bridge where
  config : BridgeConfig
  linkPressed : Bool
  usernames : List String
  /-- The fault with which it answers those who want to get in. -/
  fault : Option Fault
  /-- How long it takes to validate a username. -/
  delay : Option Nat
  groups : List Group
  scenes : List Scene
  /-- The labels of the users created. -/
  labels : List String
  /-- The scenes recalled, each with its group. -/
  activations : List (String × String)
  /-- How often groups were loaded again. -/
  refreshes : Nat
deriving DecidableEq, Repr

/-- A client of the bridge. -/
structure Api where
  host : String
  username : Option String
  groups : List Group
  scenes : List Scene
deriving DecidableEq, Repr

namespace Bridge

/-- A bridge as it comes. -/
def plain : Bridge where
  config := ⟨"Philips hue", "BSB002", "001788fffe23af15", none⟩
  linkPressed := false
  usernames := []
  fault := none
  delay := none
  groups := []
  scenes := []
  labels := []
  activations := []
  refreshes := 0

/-- The bridge knows the username of the client. -/
def knows (b : Bridge) (a : Api) : Bool := a.username.any b.usernames.contains

/-! ## What a client can have done -/

/-- A new user, if there is no fault and the link button is pressed. The client keeps
its username. -/
def createUser (label : String) (a : Api) (b : Bridge) : Except Fault Unit × Api × Bridge :=
  match b.fault with
  | some fault => (.error fault, a, b)
  | none =>
    if b.linkPressed then
      let username := "user-" ++ toString (b.usernames.length + 1)
      (.ok (), { a with username := some username },
        { b with usernames := b.usernames ++ [username], labels := b.labels ++ [label] })
    else (.error .linkButtonNotPressed, a, b)

/-- Validates the username of the client and loads all there is. -/
def validate (a : Api) (b : Bridge) : Except Fault BridgeConfig × Api × Bridge :=
  match b.fault with
  | some fault => (.error fault, a, b)
  | none =>
    if b.knows a then (.ok b.config, { a with groups := b.groups, scenes := b.scenes }, b)
    else (.error .unauthorized, a, b)

def updateGroups (a : Api) (b : Bridge) : Except Fault Unit × Api × Bridge :=
  if b.knows a then (.ok (), { a with groups := b.groups }, { b with refreshes := b.refreshes + 1 })
  else (.error .unauthorized, a, b)

def updateScenes (a : Api) (b : Bridge) : Except Fault Unit × Api × Bridge :=
  if b.knows a then (.ok (), { a with scenes := b.scenes }, b)
  else (.error .unauthorized, a, b)

def setGroupScene (group scene : String) (a : Api) (b : Bridge) :
    Except Fault Unit × Api × Bridge :=
  if b.knows a then (.ok (), a, { b with activations := b.activations ++ [(group, scene)] })
  else (.error .unauthorized, a, b)

/-! ## What can be done to it -/

/-- Something that changes the bridge from outside. -/
inductive Change where
  | press
  | addUsername (name : String)
  | revoke
  | fail (fault : Fault)
  | delay (span : Nat)
  | model (id : String)
  | groups (list : List Group)
  | scenes (list : List Scene)

/-- The bridge after a change. A fault or a delay stays until another is set. -/
def change (b : Bridge) : Change → Bridge
  | .press => { b with linkPressed := true }
  | .addUsername name => { b with usernames := b.usernames ++ [name] }
  | .revoke => { b with usernames := [] }
  | .fail fault => { b with fault := some fault }
  | .delay span => { b with delay := some span }
  | .model id => { b with config := { b.config with modelId := id } }
  | .groups list => { b with groups := list }
  | .scenes list => { b with scenes := list }

end Bridge

end HueLink.InMemory
