-- Recalling a scene by the names of a group and a scene. Scene names repeat from group to group, so
-- only a scene with exactly the lights of the group will do. What is not found is looked for once
-- more after a refresh.
import HueLink.Codec.Domain
import HueLink.Session.Gate

namespace HueLink.Session

/-- What a lookup found: a group, and a scene for it. -/
structure Found where
  group : Option Group
  scene : Option Scene
deriving DecidableEq, Repr

/-- The first group of that name. -/
def findGroup (name : String) (groups : List Group) : Option Group := groups.find? (·.name == name)

/-- The first scene of that name with the lights of the group. -/
def findScene (name : String) (group : Group) (scenes : List Scene) : Option Scene :=
  scenes.find? fun scene => scene.name == name && scene.matchesGroup group

/-- One lookup in what the client last loaded, without the gate. Without a group the scenes are not
asked for. -/
def lookup (client : Client) (groupName sceneName : String) :
    Routine Cell (Except BridgeError Found) := do
  match ← Routine.request (.groups client) with
  | .error fault => pure (.error fault.classify)
  | .ok groups =>
    match findGroup groupName groups with
    | none => pure (.ok ⟨none, none⟩)
    | some group =>
      match ← Routine.request (.scenes client) with
      | .error fault => pure (.error fault.classify)
      | .ok scenes => pure (.ok ⟨some group, findScene sceneName group scenes⟩)

/-- Has the client load groups and scenes again. -/
def refresh (s : Session) : Routine Cell (Except BridgeError Unit) := do
  Routine.note (.refreshing s.host)
  match ← s.callApi fun client => Routine.request (.updateGroups client) with
  | .error e => pure (.error e)
  | .ok () => s.callApi fun client => Routine.request (.updateScenes client)

/-- Recalls the scene that a lookup found. What is missing is noted and otherwise ignored. -/
def recallFound (s : Session) (groupName sceneName : String) :
    Found → Routine Cell (Except BridgeError Unit)
  | ⟨none, _⟩ => do
    Routine.note (.groupMissing groupName)
    pure (.ok ())
  | ⟨some _, none⟩ => do
    Routine.note (.sceneMissing sceneName)
    pure (.ok ())
  | ⟨some group, some scene⟩ =>
    s.callApi fun client => Routine.request (.setGroupScene client group.id scene.id)

/-- Recalls the scene called `sceneName` on the group called `groupName`. -/
def activateNamedScene (s : Session) (groupName sceneName : String) :
    Routine Cell (Except BridgeError Unit) := do
  match (← Routine.read).client with
  | .error e => pure (.error e)
  | .ok client =>
    match ← lookup client groupName sceneName with
    | .error e => pure (.error e)
    | .ok ⟨some group, some scene⟩ => s.recallFound groupName sceneName ⟨some group, some scene⟩
    | .ok _ =>
      match ← s.refresh with
      | .error e => pure (.error e)
      | .ok () =>
        match ← lookup client groupName sceneName with
        | .error e => pure (.error e)
        | .ok found => s.recallFound groupName sceneName found

/-- The scene service of a session: the recall behind a decoder. Of a session that is gone, `none`,
valid data does nothing. -/
def serveScene (session : Option Session) (data : Json) : Routine Cell (Except BridgeError Unit) :=
  match SceneCall.record.decode data with
  | .error e => pure (.error (.invalidServiceData e))
  | .ok call =>
    match session with
    | some s => s.activateNamedScene call.group call.scene
    | none => pure (.ok ())

end HueLink.Session
