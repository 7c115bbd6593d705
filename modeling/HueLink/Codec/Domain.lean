-- The records of this library as JSON: what bridges and hosts send, and what is stored.
import HueLink.Bridge.Config
import HueLink.Bridge.Scene
import HueLink.Codec.Record
import HueLink.Pairing.Basic
import HueLink.Session.Options

namespace HueLink

open Codec

/-! ## What a bridge sends -/

def BridgeConfig.record : Record BridgeConfig where
  name := "BridgeConfig"
  shape := String × String × String × Option String × Unit
  fields := .field (.text "name") <| .field (.text "modelid") <| .field (.text "bridgeid") <|
    .field (.optional "swVersion" .text) .none
  pack | (name, modelId, bridgeId, swVersion, ()) => ⟨name, modelId, bridgeId, swVersion⟩
  unpack c := (c.name, c.modelId, c.bridgeId, c.swVersion, ())

def Group.record : Record Group where
  name := "Group"
  shape := String × String × List String × Unit
  fields := .field (.text "id") <| .field (.text "name") <| .field (.texts "lights") .none
  pack | (id, name, lights, ()) => ⟨id, name, lights⟩
  unpack g := (g.id, g.name, g.lights, ())

def Scene.record : Record Scene where
  name := "Scene"
  shape := String × String × List String × Unit
  fields := .field (.text "id") <| .field (.text "name") <| .field (.texts "lights") .none
  pack | (id, name, lights, ()) => ⟨id, name, lights⟩
  unpack s := (s.id, s.name, s.lights, ())

/-! ## What a host stores -/

def Registration.record : Record Registration where
  name := "BridgeRegistration"
  shape := String × String × String × Unit
  fields := .field (.text "host") <| .field (.text "bridge_id") <| .field (.text "username") .none
  pack | (host, bridgeId, username, ()) => ⟨host, bridgeId, username⟩
  unpack r := (r.host, r.bridgeId, r.username, ())

def Options.record : Record Options where
  name := "BridgeOptions"
  shape := Bool × Bool × Unit
  fields := .field (.flag "allow_unreachable" Options.default.allowUnreachable) <|
    .field (.flag "allow_groups" Options.default.allowGroups) .none
  pack | (allowUnreachable, allowGroups, ()) => ⟨allowUnreachable, allowGroups⟩
  unpack o := (o.allowUnreachable, o.allowGroups, ())

/-! ## Pairing -/

namespace Pairing

/-- The source that a name stands for. -/
def FlowSource.named (name : String) : Except DecodeError FlowSource :=
  match FlowSource.ofName? name with
  | some source => .ok source
  | none => .error (.unknownVariant name (FlowSource.all.map (·.name)))

/-- A source is a name, or an object with the name as its only key and null as its value. -/
def FlowSource.decode : Json → Except DecodeError FlowSource
  | .str name => named name
  | .obj members =>
    match Json.entries members with
    | [(name, value)] => do
      let source ← named name
      match value with
      | .null => .ok source
      | v => .error (.wrongShape (.of v) .unit)
    | _ => .error .notSingleKey
  | v => .error (.wrongShape (.of v) .textOrMap)

def FlowSource.encode (source : FlowSource) : Json := .str source.name

def FlowContext.record : Record FlowContext where
  name := "FlowContext"
  shape := Uuid × FlowSource × Option String × Option String × Unit
  fields := .field (.uuid "flow_id") <|
    .field (.required "source" FlowSource.decode FlowSource.encode) <|
    .field (.omitted "host") <| .field (.omitted "unique_id") .none
  pack | (id, source, host, uniqueId, ()) => ⟨id, source, host, uniqueId⟩
  unpack c := (c.id, c.source, c.host, c.uniqueId, ())

def DiscoveredBridge.record : Record DiscoveredBridge where
  name := "DiscoveredBridge"
  shape := String × String × Unit
  fields := .field (.text "host") <| .field (.text "id") .none
  pack | (host, id, ()) => ⟨host, id⟩
  unpack b := (b.host, b.id, ())

def HostSelection.record : Record HostSelection where
  name := "HostSelection"
  shape := String × Unit
  fields := .field (.text "host") .none
  pack | (host, ()) => ⟨host⟩
  unpack s := (s.host, ())

def SsdpInfo.record : Record SsdpInfo where
  name := "SsdpInfo"
  shape := String × String × Option String × String × Unit
  fields := .field (.text "host") <| .field (.text "manufacturer_url") <|
    .field (.optional "name" .text) <| .field (.text "serial") .none
  pack | (host, manufacturerUrl, name, serial, ()) => ⟨host, manufacturerUrl, name, serial⟩
  unpack i := (i.host, i.manufacturerUrl, i.name, i.serial, ())

def HomekitInfo.record : Record HomekitInfo where
  name := "HomekitInfo"
  shape := String × String × Unit
  fields := .field (.text "host") <| .field (.text "id") .none
  pack | (host, id, ()) => ⟨host, id⟩
  unpack i := (i.host, i.id, ())

def ImportInfo.record : Record ImportInfo where
  name := "ImportInfo"
  shape := String × Option String × Unit
  fields := .field (.text "host") <| .field (.optional "path" .path) .none
  pack | (host, path, ()) => ⟨host, path⟩
  unpack i := (i.host, i.path, ())

end Pairing

/-! ## Service calls -/

def SceneCall.record : Record SceneCall where
  name := "SceneCall"
  shape := String × String × Unit
  fields := .field (.text "group_name") <| .field (.text "scene_name") .none
  pack | (group, scene, ()) => ⟨group, scene⟩
  unpack c := (c.group, c.scene, ())

end HueLink
