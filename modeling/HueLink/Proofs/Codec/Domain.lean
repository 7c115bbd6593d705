-- The records of this library keep their values in JSON, and mean the same in each of their shapes.
import HueLink.Codec.Domain
import HueLink.Proofs.Codec.Record
import HueLink.Proofs.Uuid

namespace HueLink

namespace Codec

variable {α : Type}

/-- What is written of a value is read as that value, and a value that was read is read again from
what is written of it. -/
def KeepsValues (encode : α → Json) (decode : Json → Except DecodeError α) : Prop :=
  (∀ x, decode (encode x) = .ok x) ∧ ∀ v x, decode v = .ok x → decode (encode x) = .ok x

/-- The shapes of a record agree. `names` are the names of its fields in order, and `options` those
of the fields that may be null. -/
structure Record.Agrees (r : Record α) (names options : List String) : Prop where
  /-- An array says what the object with its items under the names of the fields says. -/
  array : ∀ items : List Json, items.length = names.length →
    ∀ x, r.decode (.arr items) = .ok x ↔ r.decode (.obj (names.zip items)) = .ok x
  /-- Members under other names do not count. -/
  others : ∀ members members' : List (String × Json),
    (members.filter fun m => names.contains m.1) = (members'.filter fun m => names.contains m.1) →
      r.decode (.obj members) = r.decode (.obj members')
  /-- Null may be left out. -/
  absence : ∀ key ∈ options, ∀ members : List (String × Json),
    (Json.obj members).get? key = some .null →
      r.decode (.obj (members.filter (·.1 != key))) = r.decode (.obj members)

theorem keepsValues_of_read {encode : α → Json} {decode : Json → Except DecodeError α}
    (h : ∀ x, decode (encode x) = .ok x) : KeepsValues encode decode := ⟨h, fun _ x _ => h x⟩

namespace Record

variable {r : Record α}

theorem Lawful.keepsValues (h : r.Lawful) : KeepsValues r.encode r.decode :=
  keepsValues_of_read h.decode_encode

theorem Lawful.agrees (h : r.Lawful) {options : List String}
    (hnull : ∀ key ∈ options, r.fields.NullIsAbsence key) :
    r.Agrees r.fields.names options := by
  refine ⟨fun items => h.decode_arr_iff, ?_, ?_⟩
  · intro members members' heq
    have hknown : ∀ name ∈ r.fields.names, r.fields.names.contains name = true := by simp
    rw [decode_obj, decode_obj, ← Fields.ofMembers_filter hknown, heq,
      Fields.ofMembers_filter hknown]
  · intro key hkey members hmember
    rw [decode_obj, decode_obj, Fields.ofMembers_without (hnull key hkey) hmember]

end Record

namespace Field

theorem sound_uuid (name : String) : (uuid name).Sound := by
  apply sound_required
  intro u
  rw [readUuid, Uuid.parse?_text]

end Field

end Codec

open Codec Field

/-! ## The records -/

theorem BridgeConfig.lawful : BridgeConfig.record.Lawful where
  names := by decide
  sound := ⟨sound_text _, sound_text _, sound_text _, sound_optional, trivial⟩
  pack_unpack _ := rfl

theorem BridgeConfig.nullIsAbsence : BridgeConfig.record.fields.NullIsAbsence "swVersion" :=
  ⟨fun h => absurd h (by decide), fun h => absurd h (by decide), fun h => absurd h (by decide),
    fun _ => nullIsAbsence_optional _ _, trivial⟩

theorem Group.lawful : Group.record.Lawful where
  names := by decide
  sound := ⟨sound_text _, sound_text _, sound_texts _, trivial⟩
  pack_unpack _ := rfl

theorem Scene.lawful : Scene.record.Lawful where
  names := by decide
  sound := ⟨sound_text _, sound_text _, sound_texts _, trivial⟩
  pack_unpack _ := rfl

theorem Registration.lawful : Registration.record.Lawful where
  names := by decide
  sound := ⟨sound_text _, sound_text _, sound_text _, trivial⟩
  pack_unpack _ := rfl

theorem Options.lawful : Options.record.Lawful where
  names := by decide
  sound := ⟨sound_flag _ _, sound_flag _ _, trivial⟩
  pack_unpack _ := rfl

theorem SceneCall.lawful : SceneCall.record.Lawful where
  names := by decide
  sound := ⟨sound_text _, sound_text _, trivial⟩
  pack_unpack _ := rfl

namespace Pairing

theorem FlowSource.decode_encode (source : FlowSource) : decode (encode source) = .ok source := by
  cases source <;> decide

theorem FlowContext.lawful : FlowContext.record.Lawful where
  names := by decide
  sound := ⟨sound_uuid _, sound_required FlowSource.decode_encode, sound_omitted _,
    sound_omitted _, trivial⟩
  pack_unpack _ := rfl

theorem FlowContext.nullIsAbsence {key : String} (h : key ∈ ["host", "unique_id"]) :
    FlowContext.record.fields.NullIsAbsence key := by
  have hid : "flow_id" ≠ key := by
    rintro rfl
    exact absurd h (by decide)
  have hsource : "source" ≠ key := by
    rintro rfl
    exact absurd h (by decide)
  exact ⟨fun heq => absurd heq hid, fun heq => absurd heq hsource,
    fun _ => nullIsAbsence_omitted _, fun _ => nullIsAbsence_omitted _, trivial⟩

theorem DiscoveredBridge.lawful : DiscoveredBridge.record.Lawful where
  names := by decide
  sound := ⟨sound_text _, sound_text _, trivial⟩
  pack_unpack _ := rfl

theorem HostSelection.lawful : HostSelection.record.Lawful where
  names := by decide
  sound := ⟨sound_text _, trivial⟩
  pack_unpack _ := rfl

theorem SsdpInfo.lawful : SsdpInfo.record.Lawful where
  names := by decide
  sound := ⟨sound_text _, sound_text _, sound_optional, sound_text _, trivial⟩
  pack_unpack _ := rfl

theorem SsdpInfo.nullIsAbsence : SsdpInfo.record.fields.NullIsAbsence "name" :=
  ⟨fun h => absurd h (by decide), fun h => absurd h (by decide),
    fun _ => nullIsAbsence_optional _ _, fun h => absurd h (by decide), trivial⟩

theorem HomekitInfo.lawful : HomekitInfo.record.Lawful where
  names := by decide
  sound := ⟨sound_text _, sound_text _, trivial⟩
  pack_unpack _ := rfl

theorem ImportInfo.lawful : ImportInfo.record.Lawful where
  names := by decide
  sound := ⟨sound_text _, sound_optional, trivial⟩
  pack_unpack _ := rfl

theorem ImportInfo.nullIsAbsence : ImportInfo.record.fields.NullIsAbsence "path" :=
  ⟨fun h => absurd h (by decide), fun _ => nullIsAbsence_optional _ _, trivial⟩

end Pairing

open Pairing

/-- What bridges send and hosts store is read as it was written. A record may as well be written as
an array of its values in the order of its fields; what is written under other names does not count,
and null counts as nothing where it may stand at all. Identifiers are written in lower case and are
read in any. -/
theorem records_keep_their_values :
    (KeepsValues BridgeConfig.record.encode BridgeConfig.record.decode ∧
      KeepsValues Group.record.encode Group.record.decode ∧
      KeepsValues Scene.record.encode Scene.record.decode ∧
      KeepsValues Options.record.encode Options.record.decode ∧
      KeepsValues Registration.record.encode Registration.record.decode ∧
      KeepsValues DiscoveredBridge.record.encode DiscoveredBridge.record.decode ∧
      KeepsValues FlowSource.encode FlowSource.decode ∧
      KeepsValues FlowContext.record.encode FlowContext.record.decode) ∧
    (BridgeConfig.record.Agrees ["name", "modelid", "bridgeid", "swVersion"] ["swVersion"] ∧
      Group.record.Agrees ["id", "name", "lights"] [] ∧
      Scene.record.Agrees ["id", "name", "lights"] [] ∧
      Options.record.Agrees ["allow_unreachable", "allow_groups"] [] ∧
      Registration.record.Agrees ["host", "bridge_id", "username"] [] ∧
      DiscoveredBridge.record.Agrees ["host", "id"] [] ∧
      FlowContext.record.Agrees ["flow_id", "source", "host", "unique_id"] ["host", "unique_id"] ∧
      HostSelection.record.Agrees ["host"] [] ∧
      SsdpInfo.record.Agrees ["host", "manufacturer_url", "name", "serial"] ["name"] ∧
      HomekitInfo.record.Agrees ["host", "id"] [] ∧
      ImportInfo.record.Agrees ["host", "path"] ["path"] ∧
      SceneCall.record.Agrees ["group_name", "scene_name"] []) ∧
    ∀ (u : Uuid) (s : String), s.toList.map Char.toLower = u.text.toList →
      Uuid.parse? s = some u := by
  have hnothing : ∀ {ρ : Type} (fs : Fields ρ), ∀ key ∈ ([] : List String), fs.NullIsAbsence key :=
    fun _ _ h => absurd h List.not_mem_nil
  refine ⟨⟨?_, ?_, ?_, ?_, ?_, ?_, ?_, ?_⟩, ⟨?_, ?_, ?_, ?_, ?_, ?_, ?_, ?_, ?_, ?_, ?_, ?_⟩, ?_⟩
  · exact BridgeConfig.lawful.keepsValues
  · exact Group.lawful.keepsValues
  · exact Scene.lawful.keepsValues
  · exact Options.lawful.keepsValues
  · exact Registration.lawful.keepsValues
  · exact DiscoveredBridge.lawful.keepsValues
  · exact keepsValues_of_read FlowSource.decode_encode
  · exact FlowContext.lawful.keepsValues
  · exact BridgeConfig.lawful.agrees (by simpa using BridgeConfig.nullIsAbsence)
  · exact Group.lawful.agrees (hnothing _)
  · exact Scene.lawful.agrees (hnothing _)
  · exact Options.lawful.agrees (hnothing _)
  · exact Registration.lawful.agrees (hnothing _)
  · exact DiscoveredBridge.lawful.agrees (hnothing _)
  · exact FlowContext.lawful.agrees fun _ => FlowContext.nullIsAbsence
  · exact HostSelection.lawful.agrees (hnothing _)
  · exact SsdpInfo.lawful.agrees (by simpa using SsdpInfo.nullIsAbsence)
  · exact HomekitInfo.lawful.agrees (hnothing _)
  · exact ImportInfo.lawful.agrees (by simpa using ImportInfo.nullIsAbsence)
  · exact SceneCall.lawful.agrees (hnothing _)
  · exact fun u _ => u.parse?_of_toLower

/-- A nameless announcement, as an array and as an object that says more than it has to. -/
theorem records_keep_their_values_in_an_announcement :
    SsdpInfo.record.decode (.arr [.str "192.168.1.2", .str "http://www.philips.com", .null,
      .str "001788FFFE23AF15"]) =
      .ok ⟨"192.168.1.2", "http://www.philips.com", none, "001788FFFE23AF15"⟩ ∧
    SsdpInfo.record.decode (.obj [("serial", .str "001788FFFE23AF15"), ("port", .int 80),
      ("manufacturer_url", .str "http://www.philips.com"), ("name", .null),
      ("host", .str "192.168.1.2")]) =
      .ok ⟨"192.168.1.2", "http://www.philips.com", none, "001788FFFE23AF15"⟩ := by
  obtain ⟨_, ⟨_, _, _, _, _, _, _, _, hssdp, _⟩, _⟩ := records_keep_their_values
  have hfull : SsdpInfo.record.decode (.obj [("host", .str "192.168.1.2"),
      ("manufacturer_url", .str "http://www.philips.com"), ("name", .null),
      ("serial", .str "001788FFFE23AF15")]) =
      .ok ⟨"192.168.1.2", "http://www.philips.com", none, "001788FFFE23AF15"⟩ := by
    decide +kernel
  have hknown : SsdpInfo.record.decode (.obj [("serial", .str "001788FFFE23AF15"),
      ("manufacturer_url", .str "http://www.philips.com"), ("host", .str "192.168.1.2")]) =
      .ok ⟨"192.168.1.2", "http://www.philips.com", none, "001788FFFE23AF15"⟩ := by
    decide +kernel
  refine ⟨(hssdp.array _ rfl _).mpr hfull, ?_⟩
  rw [← hssdp.absence "name" (by decide) _ rfl]
  exact (hssdp.others _ _ rfl).trans hknown

end HueLink
