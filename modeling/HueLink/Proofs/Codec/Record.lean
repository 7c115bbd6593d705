-- The laws of records as JSON. A record whose fields read what they write is read back as it was
-- written. An array says the same as the object with its items under the names of the fields.
-- Members under other names do not count, and where a field may be null, null says the same as
-- nothing.
import HueLink.Codec.Record
import HueLink.Proofs.Json.Entries

namespace HueLink.Codec

variable {α ρ : Type}

/-! ## Fields -/

namespace Field

/-- What is written of a value reads as that value, and so does leaving it out. -/
structure Sound (f : Field α) : Prop where
  written : ∀ a v, f.write a = some v → f.read v = .ok a
  unwritten : ∀ a, f.write a = none → f.whenMissing = some a

/-- Null and no value at all read alike. -/
def NullIsAbsence (f : Field α) : Prop := ∃ a, f.read .null = .ok a ∧ f.whenMissing = some a

/-- The value of the field in what an object holds. -/
def take (held : List (String × Json)) (f : Field α) : Except DecodeError α :=
  match held.lookup f.name with
  | some value => f.read value
  | none =>
    match f.whenMissing with
    | some a => .ok a
    | none => .error (.missingField f.name)

end Field

namespace Fields

/-- The names of the fields in order. -/
def names {ρ : Type} : Fields ρ → List String
  | none => []
  | field f rest => f.name :: rest.names

def Sound {ρ : Type} : Fields ρ → Prop
  | none => True
  | field f rest => f.Sound ∧ rest.Sound

/-- For every field of that name, null and no value at all read alike. -/
def NullIsAbsence {ρ : Type} (key : String) : Fields ρ → Prop
  | none => True
  | field f rest => (f.name = key → f.NullIsAbsence) ∧ rest.NullIsAbsence key

variable {fs : Fields ρ} {held held' members : List (String × Json)} {a : ρ}

theorem length_names (fs : Fields ρ) : fs.names.length = fs.count := by
  induction fs with
  | none => rfl
  | field f rest ih => simp [names, count, ih]

theorem assemble_field {β : Type} (f : Field α) (rest : Fields β) :
    (field f rest).assemble held =
      (f.take held).bind fun a => (rest.assemble held).bind fun b => .ok (a, b) := by
  rw [assemble, Field.take]
  cases held.lookup f.name with
  | some value => rfl
  | none => cases f.whenMissing <;> rfl

theorem assemble_field_eq_ok_iff {β : Type} {f : Field α} {rest : Fields β} {x : α} {b : β} :
    (field f rest).assemble held = .ok (x, b) ↔
      f.take held = .ok x ∧ rest.assemble held = .ok b := by
  rw [assemble_field]
  cases f.take held with
  | error e => simp [Except.bind]
  | ok x' => cases rest.assemble held <;> simp [Except.bind]

/-! ## What counts of an object -/

/-- Only the values of the fields count. -/
theorem assemble_congr (h : ∀ name ∈ fs.names, held.lookup name = held'.lookup name) :
    fs.assemble held = fs.assemble held' := by
  induction fs with
  | none => rfl
  | field f rest ih =>
    have hfirst : f.take held = f.take held' := by
      simp [Field.take, h f.name List.mem_cons_self]
    have hrest := ih fun name hname => h name (List.mem_cons_of_mem _ hname)
    rw [assemble_field, assemble_field, hfirst, hrest]

/-- Where a member has a fault, there is no record. -/
theorem assemble_of_fault {key : String} {value : Json} {e : DecodeError}
    (hlookup : held.lookup key = some value) (hfault : fs.fault? key value = some e) :
    fs.assemble held ≠ .ok a := by
  induction fs with
  | none => exact nomatch hfault
  | field f rest ih =>
    intro hok
    rw [assemble_field] at hok
    cases hfirst : f.take held with
    | error e => simp [hfirst, Except.bind] at hok
    | ok x =>
      simp only [hfirst, Except.bind] at hok
      by_cases hname : f.name = key
      · -- The value that the fault is about is the one that the field takes.
        subst hname
        simp [Field.take, hlookup] at hfirst
        simp [fault?, hfirst] at hfault
      · simp only [fault?, if_neg hname] at hfault
        cases hrest : rest.assemble held with
        | error e => simp [hrest] at hok
        | ok b => exact ih hfault hrest

/-- Faults are only told first: the members of an object make a record if the fields find their
values in it. -/
theorem ofMembers_eq_ok_iff :
    fs.ofMembers members = .ok a ↔ fs.assemble (Json.entries members) = .ok a := by
  unfold ofMembers
  dsimp only
  split
  · rename_i e hfault
    obtain ⟨m, hm, hm'⟩ := List.exists_of_findSome?_eq_some hfault
    have hlookup := Json.lookup_of_mem (Json.ordered_entries members) hm
    constructor
    · exact fun h => nomatch h
    · exact fun h => absurd h (assemble_of_fault hlookup hm')
  · exact Iff.rfl

/-- Members with nothing wrong may be left out where a fault is looked for. -/
theorem findSome_fault_filter {keep : String × Json → Bool}
    (h : ∀ m ∈ held, keep m = false → fs.fault? m.1 m.2 = Option.none) :
    (held.filter keep).findSome? (fun m => fs.fault? m.1 m.2) =
      held.findSome? fun m => fs.fault? m.1 m.2 := by
  induction held with
  | nil => rfl
  | cons m rest ih =>
    have hrest := ih fun m' hm' => h m' (List.mem_cons_of_mem _ hm')
    cases hm : keep m with
    | true => simp [hm, List.findSome?_cons, hrest]
    | false => simp [hm, hrest, h m List.mem_cons_self hm]

theorem fault_of_other {key : String} (h : key ∉ fs.names) (value : Json) :
    fs.fault? key value = Option.none := by
  induction fs with
  | none => rfl
  | field f rest ih =>
    obtain ⟨hne, hrest⟩ := not_or.mp (mt List.mem_cons.mpr h)
    rw [fault?, if_neg (Ne.symm hne), ih hrest]

/-- Members under other names do not count. -/
theorem ofMembers_filter {known : String → Bool} (h : ∀ name ∈ fs.names, known name = true) :
    fs.ofMembers (members.filter fun m => known m.1) = fs.ofMembers members := by
  unfold ofMembers
  dsimp only
  have hfaults : ∀ m ∈ Json.entries members, known m.1 = false →
      fs.fault? m.1 m.2 = Option.none := by
    intro m _ hm
    apply fault_of_other
    intro hname
    simp [h m.1 hname] at hm
  have hlookups : ∀ name ∈ fs.names,
      ((Json.entries members).filter fun m => known m.1).lookup name =
        (Json.entries members).lookup name := fun name hname => Json.lookup_filter (h name hname)
  rw [Json.entries_filter, findSome_fault_filter hfaults, assemble_congr hlookups]

theorem fault_of_null {key : String} (h : fs.NullIsAbsence key) :
    fs.fault? key .null = Option.none := by
  induction fs with
  | none => rfl
  | field f rest ih =>
    rw [fault?]
    split
    · rename_i hname
      obtain ⟨x, hread, _⟩ := h.1 hname
      rw [hread]
    · exact ih h.2

theorem assemble_without {key : String} (h : fs.NullIsAbsence key)
    (hnull : held.lookup key = some .null) :
    fs.assemble (held.filter (·.1 != key)) = fs.assemble held := by
  induction fs with
  | none => rfl
  | field f rest ih =>
    have hfirst : f.take (held.filter (·.1 != key)) = f.take held := by
      by_cases hname : f.name = key
      · obtain ⟨x, hread, hmissing⟩ := h.1 hname
        simp [Field.take, hname, Json.lookup_filter_ne, hnull, hread, hmissing]
      · have hkept : (held.filter (·.1 != key)).lookup f.name = held.lookup f.name :=
          @Json.lookup_filter _ _ (· != key) _ (by simpa using hname)
        simp [Field.take, hkept]
    rw [assemble_field, assemble_field, hfirst, ih h.2]

/-- A member that is null may be left out, where null and no value at all read alike. -/
theorem ofMembers_without {key : String} (h : fs.NullIsAbsence key)
    (hnull : (Json.entries members).lookup key = some .null) :
    fs.ofMembers (members.filter (·.1 != key)) = fs.ofMembers members := by
  unfold ofMembers
  dsimp only
  have hfaults : ∀ m ∈ Json.entries members, (m.1 != key) = false →
      fs.fault? m.1 m.2 = Option.none := by
    intro m hm hkey
    obtain rfl : m.1 = key := by simpa using hkey
    have hvalue := Json.lookup_of_mem (Json.ordered_entries members) hm
    rw [hnull] at hvalue
    obtain hvalue : Json.null = m.2 := Option.some.inj hvalue
    rw [← hvalue]
    exact fault_of_null h
  rw [Json.entries_filter (· != key), findSome_fault_filter hfaults, assemble_without h hnull]

/-! ## Arrays -/

/-- The items of an array that has one for each field are read as the values that an object holds
under the names of the fields. -/
theorem ofItems_eq (hnodup : fs.names.Nodup) {items : List Json} (hlength : items.length = fs.count)
    (hheld : ∀ name ∈ fs.names, held.lookup name = (fs.names.zip items).lookup name)
    (record : String) (total : Nat) : fs.ofItems record total items =
      (fs.assemble held).map fun a => (a, []) := by
  induction fs generalizing items with
  | none =>
    obtain rfl := List.length_eq_zero_iff.mp hlength
    rfl
  | field f rest ih =>
    obtain ⟨hfresh, hnodup⟩ := List.nodup_cons.mp hnodup
    cases items with
    | nil => exact nomatch hlength
    | cons item items =>
      have hitem := hheld f.name List.mem_cons_self
      rw [names, List.zip_cons_cons, Json.lookup_cons, if_pos rfl] at hitem
      have hfirst : f.take held = f.read item := by
        simp [Field.take, hitem]
      have hrest := ih hnodup (Nat.succ.inj hlength) fun name hname => by
        have hne : name ≠ f.name := fun h => hfresh (h ▸ hname)
        have hother := hheld name (List.mem_cons_of_mem _ hname)
        rwa [names, List.zip_cons_cons, Json.lookup_cons, if_neg hne] at hother
      rw [ofItems, hrest, assemble_field, hfirst]
      cases f.read item with
      | error e => rfl
      | ok x => cases rest.assemble held <;> rfl

/-- An array may not end before any of the fields. -/
def Complete {ρ : Type} : Fields ρ → Prop
  | none => True
  | field f rest => f.whenShort = Option.none ∧ rest.Complete

theorem length_of_ofItems (h : fs.Complete) {record : String} {total : Nat} {items left : List Json}
    (hok : fs.ofItems record total items = .ok (a, left)) :
    items.length = fs.count + left.length := by
  induction fs generalizing items left with
  | none =>
    cases hok
    exact (Nat.zero_add _).symm
  | field f rest ih =>
    cases items with
    | nil => simp [ofItems, h.1, bind, Except.bind] at hok
    | cons item items =>
      simp only [ofItems, bind, Except.bind] at hok
      split at hok
      · exact nomatch hok
      · split at hok
        · exact nomatch hok
        · rename_i hrest
          cases hok
          have hlength := ih h.2 hrest
          simp only [count, List.length_cons]
          omega

/-! ## What is written -/

theorem mem_names_of_members {m : String × Json} (h : m ∈ fs.members a) : m.1 ∈ fs.names := by
  induction fs with
  | none => exact nomatch h
  | field f rest ih =>
    simp only [members] at h
    split at h
    · rcases List.mem_cons.mp h with rfl | h
      · exact List.mem_cons_self
      · exact List.mem_cons_of_mem _ (ih h)
    · exact List.mem_cons_of_mem _ (ih h)

/-- What is no field is not written. -/
theorem not_written {name : String} (h : name ∉ fs.names) (a : ρ) :
    name ∉ (fs.members a).map Prod.fst := by
  intro hmem
  obtain ⟨m, hm, rfl⟩ := List.mem_map.mp hmem
  exact h (mem_names_of_members hm)

theorem nodup_members (h : fs.names.Nodup) (a : ρ) : ((fs.members a).map Prod.fst).Nodup := by
  induction fs with
  | none => exact List.nodup_nil
  | field f rest ih =>
    obtain ⟨hfresh, hrest⟩ := List.nodup_cons.mp h
    simp only [members]
    split
    · rw [List.map_cons, List.nodup_cons]
      exact ⟨not_written hfresh a.2, ih hrest a.2⟩
    · exact ih hrest a.2

/-- Fields that read what they write find their values where those were written. -/
theorem assemble_members (hnodup : fs.names.Nodup) (hsound : fs.Sound)
    (hheld : ∀ name ∈ fs.names, held.lookup name = (fs.members a).lookup name) :
    fs.assemble held = .ok a := by
  induction fs with
  | none => rfl
  | field f rest ih =>
    obtain ⟨hfresh, hnodup⟩ := List.nodup_cons.mp hnodup
    have hown := hheld f.name List.mem_cons_self
    have hfirst : f.take held = .ok a.1 := by
      cases hwrite : f.write a.1 with
      | some v =>
        rw [members, hwrite, Json.lookup_cons, if_pos rfl] at hown
        simp [Field.take, hown, hsound.1.written _ _ hwrite]
      | none =>
        rw [members, hwrite, Json.lookup_eq_none (not_written hfresh a.2)] at hown
        simp [Field.take, hown, hsound.1.unwritten _ hwrite]
    have hrest : rest.assemble held = .ok a.2 := by
      apply ih hnodup hsound.2
      intro name hname
      have hne : name ≠ f.name := fun h => hfresh (h ▸ hname)
      have hother := hheld name (List.mem_cons_of_mem _ hname)
      cases hwrite : f.write a.1 with
      | some v => rwa [members, hwrite, Json.lookup_cons, if_neg hne] at hother
      | none => rwa [members, hwrite] at hother
    rw [assemble_field, hfirst, hrest]
    rfl

end Fields

/-! ## Records -/

namespace Record

/-- The fields have names of their own and read what they write, and make up the record. -/
structure Lawful (r : Record α) : Prop where
  names : r.fields.names.Nodup
  sound : r.fields.Sound
  pack_unpack : ∀ a, r.pack (r.unpack a) = a

variable {r : Record α}

theorem decode_obj (members : List (String × Json)) :
    r.decode (.obj members) = r.pack <$> r.fields.ofMembers members := rfl

theorem Lawful.decode_encode (h : r.Lawful) (a : α) : r.decode (r.encode a) = .ok a := by
  have hread : r.fields.ofMembers (r.fields.members (r.unpack a)) = .ok (r.unpack a) := by
    rw [Fields.ofMembers_eq_ok_iff]
    apply Fields.assemble_members h.names h.sound
    intro name _
    exact Json.lookup_entries_of_nodup (Fields.nodup_members h.names _) name
  rw [encode, decode_obj, hread]
  exact congrArg Except.ok (h.pack_unpack a)

theorem map_pack_eq_ok_iff {x : Except DecodeError r.shape} {a : α} :
    r.pack <$> x = .ok a ↔ ∃ values, x = .ok values ∧ r.pack values = a := by
  cases x with
  | error e => simp [Functor.map, Except.map]
  | ok values => simp [Functor.map, Except.map]

/-- An array with an item for each field says the same as the object with those items. -/
theorem Lawful.decode_arr_iff (h : r.Lawful) {items : List Json}
    (hlength : items.length = r.fields.names.length) (a : α) :
    r.decode (.arr items) = .ok a ↔ r.decode (.obj (r.fields.names.zip items)) = .ok a := by
  let members := r.fields.names.zip items
  have hkeys : members.map Prod.fst = r.fields.names :=
    List.map_fst_zip (Nat.le_of_eq hlength.symm)
  have hitems : r.fields.ofItems r.name r.fields.count items =
      (r.fields.assemble (Json.entries members)).map fun values => (values, []) := by
    apply Fields.ofItems_eq h.names (hlength.trans (Fields.length_names _))
    intro name _
    exact Json.lookup_entries_of_nodup (hkeys ▸ h.names) name
  have harray : r.decode (.arr items) = r.pack <$> r.fields.assemble (Json.entries members) := by
    rw [decode, hitems]
    cases r.fields.assemble (Json.entries members) <;> rfl
  rw [harray, decode_obj, map_pack_eq_ok_iff, map_pack_eq_ok_iff]
  simp only [Fields.ofMembers_eq_ok_iff, members]

/-- An array is read only if it has an item for each field. -/
theorem length_of_decode_arr (h : r.fields.Complete) {items : List Json} {a : α}
    (hok : r.decode (.arr items) = .ok a) : items.length = r.fields.count := by
  unfold decode at hok
  cases hread : r.fields.ofItems r.name r.fields.count items with
  | error e => simp [hread, bind, Except.bind] at hok
  | ok read =>
    obtain ⟨values, left⟩ := read
    have hlength := Fields.length_of_ofItems h hread
    cases left with
    | nil => exact hlength
    | cons item left => simp [hread, bind, Except.bind] at hok

end Record

/-! ## Kinds of fields -/

namespace Field

theorem sound_required {name : String} {read : Json → Except DecodeError α} {write : α → Json}
    (h : ∀ a, read (write a) = .ok a) : (required name read write).Sound := by
  constructor
  · intro a v hv
    obtain rfl : write a = v := Option.some.inj hv
    exact h a
  · intro a ha
    exact nomatch ha

theorem readText_eq_ok_iff {expected : Expected} {value : Json} {s : String} :
    readText expected value = .ok s ↔ value = .str s := by
  cases value <;> simp [readText]

/-- A text that has to be there is the text that an object holds under its name. -/
theorem take_text_eq_ok_iff {name s : String} {held : List (String × Json)} :
    (text name).take held = .ok s ↔ held.lookup name = some (.str s) := by
  unfold take text required
  cases held.lookup name with
  | none => simp
  | some value => simp [readText_eq_ok_iff]

theorem sound_text (name : String) : (text name).Sound := sound_required fun _ => rfl

theorem readTexts_written (ss : List String) : readTexts (.arr (ss.map .str)) = .ok ss := by
  induction ss with
  | nil => rfl
  | cons s ss ih =>
    simp only [readTexts, List.map_cons, List.mapM_cons] at ih ⊢
    rw [ih]
    rfl

theorem sound_texts (name : String) : (texts name).Sound := sound_required readTexts_written

theorem sound_flag (name : String) (default : Bool) : (flag name default).Sound := by
  constructor
  · intro b v hv
    obtain rfl : Json.bool b = v := Option.some.inj hv
    rfl
  · intro b hb
    exact nomatch hb

theorem sound_optional {name : String} {expected : Expected} : (optional name expected).Sound := by
  constructor
  · intro s v hv
    obtain rfl : writeOption .str s = v := Option.some.inj hv
    cases s <;> rfl
  · intro s hs
    exact nomatch hs

theorem sound_omitted (name : String) : (omitted name).Sound := by
  constructor
  · intro s v hv
    cases s with
    | none => exact nomatch hv
    | some s =>
      obtain rfl : Json.str s = v := Option.some.inj hv
      rfl
  · intro s hs
    cases s with
    | none => rfl
    | some s => exact nomatch hs

theorem nullIsAbsence_optional (name : String) (expected : Expected) :
    (optional name expected).NullIsAbsence := ⟨none, rfl, rfl⟩

theorem nullIsAbsence_omitted (name : String) : (omitted name).NullIsAbsence := ⟨none, rfl, rfl⟩

end Field

end HueLink.Codec
