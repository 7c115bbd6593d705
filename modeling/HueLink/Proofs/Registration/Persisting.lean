-- An entry persisted to the letter: what it replaces is dropped, and its record is added whether or
-- not an equal one is there. In a tidy store that goes wrong in one case only. A record that is
-- stored already is not replaced, so it then stands twice.
import HueLink.Proofs.Registration.Store

namespace HueLink

open Pairing

namespace Registration

/-- The records have neither the host nor the bridge in common. -/
def Unrelated (r other : Registration) : Prop :=
  r.host ≠ other.host ∧ r.bridgeId ≠ other.bridgeId

instance (r other : Registration) : Decidable (r.Unrelated other) :=
  inferInstanceAs (Decidable (_ ∧ _))

theorem not_conflicts_iff (r other : Registration) :
    ¬ r.Conflicts other ↔ r = other ∨ r.Unrelated other := by
  unfold Conflicts Unrelated
  rw [not_and_or, not_not, not_or]

/-- Records that have this in common cannot stand side by side. -/
def Tells (key : Registration → String) : Prop :=
  ∀ a b : Registration, key a = key b → a ≠ b → a.Conflicts b

theorem tells_host : Tells host := fun _ _ hkey hne => ⟨hne, Or.inl hkey⟩

theorem tells_bridgeId : Tells bridgeId := fun _ _ hkey hne => ⟨hne, Or.inr hkey⟩

end Registration

open Registration

variable {store : List Registration} {e : Entry} {r : Registration} {key : Registration → String}

/-! ## Keys in a tidy store -/

theorem Tidy.eq_of_key (h : Tidy store) (hkey : Tells key) {a b : Registration} (ha : a ∈ store)
    (hb : b ∈ store) (hab : key a = key b) : a = b := by
  by_contra hne
  exact h.free a ha b hb (hkey a b hab hne)

theorem Tidy.nodup_keys (h : Tidy store) (hkey : Tells key) : (store.map key).Nodup :=
  h.nodup.map_on fun _ ha _ hb => h.eq_of_key hkey ha hb

/-- The record that a store has for a key, if there is one. -/
def holderOf (key : Registration → String) (k : String) (store : List Registration) :
    List Registration := (store.find? (key · == k)).toList

theorem length_holderOf_le (k : String) : (holderOf key k store).length ≤ 1 := by
  unfold holderOf
  cases store.find? (key · == k) <;> simp

theorem Tidy.mem_holderOf (h : Tidy store) (hkey : Tells key) {a : Registration} (ha : a ∈ store) :
    a ∈ holderOf key (key a) store := by
  unfold holderOf
  cases hfind : store.find? (key · == key a) with
  | none => simpa using List.find?_eq_none.mp hfind a ha
  | some b =>
    have hb : key b = key a := by simpa using List.find?_some hfind
    have hba : b = a := h.eq_of_key hkey (List.mem_of_find?_eq_some hfind) ha hb
    simp [hba]

/-! ## What is replaced -/

/-- A record displaces at most the one of its host and the one of its bridge. -/
theorem Tidy.length_displaced_le (h : Tidy store) (r : Registration) :
    (r.displaced store).length ≤ 2 := by
  let holders := holderOf host r.host store ++ holderOf bridgeId r.bridgeId store
  have hsubset : r.displaced store ⊆ holders := by
    intro a ha
    obtain ⟨hmem, -, hkey⟩ := mem_displaced.mp ha
    rcases hkey with hhost | hbridge
    · rw [List.mem_append, hhost]
      exact Or.inl (h.mem_holderOf tells_host hmem)
    · rw [List.mem_append, hbridge]
      exact Or.inr (h.mem_holderOf tells_bridgeId hmem)
  have hnodup : (r.displaced store).Nodup := h.nodup.filter _
  calc (r.displaced store).length ≤ holders.length :=
        (List.subperm_of_subset hnodup hsubset).length_le
    _ = (holderOf host r.host store).length + (holderOf bridgeId r.bridgeId store).length :=
        List.length_append
    _ ≤ 1 + 1 := Nat.add_le_add (length_holderOf_le _) (length_holderOf_le _)

theorem not_mem_displaced (r : Registration) (store : List Registration) :
    r ∉ r.displaced store := by
  intro hmem
  obtain ⟨-, hne, -⟩ := mem_displaced.mp hmem
  exact hne rfl

/-- What stays when all that a record displaces is dropped. -/
theorem kept_eq (h : e.replaces = e.registration.displaced store) :
    e.kept store =
      store.filter fun old => old = e.registration ∨ e.registration.Unrelated old := by
  apply List.filter_congr
  intro old hold
  have hstays : old ∉ e.replaces ↔ old = e.registration ∨ e.registration.Unrelated old := by
    rw [h, mem_displaced, not_and, imp_iff_right hold, not_conflicts_iff, eq_comm]
  rw [Bool.eq_iff_iff]
  simpa using hstays

/-! ## What is stored -/

/-- Adding a record to what is kept repeats no key, unless the record is kept itself. -/
theorem nodup_keys_persist_iff (ht : Tidy store) (h : e.replaces = e.registration.displaced store)
    (hkey : Tells key) : ((e.registration.persist e.replaces store).map key).Nodup ↔
      e.registration ∉ store := by
  have hkept : e.registration ∈ e.kept store ↔ e.registration ∈ store := by
    rw [mem_kept, h]
    exact and_iff_left (not_mem_displaced _ _)
  constructor
  · intro hnodup hmem
    have htwice : (e.kept store ++ [e.registration]).Nodup := List.Nodup.of_map key hnodup
    exact List.disjoint_of_nodup_append htwice (hkept.mpr hmem) List.mem_cons_self
  · intro hnew
    have htidy : Tidy (e.persistIn store) := tidy_persistIn ht fun a ha hconflict => by
      rw [h, mem_displaced]
      exact ⟨ha, hconflict.symm⟩
    unfold Entry.persistIn at htidy
    rw [if_neg (mt hkept.mp hnew)] at htidy
    exact htidy.nodup_keys hkey

/-- A flow that completes on a tidy store replaces at most two records, none of them equal to its
own. Dropping those keeps, in their order, exactly the records with another host and another bridge,
and an equal one. Adding the record then leaves no host and no bridge twice, exactly if it was not
stored before. -/
theorem a_literal_persist_repeats_only_what_was_stored (store : List Registration)
    (ht : Tidy store) (e : Entry) (h : Completes store e) :
    (e.replaces.length ≤ 2 ∧ e.registration ∉ e.replaces) ∧
    (((e.registration.persist e.replaces store).map (·.host)).Nodup ∧
      ((e.registration.persist e.replaces store).map (·.bridgeId)).Nodup ↔
        e.registration ∉ store) ∧
    e.registration.persist e.replaces store =
      (store.filter fun old => old = e.registration ∨ e.registration.Unrelated old) ++
        [e.registration] := by
  have hreplaces := h.replaces_eq
  refine ⟨⟨?_, ?_⟩, ?_, ?_⟩
  · rw [hreplaces]
    exact ht.length_displaced_le _
  · rw [hreplaces]
    exact not_mem_displaced _ _
  · rw [nodup_keys_persist_iff ht hreplaces tells_host,
      nodup_keys_persist_iff ht hreplaces tells_bridgeId, and_self]
  · rw [← kept_eq hreplaces]
    rfl

/-! ## A bridge that is paired again -/

/-- The bridge gives out the username that is stored already. -/
def repeatedEntry : Entry := ⟨"Philips hue", movedBridge, []⟩

theorem completes_repeated : Completes storeAfterMove repeatedEntry :=
  ⟨_, movedBridge.granted, _, _, .link false, 0, (Flow.remembering "192.168.1.2", storeAfterMove),
    showsStore_granted _, by cbv, by cbv⟩

theorem a_literal_persist_repeats_only_what_was_stored_at_a_second_pairing :
    (Tidy storeAfterMove ∧ Completes storeAfterMove repeatedEntry) ∧
    movedBridge.persist [] storeAfterMove = [movedBridge, otherBridge, movedBridge] ∧
    ¬ (((movedBridge.persist [] storeAfterMove).map (·.host)).Nodup ∧
      ((movedBridge.persist [] storeAfterMove).map (·.bridgeId)).Nodup) := by
  have ht : Tidy storeAfterMove := ⟨by decide, by decide⟩
  obtain ⟨-, hrepeats, hstored⟩ :=
    a_literal_persist_repeats_only_what_was_stored _ ht _ completes_repeated
  have hkept : (storeAfterMove.filter fun old =>
      old = movedBridge ∨ movedBridge.Unrelated old) = storeAfterMove := by decide
  refine ⟨⟨ht, completes_repeated⟩, ?_, ?_⟩
  · exact hstored.trans (congrArg (· ++ [movedBridge]) hkept)
  · exact fun hkeys => hrepeats.mp hkeys (by decide)

end HueLink
