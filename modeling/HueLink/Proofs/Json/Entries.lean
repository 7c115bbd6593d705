-- What an object holds of the members it was written with: each key once, with the value written
-- last for it, in the order of the keys.
import HueLink.Json.Basic
import Mathlib.Data.List.Induction

namespace HueLink.Json

variable {β : Type} {members held : List (String × β)}

/-- Each key stands once, and the keys stand in order. -/
def Ordered (held : List (String × β)) : Prop := held.Pairwise fun a b => a.1 < b.1

theorem lookup_cons (m : String × β) (k : String) :
    (m :: held).lookup k = if k = m.1 then some m.2 else held.lookup k := by
  by_cases h : k = m.1
  · subst h
    rw [if_pos rfl]
    exact List.lookup_cons_self
  · rw [if_neg h, List.lookup_cons, beq_false_of_ne h]

/-! ## One more member -/

theorem put_nil (key : String) (value : β) : put key value [] = [(key, value)] := rfl

theorem put_cons (key : String) (value : β) (m : String × β) (rest : List (String × β)) :
    put key value (m :: rest) =
      if key < m.1 then (key, value) :: m :: rest
      else if key = m.1 then (key, value) :: rest
      else m :: put key value rest := rfl

theorem mem_put {key : String} {value : β} {m : String × β} (h : m ∈ put key value held) :
    m = (key, value) ∨ m ∈ held := by
  induction held with
  | nil => simpa [put_nil] using h
  | cons head rest ih =>
    rw [put_cons] at h
    split at h
    · simpa using h
    · split at h
      · rcases List.mem_cons.mp h with heq | hrest
        · exact Or.inl heq
        · exact Or.inr (List.mem_cons_of_mem _ hrest)
      · rcases List.mem_cons.mp h with heq | hrest
        · exact Or.inr (heq ▸ List.mem_cons_self)
        · rcases ih hrest with heq | hmem
          · exact Or.inl heq
          · exact Or.inr (List.mem_cons_of_mem _ hmem)

theorem ordered_put (key : String) (value : β) (h : Ordered held) :
    Ordered (put key value held) := by
  induction held with
  | nil => simp [put_nil, Ordered]
  | cons head rest ih =>
    obtain ⟨hhead, hrest⟩ := List.pairwise_cons.mp h
    rw [put_cons]
    split
    · rename_i hlt
      refine List.pairwise_cons.mpr ⟨?_, h⟩
      intro m hm
      rcases List.mem_cons.mp hm with rfl | hm
      · exact hlt
      · exact String.lt_trans hlt (hhead m hm)
    · rename_i hge
      by_cases heq : key = head.1
      · rw [if_pos heq]
        refine List.pairwise_cons.mpr ⟨?_, hrest⟩
        intro m hm
        exact heq ▸ hhead m hm
      · rw [if_neg heq]
        refine List.pairwise_cons.mpr ⟨?_, ih hrest⟩
        intro m hm
        rcases mem_put hm with rfl | hm
        · -- Keys are compared all or none, so what is not below and not equal is above.
          have hle : head.1 ≤ key := String.not_lt.mp hge
          exact String.not_le.mp fun hge' => heq (String.le_antisymm hge' hle)
        · exact hhead m hm

theorem lookup_put (key k : String) (value : β) :
    (put key value held).lookup k = if k = key then some value else held.lookup k := by
  induction held with
  | nil => exact lookup_cons (key, value) k
  | cons head rest ih =>
    rw [put_cons]
    split
    · exact lookup_cons (key, value) k
    · split
      · rename_i heq
        subst heq
        rw [lookup_cons, lookup_cons]
        by_cases h : k = head.1 <;> simp [h]
      · rename_i hne
        rw [lookup_cons, lookup_cons, ih]
        by_cases hk : k = head.1
        · have hother : k ≠ key := fun h => hne (h ▸ hk)
          rw [if_pos hk, if_neg hother, if_pos hk]
        · rw [if_neg hk, if_neg hk]

/-- A key below all others comes first. -/
theorem put_of_lt {key : String} {value : β} (h : ∀ m ∈ held, key < m.1) :
    put key value held = (key, value) :: held := by
  cases held with
  | nil => rfl
  | cons head rest => rw [put_cons, if_pos (h head List.mem_cons_self)]

theorem filter_put {known : String → Bool} (key : String) (value : β) (h : Ordered held) :
    (put key value held).filter (fun m => known m.1) =
      if known key then put key value (held.filter fun m => known m.1)
      else held.filter fun m => known m.1 := by
  induction held with
  | nil => cases hkey : known key <;> simp [put_nil, hkey]
  | cons head rest ih =>
    obtain ⟨hhead, hrest⟩ := List.pairwise_cons.mp h
    rw [put_cons]
    split
    · rename_i hlt
      cases hkey : known key with
      | false => simp [hkey]
      | true =>
        rw [List.filter_cons_of_pos (by exact hkey), if_pos rfl, put_of_lt]
        intro m hm
        rcases List.mem_cons.mp (List.mem_filter.mp hm).1 with rfl | hm
        · exact hlt
        · exact String.lt_trans hlt (hhead m hm)
    · rename_i hge
      split
      · rename_i heq
        subst heq
        cases hkey : known head.1 with
        | false => simp [hkey]
        | true => simp only [List.filter_cons, hkey, put_cons, hge, if_true, if_false]
      · rename_i hne
        cases hknown : known head.1 with
        | false => simp [hknown, ih hrest]
        | true =>
          rw [List.filter_cons_of_pos (by exact hknown), List.filter_cons_of_pos (by exact hknown),
            ih hrest]
          cases hkey : known key with
          | false => simp
          | true => simp [put_cons, hge, hne]

/-! ## All members -/

theorem entries_concat (members : List (String × β)) (m : String × β) :
    entries (members ++ [m]) = put m.1 m.2 (entries members) := by
  simp [entries, List.foldl_append]

theorem ordered_entries (members : List (String × β)) : Ordered (entries members) := by
  induction members using List.reverseRecOn with
  | nil => exact List.Pairwise.nil
  | append_singleton members m ih =>
    rw [entries_concat]
    exact ordered_put m.1 m.2 ih

/-- The value of a key is the one written last. -/
theorem lookup_entries (members : List (String × β)) (k : String) :
    (entries members).lookup k = members.reverse.lookup k := by
  induction members using List.reverseRecOn with
  | nil => rfl
  | append_singleton members m ih =>
    rw [entries_concat, lookup_put, List.reverse_append, ih]
    exact (lookup_cons m k).symm

/-- Members that are left out leave the others as they are. -/
theorem entries_filter (known : String → Bool) (members : List (String × β)) :
    entries (members.filter fun m => known m.1) =
      (entries members).filter fun m => known m.1 := by
  induction members using List.reverseRecOn with
  | nil => rfl
  | append_singleton members m ih =>
    rw [entries_concat, filter_put m.1 m.2 (ordered_entries members), List.filter_append, ← ih]
    cases hm : known m.1 with
    | false => simp [hm]
    | true => simp [hm, entries_concat]

/-! ## Looking up -/

theorem lookup_eq_none {k : String} (h : k ∉ members.map Prod.fst) : members.lookup k = none := by
  rw [List.lookup_eq_none_iff]
  intro m hm
  rw [bne_iff_ne]
  rintro rfl
  exact h (List.mem_map_of_mem hm)

theorem lookup_filter {known : String → Bool} {k : String} (h : known k = true) :
    (members.filter fun m => known m.1).lookup k = members.lookup k := by
  induction members with
  | nil => rfl
  | cons m rest ih =>
    by_cases hk : k = m.1
    · subst hk
      simp [h, lookup_cons]
    · cases hm : known m.1 <;> simp [hm, lookup_cons, hk, ih]

theorem lookup_filter_ne (k : String) : (members.filter (·.1 != k)).lookup k = none := by
  apply lookup_eq_none
  simp

theorem lookup_reverse (h : (members.map Prod.fst).Nodup) (k : String) :
    members.reverse.lookup k = members.lookup k := by
  induction members with
  | nil => rfl
  | cons m rest ih =>
    obtain ⟨hnot, hrest⟩ := List.nodup_cons.mp h
    rw [List.reverse_cons, List.lookup_append, ih hrest]
    by_cases hk : k = m.1
    · subst hk
      simp [lookup_eq_none hnot, lookup_cons]
    · simp [lookup_cons, hk]

/-- Where no key is written twice, the value of a key is the one written for it. -/
theorem lookup_entries_of_nodup (h : (members.map Prod.fst).Nodup) (k : String) :
    (entries members).lookup k = members.lookup k := by
  rw [lookup_entries, lookup_reverse h]

theorem lookup_of_mem {k : String} {value : β} (h : Ordered held) (hmem : (k, value) ∈ held) :
    held.lookup k = some value := by
  induction held with
  | nil => exact nomatch hmem
  | cons m rest ih =>
    obtain ⟨hhead, hrest⟩ := List.pairwise_cons.mp h
    rcases List.mem_cons.mp hmem with heq | hmem
    · subst heq
      exact List.lookup_cons_self
    · have hne : k ≠ m.1 := by
        rintro rfl
        exact String.lt_irrefl m.1 (hhead (m.1, value) hmem)
      simp [lookup_cons, hne, ih hrest hmem]

end HueLink.Json
