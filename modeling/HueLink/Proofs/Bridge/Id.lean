-- Laws of the normal form of a bridge id. Lengths and places count characters, of whatever
-- alphabet. An id of an expected length has two halves of six characters, and its normal form is
-- made of them.
import HueLink.Bridge.Id

namespace HueLink.BridgeId

/-- The first six characters. -/
def front (id : String) : List Char := id.toList.take 6

/-- The last six characters. -/
def back (id : String) : List Char := id.toList.drop (id.length - 6)

/-- A warning is written when the id is brought to its normal form. -/
def Warned (id : String) : Prop := ∃ line ∈ remarks id, line.level = .warn

variable {id id' : String}

theorem isExpected_iff : isExpected id = true ↔ id.length = 12 ∨ id.length = 16 := by
  simp [isExpected]

theorem warned_iff : Warned id ↔ isExpected id = false := by
  unfold Warned remarks
  cases isExpected id with
  | true => simp
  | false => simp [Notice.level]

theorem normalize_of_ne (h : id.length ≠ 16) : normalize id = id := if_neg h

/-- The normal form of an expected id is its two halves. -/
theorem toList_normalize (h : isExpected id = true) :
    (normalize id).toList = front id ++ back id := by
  unfold front back
  rcases isExpected_iff.mp h with h | h
  · rw [normalize_of_ne (by omega), h, List.take_append_drop]
  · unfold normalize
    rw [if_pos h, h, String.toList_ofList]

theorem length_normalize (h : id.length = 16) : (normalize id).length = 12 := by
  have hchars : id.toList.length = 16 := by rw [String.length_toList, h]
  unfold normalize
  rw [if_pos h, String.length_ofList, List.length_append, List.length_take, List.length_drop,
    hchars]
  rfl

theorem length_normalize_ne (id : String) : (normalize id).length ≠ 16 := by
  by_cases h : id.length = 16
  · rw [length_normalize h]
    decide
  · rwa [normalize_of_ne h]

theorem normalize_normalize (id : String) : normalize (normalize id) = normalize id :=
  normalize_of_ne (length_normalize_ne id)

theorem isExpected_normalize (id : String) : isExpected (normalize id) = isExpected id := by
  by_cases h : id.length = 16
  · rw [isExpected_iff.mpr (Or.inl (length_normalize h)), isExpected_iff.mpr (Or.inr h)]
  · rw [normalize_of_ne h]

/-- Padding between the halves is left out. -/
theorem normalize_padded {a p b : String} (ha : a.length = 6) (hp : p.length = 4)
    (hb : b.length = 6) : normalize (a ++ p ++ b) = a ++ b := by
  have hlength : (a ++ p ++ b).length = 16 := by
    rw [String.length_append, String.length_append, ha, hp, hb]
  have htake : a.toList.length = 6 := by rw [String.length_toList, ha]
  have hdrop : (a.toList ++ p.toList).length = 10 := by
    rw [List.length_append, String.length_toList, String.length_toList, ha, hp]
  unfold normalize
  rw [if_pos hlength, String.toList_append, String.toList_append, List.drop_left' hdrop,
    List.append_assoc, List.take_left' htake, String.ofList_append, String.ofList_toList,
    String.ofList_toList]

theorem normalize_halves {a b : String} (ha : a.length = 6) (hb : b.length = 6) :
    normalize (a ++ b) = a ++ b := by
  apply normalize_of_ne
  rw [String.length_append, ha, hb]
  decide

theorem length_front (h : isExpected id = true) : (front id).length = 6 := by
  have hlength := isExpected_iff.mp h
  unfold front
  rw [List.length_take, String.length_toList]
  omega

/-- Both halves of an expected id can be told from its normal form. -/
theorem normalize_eq_iff (h : isExpected id = true) (h' : isExpected id' = true) :
    normalize id = normalize id' ↔ front id = front id' ∧ back id = back id' := by
  rw [← String.toList_inj, toList_normalize h, toList_normalize h']
  constructor
  · intro heq
    exact List.append_inj heq ((length_front h).trans (length_front h').symm)
  · rintro ⟨hfront, hback⟩
    rw [hfront, hback]

/-- Bringing an id to its normal form again changes nothing and warns again exactly if it warned
before. A warning is for an id of neither expected length, and leaves it as it is. Padding between
two halves goes, whatever it is and whatever they are, and nothing else does: ids of the expected
lengths with one normal form have the same halves. -/
theorem a_bridge_id_has_one_normal_form :
    (∀ id, normalize (normalize id) = normalize id ∧ (Warned (normalize id) ↔ Warned id) ∧
      (normalize id).length ≠ 16) ∧
    (∀ id, (Warned id ↔ id.length ≠ 12 ∧ id.length ≠ 16) ∧ (Warned id → normalize id = id)) ∧
    (∀ a p b : String, a.length = 6 → p.length = 4 → b.length = 6 →
      normalize (a ++ p ++ b) = a ++ b ∧ normalize (a ++ b) = a ++ b) ∧
    ∀ id id' : String, id.length = 12 ∨ id.length = 16 → id'.length = 12 ∨ id'.length = 16 →
      (normalize id = normalize id' ↔ front id = front id' ∧ back id = back id') := by
  have hwarned : ∀ id, Warned id ↔ id.length ≠ 12 ∧ id.length ≠ 16 := by
    intro id
    rw [warned_iff, ← Bool.not_eq_true, isExpected_iff, not_or]
  refine ⟨fun id => ⟨normalize_normalize id, ?_, length_normalize_ne id⟩,
    fun id => ⟨hwarned id, ?_⟩,
    fun a p b ha hp hb => ⟨normalize_padded ha hp hb, normalize_halves ha hb⟩, ?_⟩
  · rw [warned_iff, warned_iff, isExpected_normalize]
  · intro h
    exact normalize_of_ne ((hwarned id).mp h).2
  · intro id id' h h'
    exact normalize_eq_iff (isExpected_iff.mpr h) (isExpected_iff.mpr h')

theorem a_bridge_id_has_one_normal_form_in_any_alphabet :
    normalize "мост-1✓✓✓✓мост-2" = "мост-1мост-2" ∧
    normalize "мост-1✓✓✓✓мост-2" ≠ normalize "мост-1мост-3" := by
  obtain ⟨_, _, hpadded, hhalves⟩ := a_bridge_id_has_one_normal_form
  refine ⟨(hpadded "мост-1" "✓✓✓✓" "мост-2" rfl rfl rfl).1, fun heq => ?_⟩
  obtain ⟨_, hback⟩ := (hhalves _ _ (Or.inr rfl) (Or.inl rfl)).mp heq
  exact absurd hback (by decide)

end HueLink.BridgeId
