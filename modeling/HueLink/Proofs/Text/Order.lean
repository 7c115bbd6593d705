-- Texts stand in the order of their bytes in UTF-8.
import HueLink.Json.Basic

namespace HueLink.Text

open String (utf8EncodeChar)

/-- The bytes of a text in UTF-8. -/
def utf8 (text : String) : List UInt8 := text.toUTF8.data.toList

theorem utf8_eq (text : String) : utf8 text = text.toList.flatMap utf8EncodeChar := by
  rw [utf8, String.toUTF8_eq_toByteArray, ← String.utf8Encode_toList, List.utf8Encode,
    List.toList_data_toByteArray]

/-! ## One character -/

/-- The digits, in base 64, that the bytes of a character carry, for each number of bytes. -/
theorem utf8EncodeChar_digits (c : Char) :
    (c.toNat < 0x80 ∧ utf8EncodeChar c = [UInt8.ofNat c.toNat]) ∨
    (∃ x y, c.toNat = 64 * x + y ∧ 2 ≤ x ∧ x < 32 ∧ y < 64 ∧
      utf8EncodeChar c = [UInt8.ofNat (x + 0xc0), UInt8.ofNat (y + 0x80)]) ∨
    (∃ x y z, c.toNat = 64 * (64 * x + y) + z ∧ 32 ≤ 64 * x + y ∧ x < 16 ∧ y < 64 ∧ z < 64 ∧
      utf8EncodeChar c =
        [UInt8.ofNat (x + 0xe0), UInt8.ofNat (y + 0x80), UInt8.ofNat (z + 0x80)]) ∨
    (∃ w x y z, c.toNat = 64 * (64 * (64 * w + x) + y) + z ∧ 16 ≤ 64 * w + x ∧
      w < 8 ∧ x < 64 ∧ y < 64 ∧ z < 64 ∧
      utf8EncodeChar c = [UInt8.ofNat (w + 0xf0), UInt8.ofNat (x + 0x80),
        UInt8.ofNat (y + 0x80), UInt8.ofNat (z + 0x80)]) := by
  have hmax : c.toNat < 0x110000 := by
    show c.val.toNat < _
    rcases c.valid with h | h <;> omega
  simp only [utf8EncodeChar, show c.val.toNat = c.toNat from rfl]
  generalize c.toNat = n at hmax
  split
  · exact Or.inl ⟨by omega, rfl⟩
  · refine Or.inr ?_
    split
    · exact Or.inl ⟨n / 64 % 32, n % 64, by omega, by omega, by omega, by omega, rfl⟩
    · refine Or.inr ?_
      split
      · exact Or.inl ⟨n / 4096 % 16, n / 64 % 64, n % 64, by omega, by omega, by omega, by omega,
          by omega, rfl⟩
      · exact Or.inr ⟨n / 262144 % 8, n / 4096 % 64, n / 64 % 64, n % 64, by omega, by omega,
          by omega, by omega, by omega, by omega, rfl⟩

/-- The bytes of two characters differ where their digits first do, whatever comes after them. A
character of more bytes has a greater first byte. -/
theorem utf8EncodeChar_append_lt {c d : Char} (h : c < d) (rest rest' : List UInt8) :
    utf8EncodeChar c ++ rest < utf8EncodeChar d ++ rest' := by
  have hlt : c.toNat < d.toNat := UInt32.lt_iff_toNat_lt.mp h
  rcases utf8EncodeChar_digits c with
      ⟨hc, heq⟩ | ⟨x, y, hc, hx, hx', hy, heq⟩ | ⟨x, y, z, hc, hx, hx', hy, hz, heq⟩ |
      ⟨w, x, y, z, hc, hw, hw', hx, hy, hz, heq⟩ <;>
    rcases utf8EncodeChar_digits d with
      ⟨hd, heq'⟩ | ⟨x', y', hd, hx1, hx1', hy1, heq'⟩ |
      ⟨x', y', z', hd, hx1, hx1', hy1, hz1, heq'⟩ |
      ⟨w', x', y', z', hd, hw1, hw1', hx1, hy1, hz1, heq'⟩ <;>
    simp only [heq, heq', List.cons_append, List.cons_lt_cons_iff, UInt8.lt_iff_toNat_lt,
      ← UInt8.toNat_inj, UInt8.toNat_ofNat'] <;>
    omega

/-! ## Texts -/

theorem flatMap_utf8EncodeChar_lt {a b : List Char} (h : a < b) :
    a.flatMap utf8EncodeChar < b.flatMap utf8EncodeChar := by
  induction h with
  | nil =>
    rw [List.flatMap_nil, List.flatMap_cons]
    cases hbytes : utf8EncodeChar _ with
    | nil => exact absurd hbytes String.utf8EncodeChar_ne_nil
    | cons byte bytes => exact List.nil_lt_cons _ _
  | rel hlt =>
    rw [List.flatMap_cons, List.flatMap_cons]
    exact utf8EncodeChar_append_lt hlt _ _
  | cons _ ih =>
    rw [List.flatMap_cons, List.flatMap_cons]
    exact List.append_left_lt ih

theorem utf8_lt_of_lt {a b : String} (h : a < b) : utf8 a < utf8 b := by
  rw [utf8_eq, utf8_eq]
  exact flatMap_utf8EncodeChar_lt h

/-- The order of texts is the order of their bytes. -/
theorem utf8_lt_iff {a b : String} : utf8 a < utf8 b ↔ a < b := by
  refine ⟨fun h => ?_, utf8_lt_of_lt⟩
  rcases Std.lt_trichotomy a b with hlt | rfl | hgt
  · exact hlt
  · exact absurd h (List.lt_irrefl _)
  · exact absurd (utf8_lt_of_lt hgt) (List.lt_asymm h)

end HueLink.Text
