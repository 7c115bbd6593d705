-- Identifiers of 128 bits. They are written as five groups of digits to the base 16, in lower case,
-- and read in four spellings and in either case.

namespace HueLink

/-- An identifier of 32 digits to the base 16. -/
structure Uuid where
  digits : List (Fin 16)
  size : digits.length = 32
deriving DecidableEq

namespace Uuid

/-- A digit as it is written. -/
def digitChar (d : Fin 16) : Char :=
  if d.val < 10 then Char.ofNat (48 + d.val) else Char.ofNat (87 + d.val)

/-- A digit as it is read. -/
def digit? (c : Char) : Option (Fin 16) :=
  let n := c.toNat
  if h : 48 ≤ n ∧ n < 58 then some ⟨n - 48, by omega⟩
  else if h : 97 ≤ n ∧ n < 103 then some ⟨n - 87, by omega⟩
  else if h : 65 ≤ n ∧ n < 71 then some ⟨n - 55, by omega⟩
  else none

/-- Characters with dashes between groups of 8, 4, 4, 4 and 12. -/
def hyphenate (cs : List Char) : List Char :=
  cs.take 8 ++ '-' :: (cs.drop 8).take 4 ++ '-' :: (cs.drop 12).take 4
    ++ '-' :: (cs.drop 16).take 4 ++ '-' :: cs.drop 20

/-- The hyphenated form in lower case. -/
def text (u : Uuid) : String := String.ofList (hyphenate (u.digits.map digitChar))

/-- Reads 32 digits with nothing between them. -/
def ofDigits? (cs : List Char) : Option Uuid :=
  (cs.mapM digit?).bind fun ds => if h : ds.length = 32 then some ⟨ds, h⟩ else none

/-- Reads the hyphenated form. -/
def ofHyphenated? (cs : List Char) : Option Uuid :=
  let bare := cs.filter (· != '-')
  if cs = hyphenate bare then ofDigits? bare else none

/-- What the hyphenated form may follow, in any case. -/
def scheme : List Char := "urn:uuid:".toList

/-- Reads an identifier: hyphenated, bare, in braces, or after its scheme. -/
def parse? (s : String) : Option Uuid :=
  let cs := s.toList
  match cs.length with
  | 32 => ofDigits? cs
  | 36 => ofHyphenated? cs
  | 38 => if cs.head? = some '\x7b' ∧ cs.getLast? = some '\x7d' then
      ofHyphenated? (cs.drop 1).dropLast else none
  | 45 => if (cs.take 9).map Char.toLower = scheme then ofHyphenated? (cs.drop 9) else none
  | _ => none

/-- The digits of a number, the last one first. -/
def lowDigits : Nat → Nat → List (Fin 16)
  | 0, _ => []
  | count + 1, n => Fin.ofNat 16 n :: lowDigits count (n / 16)

theorem length_lowDigits (count n : Nat) : (lowDigits count n).length = count := by
  induction count generalizing n with
  | zero => rfl
  | succ count ih => simp [lowDigits, ih]

/-- The identifier with a given number. -/
def ofNat (n : Nat) : Uuid := ⟨(lowDigits 32 n).reverse, by simp [length_lowDigits]⟩

instance : Inhabited Uuid := ⟨ofNat 0⟩

end Uuid

end HueLink
