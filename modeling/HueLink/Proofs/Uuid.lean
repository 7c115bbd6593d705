-- Identifiers as texts. What is written for an identifier is read as that identifier, in whatever
-- case its letters are.
import HueLink.Uuid

namespace HueLink.Uuid

/-! ## Letter case -/

theorem toNat_toLower (c : Char) :
    c.toLower.toNat = if 65 ≤ c.toNat ∧ c.toNat ≤ 90 then c.toNat + 32 else c.toNat := by
  unfold Char.toLower Char.toNat
  have hrange : (c.val ≥ 'A'.val ∧ c.val ≤ 'Z'.val) ↔ 65 ≤ c.val.toNat ∧ c.val.toNat ≤ 90 := Iff.rfl
  by_cases h : c.val ≥ 'A'.val ∧ c.val ≤ 'Z'.val
  · rw [dif_pos h, if_pos (hrange.mp h)]
    have hsum : (c.val + ('a'.val - 'A'.val)).toNat = (c.val.toNat + 32) % 4294967296 :=
      UInt32.toNat_add ..
    have hbound := hrange.mp h
    change (c.val + ('a'.val - 'A'.val)).toNat = _
    omega
  · rw [dif_neg h, if_neg (mt hrange.mpr h)]

theorem toLower_beq_dash (c : Char) : (c.toLower == '-') = (c == '-') := by
  have hlower := toNat_toLower c
  have hdash : '-'.toNat = 45 := rfl
  rw [Bool.eq_iff_iff, beq_iff_eq, beq_iff_eq, ← Char.toNat_inj, ← Char.toNat_inj, hlower, hdash]
  split <;> omega

/-- A digit is read in either case. -/
theorem digit?_toLower (c : Char) : digit? c.toLower = digit? c := by
  unfold digit?
  simp only [toNat_toLower]
  by_cases hcapital : 65 ≤ c.toNat ∧ c.toNat ≤ 90
  · simp only [if_pos hcapital]
    by_cases hdigit : c.toNat < 71
    · rw [dif_neg (by omega), dif_pos (by omega), dif_neg (by omega), dif_neg (by omega),
        dif_pos (by omega)]
      simp only [Option.some.injEq, Fin.mk.injEq]
      omega
    · rw [dif_neg (by omega), dif_neg (by omega), dif_neg (by omega), dif_neg (by omega),
        dif_neg (by omega), dif_neg (by omega)]
  · simp only [if_neg hcapital]

theorem digit?_digitChar (d : Fin 16) : digit? (digitChar d) = some d := by
  revert d
  decide

theorem digitChar_ne_dash (d : Fin 16) : digitChar d ≠ '-' := by
  revert d
  decide

theorem toLower_digitChar (d : Fin 16) : (digitChar d).toLower = digitChar d := by
  revert d
  decide

/-- Digits are read from any text that is theirs in lower case. -/
theorem mapM_digit {cs : List Char} {ds : List (Fin 16)}
    (h : cs.map Char.toLower = ds.map digitChar) : cs.mapM digit? = some ds := by
  induction ds generalizing cs with
  | nil =>
    obtain rfl := List.map_eq_nil_iff.mp h
    rfl
  | cons d ds ih =>
    obtain ⟨c, rest, rfl, hc, hrest⟩ := List.map_eq_cons_iff.mp h
    have hdigit : digit? c = some d := by
      rw [← digit?_toLower, hc, digit?_digitChar]
    simp [List.mapM_cons, hdigit, ih hrest]

/-! ## Dashes -/

/-- A text without its dashes. -/
def bare (cs : List Char) : List Char := cs.filter (· != '-')

theorem bare_map_toLower (cs : List Char) :
    bare (cs.map Char.toLower) = (bare cs).map Char.toLower := by
  unfold bare
  rw [List.filter_map]
  congr 1
  apply List.filter_congr
  intro c _
  exact congrArg not (toLower_beq_dash c)

theorem bare_eq_self {cs : List Char} (h : ∀ c ∈ cs, c ≠ '-') : bare cs = cs := by
  apply List.filter_eq_self.mpr
  simpa using h

theorem bare_hyphenate {cs : List Char} (h : ∀ c ∈ cs, c ≠ '-') : bare (hyphenate cs) = cs := by
  have hpart : ∀ {part : List Char}, part.Sublist cs → part.filter (· != '-') = part := by
    intro part hpart
    exact bare_eq_self fun c hc => h c (hpart.subset hc)
  have htake : ∀ m n, ((cs.drop m).take n).filter (· != '-') = (cs.drop m).take n := fun m n =>
    hpart ((List.take_sublist n _).trans (List.drop_sublist m cs))
  have hjoin : ∀ m n, (cs.drop m).take n ++ cs.drop (m + n) = cs.drop m := by
    intro m n
    rw [← List.drop_drop, List.take_append_drop]
  unfold bare hyphenate
  simp only [List.filter_append, List.filter_cons, bne_self_eq_false, Bool.false_eq_true, if_false,
    hpart (List.take_sublist 8 cs), htake, hpart (List.drop_sublist 20 cs), List.append_assoc]
  rw [hjoin 16 4, hjoin 12 4, hjoin 8 4, List.take_append_drop]

theorem map_hyphenate (cs : List Char) :
    (hyphenate cs).map Char.toLower = hyphenate (cs.map Char.toLower) := by
  have hdash : Char.toLower '-' = '-' := by decide
  simp [hyphenate, hdash]

theorem length_hyphenate {cs : List Char} (h : cs.length = 32) : (hyphenate cs).length = 36 := by
  simp [hyphenate, h]

/-- A text is known by where its dashes are and what is between them. -/
theorem eq_of_bare_eq {cs cs' : List Char} (hdashes : cs.map (· == '-') = cs'.map (· == '-'))
    (hbare : bare cs = bare cs') : cs = cs' := by
  induction cs generalizing cs' with
  | nil => exact (List.map_eq_nil_iff.mp hdashes.symm).symm
  | cons c cs ih =>
    cases cs' with
    | nil => exact nomatch hdashes
    | cons c' cs' =>
      simp only [List.map_cons, List.cons.injEq] at hdashes
      obtain ⟨hhead, hdashes⟩ := hdashes
      unfold bare at hbare ih
      simp only [List.filter_cons, bne, hhead] at hbare
      cases hc : c' == '-' with
      | true =>
        rw [hc] at hhead hbare
        rw [eq_of_beq hhead, eq_of_beq hc, ih hdashes hbare]
      | false =>
        rw [hc] at hbare
        obtain ⟨rfl, hrest⟩ := List.cons.inj hbare
        rw [ih hdashes hrest]

/-- What is hyphenated in lower case is hyphenated in any case. -/
theorem eq_hyphenate {cs ds : List Char} (h : cs.map Char.toLower = hyphenate ds)
    (hds : ∀ d ∈ ds, d ≠ '-') : (bare cs).map Char.toLower = ds ∧ cs = hyphenate (bare cs) := by
  have hlower : (bare cs).map Char.toLower = ds := by
    rw [← bare_map_toLower, h, bare_hyphenate hds]
  have hdashes : ∀ l : List Char, (l.map Char.toLower).map (· == '-') = l.map (· == '-') := by
    intro l
    rw [List.map_map]
    apply List.map_congr_left
    intro c _
    exact toLower_beq_dash c
  have hplain : ∀ c ∈ bare cs, c ≠ '-' := by simp [bare]
  refine ⟨hlower, eq_of_bare_eq ?_ (bare_hyphenate hplain).symm⟩
  rw [← hdashes cs, ← hdashes (hyphenate (bare cs)), map_hyphenate, hlower, h]

/-! ## Reading -/

/-- An identifier is read from its text in any letter case. -/
theorem parse?_of_toLower (u : Uuid) {s : String}
    (h : s.toList.map Char.toLower = u.text.toList) : parse? s = some u := by
  have hspelled : s.toList.map Char.toLower = hyphenate (u.digits.map digitChar) := by
    rw [h, text, String.toList_ofList]
  have hplain : ∀ d ∈ u.digits.map digitChar, d ≠ '-' := by
    simp only [List.mem_map]
    rintro _ ⟨d, _, rfl⟩
    exact digitChar_ne_dash d
  obtain ⟨hlower, hdashes⟩ := eq_hyphenate hspelled hplain
  have hlength : s.toList.length = 36 := by
    rw [← List.length_map Char.toLower, hspelled, length_hyphenate]
    rw [List.length_map, u.size]
  have hread : ofHyphenated? s.toList = some u := by
    unfold ofHyphenated?
    change (if s.toList = hyphenate (bare s.toList) then ofDigits? (bare s.toList) else none) = _
    rw [if_pos hdashes, ofDigits?, mapM_digit hlower, Option.bind_some, dif_pos u.size]
  simp only [parse?, hlength]
  exact hread

theorem parse?_text (u : Uuid) : parse? u.text = some u := by
  apply parse?_of_toLower
  rw [text, String.toList_ofList, map_hyphenate, List.map_map]
  congr 1
  apply List.map_congr_left
  intro d _
  exact toLower_digitChar d

end HueLink.Uuid
