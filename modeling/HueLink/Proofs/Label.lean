-- Laws of labels. Under any table of spellings, the slug of a name is words of small letters and
-- digits with single dashes between them. A label holds as much of it as fits without a dash at the
-- end, and is the label of itself.
import HueLink.Label
import Mathlib

namespace HueLink.Label

/-! ## Well-formed slugs -/

/-- Signs with single dashes between them, and perhaps one dash at the end. -/
structure Begun (s : List Char) : Prop where
  signs : ∀ c ∈ s, c.isLower = true ∨ c.isDigit = true ∨ c = '-'
  single : s.IsChain fun a b => ¬ (a = '-' ∧ b = '-')
  first : s.head? ≠ some '-'

/-- Words of small letters and digits, with single dashes between them. -/
structure IsSlug (s : List Char) : Prop extends Begun s where
  last : s.getLast? ≠ some '-'

variable {s t held : List Char} {c d : Char}

theorem begun_nil : Begun [] := ⟨by simp, by simp, by simp⟩

theorem Begun.of_prefix (h : Begun s) (ht : t <+: s) : Begun t := by
  obtain ⟨rest, rfl⟩ := ht
  refine ⟨fun c hc => h.signs c (List.mem_append_left _ hc), h.single.left_of_append, ?_⟩
  cases t with
  | nil => simp
  | cons c t => exact h.first

/-- One sign more. A dash needs a sign before it. -/
theorem Begun.concat (h : Begun s) (hd : d.isLower = true ∨ d.isDigit = true ∨ d = '-')
    (hdash : d = '-' → s ≠ [] ∧ s.getLast? ≠ some '-') : Begun (s ++ [d]) := by
  refine ⟨?_, ?_, ?_⟩
  · exact List.forall_mem_append.mpr ⟨h.signs, List.forall_mem_singleton.mpr hd⟩
  · refine List.isChain_append.mpr ⟨h.single, List.isChain_singleton d, ?_⟩
    rintro a ha b hb ⟨rfl, rfl⟩
    obtain rfl : d = '-' := by simpa using hb
    exact (hdash rfl).2 ha
  · cases s with
    | nil =>
      intro hfirst
      obtain rfl : d = '-' := by simpa using hfirst
      exact (hdash rfl).1 rfl
    | cons a s => exact h.first

/-- Two dashes never stand one after the other. -/
theorem Begun.isSlug_dropLast (h : Begun (s ++ ['-'])) : IsSlug s := by
  refine ⟨h.of_prefix (List.prefix_append s ['-']), fun hlast => ?_⟩
  exact (List.isChain_append.mp h.single).2.2 '-' hlast '-' rfl ⟨rfl, rfl⟩

/-! ## The slug of a name -/

theorem keep_of_sign (h : c.isLower = true ∨ c.isDigit = true) : keep c = some c :=
  if_pos (by simpa using h)

theorem keep_of_upper (h : c.isUpper = true) : keep c = some c.toLower := by
  have hlower : c.isLower = false := by simpa using Char.not_isLower_of_isUpper h
  have hdigit : c.isDigit = false := by
    simp [Char.isUpper, Char.isDigit, UInt32.le_iff_toNat_le] at h ⊢
    omega
  unfold keep
  rw [hlower, hdigit, h]
  rfl

theorem keep_sign (h : keep c = some d) : d.isLower = true ∨ d.isDigit = true := by
  by_cases hsign : c.isLower = true ∨ c.isDigit = true
  · rw [keep_of_sign hsign] at h
    obtain rfl := Option.some.inj h
    exact hsign
  · by_cases hupper : c.isUpper = true
    · rw [keep_of_upper hupper] at h
      obtain rfl := Option.some.inj h
      exact Or.inl (by simp [Char.isAlpha, hupper])
    · simp [keep, hupper] at h
      exact absurd h.1 hsign

theorem keep_toLower (c : Char) : keep c.toLower = keep c := by
  by_cases hupper : c.isUpper = true
  · rw [keep_of_upper hupper]
    exact keep_of_sign (Or.inl (by simp [Char.isAlpha, hupper]))
  · rw [Char.toLower_eq_of_not_isUpper hupper]

theorem ne_dash_of_sign (h : c.isLower = true ∨ c.isDigit = true) : c ≠ '-' := by
  rintro rfl
  exact absurd h (by decide)

/-- A slug that is held last sign first, after one more character. -/
theorem push_cases (held : List Char) (c : Char) :
    (∃ d, (d.isLower = true ∨ d.isDigit = true) ∧ push held c = d :: held) ∨
    push held c = held ∨
    (held ≠ [] ∧ held.head? ≠ some '-' ∧ push held c = '-' :: held) := by
  unfold push
  cases hkeep : keep c with
  | some d => exact Or.inl ⟨d, keep_sign hkeep, rfl⟩
  | none =>
    cases held with
    | nil => exact Or.inr (Or.inl rfl)
    | cons a rest =>
      by_cases ha : a = '-'
      · subst ha
        exact Or.inr (Or.inl rfl)
      · refine Or.inr (Or.inr ⟨List.cons_ne_nil a rest, by simpa using ha, ?_⟩)
        simp [ha]

theorem begun_push (h : Begun held.reverse) (c : Char) : Begun (push held c).reverse := by
  rcases push_cases held c with ⟨d, hd, heq⟩ | heq | ⟨hne, hhead, heq⟩
  · rw [heq, List.reverse_cons]
    exact h.concat (hd.imp_right Or.inl) fun hdash => absurd hdash (ne_dash_of_sign hd)
  · rwa [heq]
  · rw [heq, List.reverse_cons]
    refine h.concat (Or.inr (Or.inr rfl)) fun _ => ⟨by simpa using hne, ?_⟩
    rwa [List.getLast?_reverse]

theorem begun_foldl_push (cs : List Char) (h : Begun held.reverse) :
    Begun (cs.foldl push held).reverse := by
  induction cs generalizing held with
  | nil => exact h
  | cons c cs ih => exact ih (begun_push h c)

theorem isSlug_dropDash (h : Begun held.reverse) : IsSlug (dropDash held).reverse := by
  unfold dropDash
  split
  · rw [List.reverse_cons] at h
    exact h.isSlug_dropLast
  · rename_i hdash
    refine ⟨h, fun hlast => ?_⟩
    rw [List.getLast?_reverse] at hlast
    obtain ⟨rest, rfl⟩ := List.head?_eq_some_iff.mp hlast
    exact hdash rest rfl

theorem isSlug_slug (table : Char → Option String) (name : String) : IsSlug (slug table name) :=
  isSlug_dropDash (begun_foldl_push _ begun_nil)

/-! ## The slug of a slug -/

/-- A name in ASCII is its own spelling. -/
theorem spell_of_ascii {table : Char → Option String} (h : ∀ c ∈ s, c.toNat < 128) :
    spell table s = s := by
  induction s with
  | nil => rfl
  | cons c s ih =>
    obtain ⟨hc, hs⟩ := List.forall_mem_cons.mp h
    unfold spell at ih ⊢
    rw [List.flatMap_cons, if_pos hc, ih hs]
    rfl

theorem ascii_of_sign (h : c.isLower = true ∨ c.isDigit = true ∨ c = '-') : c.toNat < 128 := by
  rcases h with h | h | rfl
  · simp [Char.isLower, UInt32.le_iff_toNat_le] at h
    omega
  · simp [Char.isDigit, UInt32.le_iff_toNat_le] at h
    omega
  · decide

/-- Nothing of what a slug may have is left out or changed. -/
theorem foldl_push_reverse (h : Begun held.reverse) : held.reverse.foldl push [] = held := by
  induction held with
  | nil => rfl
  | cons c held ih =>
    rw [List.reverse_cons] at h ⊢
    rw [List.foldl_append, ih (h.of_prefix (List.prefix_append _ _))]
    change push held c = c :: held
    unfold push
    rcases h.signs c (List.mem_append_right _ List.mem_cons_self) with hc | hc | rfl
    · rw [keep_of_sign (Or.inl hc)]
    · rw [keep_of_sign (Or.inr hc)]
    · rw [show keep '-' = none from rfl]
      -- A dash has a sign before it, so it is not left out.
      have hlast := h.isSlug_dropLast.last
      rw [List.getLast?_reverse] at hlast
      cases held with
      | nil => exact absurd rfl h.first
      | cons a rest =>
        have ha : a ≠ '-' := by simpa using hlast
        simp [ha]

theorem slug_of_isSlug (table : Char → Option String) (h : IsSlug s) :
    slug table (String.ofList s) = s := by
  have hheld : s.foldl push [] = s.reverse := by
    have hbegun : Begun s.reverse.reverse := by rw [List.reverse_reverse]; exact h.toBegun
    simpa using foldl_push_reverse hbegun
  have hdrop : dropDash s.reverse = s.reverse := by
    unfold dropDash
    split
    · rename_i rest heq
      have hlast := h.last
      rw [← List.head?_reverse, heq] at hlast
      exact absurd rfl hlast
    · rfl
  unfold slug
  rw [String.toList_ofList, spell_of_ascii fun c hc => ascii_of_sign (h.signs c hc), hheld, hdrop,
    List.reverse_reverse]

/-! ## Letter case -/

theorem push_toLower (held : List Char) (c : Char) : push held c.toLower = push held c := by
  unfold push
  rw [keep_toLower]

theorem foldl_push_toLower (cs held : List Char) :
    (cs.map Char.toLower).foldl push held = cs.foldl push held := by
  simp only [List.foldl_map, push_toLower]

theorem slug_eq_of_toLower (table : Char → Option String) {name name' : String}
    (h : ∀ c ∈ name.toList, c.toNat < 128) (h' : ∀ c ∈ name'.toList, c.toNat < 128)
    (hcase : name.toList.map Char.toLower = name'.toList.map Char.toLower) :
    slug table name = slug table name' := by
  unfold slug
  rw [spell_of_ascii h, spell_of_ascii h', ← foldl_push_toLower, hcase, foldl_push_toLower]

/-! ## Cut to length -/

/-- Without the dash that a slug may end in where it was cut. -/
theorem trim_eq (h : Begun s) : (s.reverse.dropWhile (· == '-')).reverse =
    if s.getLast? = some '-' then s.dropLast else s := by
  rcases List.eq_nil_or_concat' s with rfl | ⟨t, c, rfl⟩
  · rfl
  · rw [List.reverse_append, List.getLast?_concat, List.dropLast_concat]
    by_cases hc : c = '-'
    · subst hc
      have hlast := h.isSlug_dropLast.last
      rw [← List.head?_reverse] at hlast
      rw [if_pos rfl]
      cases hrev : t.reverse with
      | nil => simp [List.reverse_eq_nil_iff.mp hrev]
      | cons a rest =>
        rw [hrev] at hlast
        have ha : a ≠ '-' := by simpa using hlast
        have ht : t = (a :: rest).reverse := by rw [← hrev, List.reverse_reverse]
        simp [ha, ht]
    · rw [if_neg (by simpa using hc)]
      simp [hc]

/-- The label keeps nineteen signs of a slug, or eighteen if the last of them is a dash. -/
theorem shorten_eq (h : IsSlug s) :
    shorten s = s.take (if s[18]? = some '-' then 18 else 19) := by
  unfold shorten maxLength
  rw [trim_eq (h.of_prefix (List.take_prefix 19 s))]
  by_cases hlong : 19 ≤ s.length
  · have hlength : (s.take 19).length = 19 := by rw [List.length_take]; omega
    have hlast : (s.take 19).getLast? = s[18]? := by
      rw [List.getLast?_eq_getElem?, hlength, List.getElem?_take_of_lt (by decide)]
    rw [hlast, List.dropLast_eq_take, hlength, List.take_take]
    exact (apply_ite (fun n => s.take n) _ 18 19).symm
  · have htake : s.take 19 = s := List.take_of_length_le (by omega)
    rw [htake, if_neg h.last, List.getElem?_eq_none (by omega), if_neg (by simp), htake]

theorem length_shorten (h : IsSlug s) (hlong : 19 < s.length) :
    (shorten s).length = if s[18]? = some '-' then 18 else 19 := by
  rw [shorten_eq h, List.length_take]
  split <;> omega

theorem length_shorten_le (h : IsSlug s) : (shorten s).length ≤ 19 := by
  rw [shorten_eq h, List.length_take]
  split <;> omega

theorem shorten_of_short (h : IsSlug s) (hshort : s.length ≤ 19) : shorten s = s := by
  have hnot : s[18]? ≠ some '-' := by
    intro hdash
    -- A dash in this place would be the last sign.
    have hlength : s.length = 19 := by
      have := (List.getElem?_eq_some_iff.mp hdash).1
      omega
    have hlast := h.last
    rw [List.getLast?_eq_getElem?, hlength] at hlast
    exact hlast hdash
  rw [shorten_eq h, if_neg hnot, List.take_of_length_le hshort]

theorem prefix_of_shorten (h : IsSlug s) : shorten s <+: s := by
  rw [shorten_eq h]
  exact List.take_prefix _ s

theorem isSlug_shorten (h : IsSlug s) : IsSlug (shorten s) := by
  refine ⟨h.of_prefix (prefix_of_shorten h), ?_⟩
  unfold shorten
  rw [List.getLast?_reverse]
  intro hhead
  have hnot := List.head?_dropWhile_not (· == '-') (s.take maxLength).reverse
  rw [hhead] at hnot
  exact nomatch hnot

/-- Whatever spellings are used, a label is the kind of application and a slug of at most nineteen
signs. It holds as much of the slug of the name as fits without a dash at its end. The label of what
it holds is the same label, and letter case never matters in a name in ASCII. -/
theorem a_label_holds_what_fits (table : Char → Option String) (name : String) :
    ∃ s : String, ofName table name = "home-assistant#" ++ s ∧
      s.length ≤ 19 ∧ IsSlug s.toList ∧
      s.toList <+: slug table name ∧
      ((slug table name).length ≤ 19 → s.toList = slug table name) ∧
      (19 < (slug table name).length →
        s.length = if (slug table name)[18]? = some '-' then 18 else 19) ∧
      ofName table s = ofName table name ∧
      ∀ name' : String, (∀ c ∈ name.toList, c.toNat < 128) → (∀ c ∈ name'.toList, c.toNat < 128) →
        name.toList.map Char.toLower = name'.toList.map Char.toLower →
          ofName table name' = ofName table name := by
  have hslug := isSlug_slug table name
  have hshort := isSlug_shorten hslug
  refine ⟨String.ofList (shorten (slug table name)), rfl, ?_⟩
  rw [String.length_ofList, String.toList_ofList]
  refine ⟨length_shorten_le hslug, hshort, prefix_of_shorten hslug, shorten_of_short hslug,
    length_shorten hslug, ?_, ?_⟩
  · unfold ofName
    rw [slug_of_isSlug table hshort, shorten_of_short hshort (length_shorten_le hslug)]
  · intro name' hname hname' hcase
    unfold ofName
    rw [slug_eq_of_toLower table hname hname' hcase]

/-- The spellings of some letters of the Iberian languages. -/
def iberian : Char → Option String
  | 'Ñ' => some "N"
  | 'ú' => some "u"
  | 'í' => some "i"
  | _ => none

theorem a_label_holds_what_fits_before_a_dash : ∃ s : String,
    forHome ⟨"Casa de Ñandú, Ríos Negros", iberian⟩ = "home-assistant#" ++ s ∧ s.length = 18 ∧
    s.toList <+: slug iberian "Casa de Ñandú, Ríos Negros" ∧
    forHome ⟨s, iberian⟩ = forHome ⟨"Casa de Ñandú, Ríos Negros", iberian⟩ ∧
    forHome ⟨"HOME 2", iberian⟩ = forHome ⟨"Home 2", iberian⟩ := by
  obtain ⟨s, hlabel, _, _, hprefix, _, hlong, hagain, _⟩ :=
    a_label_holds_what_fits iberian "Casa de Ñandú, Ríos Negros"
  obtain ⟨_, _, _, _, _, _, _, _, hcase⟩ := a_label_holds_what_fits iberian "Home 2"
  have hdash : (slug iberian "Casa de Ñandú, Ríos Negros")[18]? = some '-' := by
    decide +kernel
  rw [if_pos hdash] at hlong
  exact ⟨s, hlabel, hlong (by decide +kernel), hprefix, hagain,
    hcase "HOME 2" (by simp) (by simp) (by decide +kernel)⟩

end HueLink.Label
