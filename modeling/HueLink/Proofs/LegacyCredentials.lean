-- What a legacy file says is what its object says: the first key by its bytes in UTF-8 decides,
-- with the value written last for it. Where in the file the members stand does not matter, apart
-- from which of equal keys comes last, and nothing under another key does.
import HueLink.LegacyCredentials
import HueLink.Proofs.Json.Entries
import HueLink.Proofs.Text.Order

namespace HueLink.LegacyCredentials

open Json (Ordered entries)

variable {members members' : List (String × Json)} {key user text text' : String} {value : Json}

/-! ## The first key -/

/-- The value of a key: the last one written for it. -/
def lastValue (members : List (String × Json)) (key : String) : Option Json :=
  members.reverse.lookup key

/-- The key is written, and no other that is written has smaller bytes. -/
def IsFirstKey (members : List (String × Json)) (key : String) : Prop :=
  key ∈ members.map Prod.fst ∧ ∀ k ∈ members.map Prod.fst, ¬ Text.utf8 k < Text.utf8 key

/-- Under the first key stands an object, and in it the username. -/
def Names (members : List (String × Json)) (user : String) : Prop :=
  ∃ key inner, IsFirstKey members key ∧ lastValue members key = some (.obj inner) ∧
    lastValue inner "username" = some (.str user)

theorem lastValue_isSome_iff : (lastValue members key).isSome ↔ key ∈ members.map Prod.fst := by
  rw [← Option.ne_none_iff_isSome, Ne, lastValue, List.lookup_eq_none_iff]
  simp only [List.mem_reverse, bne_iff_ne, List.mem_map]
  constructor
  · intro h
    by_contra hnot
    exact h fun m hm heq => hnot ⟨m, hm, heq.symm⟩
  · rintro ⟨m, hm, rfl⟩ h
    exact h m hm rfl

theorem mem_entries_iff : (key, value) ∈ entries members ↔ lastValue members key = some value := by
  rw [lastValue, ← Json.lookup_entries]
  constructor
  · exact Json.lookup_of_mem (Json.ordered_entries members)
  · intro h
    obtain ⟨before, after, heq, _⟩ := List.lookup_eq_some_iff.mp h
    rw [heq]
    exact List.mem_append_right _ List.mem_cons_self

theorem head?_entries : (entries members).head? = some (key, value) ↔
    IsFirstKey members key ∧ lastValue members key = some value := by
  have hordered := Json.ordered_entries members
  constructor
  · intro h
    obtain ⟨rest, hrest⟩ := List.head?_eq_some_iff.mp h
    have hvalue : lastValue members key = some value :=
      mem_entries_iff.mp (List.mem_of_mem_head? h)
    refine ⟨⟨lastValue_isSome_iff.mp (by rw [hvalue]; rfl), fun k hk => ?_⟩, hvalue⟩
    obtain ⟨v, hv⟩ := Option.isSome_iff_exists.mp (lastValue_isSome_iff.mpr hk)
    rw [Text.utf8_lt_iff]
    have hmem := mem_entries_iff.mpr hv
    rw [hrest] at hmem hordered
    rcases List.mem_cons.mp hmem with heq | hmem
    · cases heq
      exact String.lt_irrefl _
    · exact String.lt_asymm ((List.pairwise_cons.mp hordered).1 _ hmem)
  · rintro ⟨⟨_, hfirst⟩, hvalue⟩
    have hmem := mem_entries_iff.mpr hvalue
    cases hheld : entries members with
    | nil => rw [hheld] at hmem; exact nomatch hmem
    | cons head rest =>
      rw [hheld] at hmem hordered
      rcases List.mem_cons.mp hmem with heq | hmem
      · rw [heq]; rfl
      · -- The head would be written too, with a smaller key.
        have hlt := (List.pairwise_cons.mp hordered).1 _ hmem
        have hhead : (head.1, head.2) ∈ entries members := hheld ▸ List.mem_cons_self
        have hwritten := lastValue_isSome_iff.mp (by rw [mem_entries_iff.mp hhead]; rfl)
        exact absurd (Text.utf8_lt_iff.mpr hlt) (hfirst _ hwritten)

theorem str?_eq_some_iff : value.str? = some user ↔ value = .str user := by
  cases value <;> simp [Json.str?]

theorem get?_eq_some_iff {held : Json} : held.get? key = some value ↔
    ∃ inner, held = .obj inner ∧ lastValue inner key = some value := by
  cases held <;> simp [Json.get?, Json.lookup_entries, lastValue]

theorem firstUsername_entries :
    firstUsername (entries members) = some user ↔ Names members user := by
  unfold firstUsername Names
  simp only [Option.bind_eq_bind, Option.bind_eq_some_iff, str?_eq_some_iff, get?_eq_some_iff]
  constructor
  · rintro ⟨⟨key, _⟩, hhead, _, ⟨inner, rfl, huser⟩, rfl⟩
    obtain ⟨hfirst, hvalue⟩ := head?_entries.mp hhead
    exact ⟨key, inner, hfirst, hvalue, huser⟩
  · rintro ⟨key, inner, hfirst, hvalue, huser⟩
    exact ⟨(key, .obj inner), head?_entries.mpr ⟨hfirst, hvalue⟩, _, ⟨inner, rfl, huser⟩, rfl⟩

/-! ## What does not matter -/

theorem firstKey_unique {key' : String} (h : IsFirstKey members key)
    (h' : IsFirstKey members key') : key = key' := by
  rcases Std.lt_trichotomy key key' with hlt | heq | hgt
  · exact absurd (Text.utf8_lt_iff.mpr hlt) (h'.2 key h.1)
  · exact heq
  · exact absurd (Text.utf8_lt_iff.mpr hgt) (h.2 key' h'.1)

theorem names_iff (h : IsFirstKey members key) : Names members user ↔
    ∃ inner, lastValue members key = some (.obj inner) ∧
      lastValue inner "username" = some (.str user) := by
  constructor
  · rintro ⟨key', inner, hfirst, hvalue, huser⟩
    rw [firstKey_unique h hfirst]
    exact ⟨inner, hvalue, huser⟩
  · rintro ⟨inner, hvalue, huser⟩
    exact ⟨key, inner, h, hvalue, huser⟩

/-- What stands under other keys than the first does not matter, as long as they are greater. -/
theorem names_congr_of_firstKey (h : IsFirstKey members key)
    (hvalue : lastValue members' key = lastValue members key)
    (hothers : ∀ k ∈ members'.map Prod.fst, ¬ Text.utf8 k < Text.utf8 key) :
    Names members' user ↔ Names members user := by
  have hfirst : IsFirstKey members' key := by
    refine ⟨lastValue_isSome_iff.mp ?_, hothers⟩
    rw [hvalue]
    exact lastValue_isSome_iff.mpr h.1
  rw [names_iff h, names_iff hfirst, hvalue]

theorem names_of_lastValue (h : ∀ k, lastValue members' k = lastValue members k)
    (hnames : Names members user) : Names members' user := by
  obtain ⟨key, inner, hfirst, hvalue, huser⟩ := hnames
  refine (names_congr_of_firstKey hfirst (h key) fun k hk => hfirst.2 k ?_).mpr
    ⟨key, inner, hfirst, hvalue, huser⟩
  rw [← lastValue_isSome_iff, ← h]
  exact lastValue_isSome_iff.mpr hk

theorem names_congr_of_lastValue (h : ∀ k, lastValue members' k = lastValue members k) :
    Names members' user ↔ Names members user :=
  ⟨names_of_lastValue fun k => (h k).symm, names_of_lastValue h⟩

/-- The members of one key decide on its value. -/
theorem lastValue_filter (members : List (String × Json)) (key : String) :
    lastValue (members.filter (·.1 == key)) key = lastValue members key := by
  unfold lastValue
  rw [← List.filter_reverse]
  exact @Json.lookup_filter _ _ (· == key) key (beq_self_eq_true key)

/-- The value of a key that is written once is the same wherever in the object it stands. -/
theorem lastValue_perm (h : members'.Perm members)
    (honce : (members.filter (·.1 == key)).length ≤ 1) :
    lastValue members' key = lastValue members key := by
  have hperm := h.filter (·.1 == key)
  have heq : members'.filter (·.1 == key) = members.filter (·.1 == key) := by
    generalize members.filter (·.1 == key) = written at hperm honce
    match written, honce with
    | [], _ => exact List.perm_nil.mp hperm
    | [_], _ => exact List.perm_singleton.mp hperm
  rw [← lastValue_filter members', heq, lastValue_filter]

/-! ## The file -/

theorem text?_utf8 (text : String) : (File.bytes text.toUTF8).text? = some text := by
  unfold File.text? String.fromUTF8?
  exact dif_pos (show text.toUTF8.IsValidUTF8 from text.isValidUTF8)

theorem text?_eq_none {content : ByteArray} (h : ∀ text : String, content ≠ text.toUTF8) :
    (File.bytes content).text? = none := by
  unfold File.text? String.fromUTF8?
  exact dif_neg fun hvalid => h (String.fromUTF8 content hvalid) rfl

theorem read_of_not_obj (h : ∀ members, Json.parse? text ≠ some (.obj members)) :
    read (.bytes text.toUTF8) = (none, [.legacyIgnored]) := by
  have hmembers : members? text = none := by
    unfold members?
    split
    · rename_i members heq
      exact absurd heq (h members)
    · rfl
  unfold read
  rw [text?_utf8]
  simp only [hmembers]

theorem read_of_obj (h : Json.parse? text = some (.obj members)) :
    read (.bytes text.toUTF8) = (firstUsername (entries members), []) := by
  unfold read members?
  rw [text?_utf8]
  simp only [h]

/-- Files that name the same usernames are read alike. -/
theorem read_congr (h : Json.parse? text = some (.obj members))
    (h' : Json.parse? text' = some (.obj members'))
    (hnames : ∀ user, Names members' user ↔ Names members user) :
    read (.bytes text'.toUTF8) = read (.bytes text.toUTF8) := by
  rw [read_of_obj h, read_of_obj h']
  congr 1
  ext user
  rw [firstUsername_entries, firstUsername_entries, hnames]

/-- A file that cannot be read or is not UTF-8 holds no username, and nothing is noted. Where its
text is no object, that is noted in one line for debugging. Where it is one, the username is the
text called so in the object under the first key. Files with the same value for every key are read
alike, and so are files with the same members in another order, if the last of equal keys stays the
last, and files that differ under greater keys than the first. -/
theorem a_legacy_file_is_read_by_its_first_key :
    read .unreadable = (none, []) ∧
    (∀ content : ByteArray, (∀ text : String, content ≠ text.toUTF8) →
      read (.bytes content) = (none, [])) ∧
    (∀ text : String, (∀ members, Json.parse? text ≠ some (.obj members)) →
      ∃ line : Notice, line.level = .debug ∧ read (.bytes text.toUTF8) = (none, [line])) ∧
    ∀ (text : String) members, Json.parse? text = some (.obj members) →
      (read (.bytes text.toUTF8)).2 = [] ∧
      (∀ user, (read (.bytes text.toUTF8)).1 = some user ↔ Names members user) ∧
      ∀ (text' : String) members', Json.parse? text' = some (.obj members') →
        ((∀ key, lastValue members' key = lastValue members key) ∨
          (members'.Perm members ∧ ∀ key, 1 < (members.filter (·.1 == key)).length →
            lastValue members' key = lastValue members key) ∨
          (∃ key, IsFirstKey members key ∧ lastValue members' key = lastValue members key ∧
            ∀ k ∈ members'.map Prod.fst, ¬ Text.utf8 k < Text.utf8 key)) →
        read (.bytes text'.toUTF8) = read (.bytes text.toUTF8) := by
  refine ⟨rfl, fun content h => ?_, fun text h => ⟨.legacyIgnored, rfl, read_of_not_obj h⟩,
    fun text members h => ⟨by rw [read_of_obj h], fun user => ?_, ?_⟩⟩
  · unfold read
    rw [text?_eq_none h]
  · rw [read_of_obj h]
    exact firstUsername_entries
  · rintro text' members' h' (hsame | ⟨hperm, hlast⟩ | ⟨key, hfirst, hvalue, hothers⟩)
    · exact read_congr h h' fun _ => names_congr_of_lastValue hsame
    · refine read_congr h h' fun _ => names_congr_of_lastValue fun key => ?_
      rcases Nat.lt_or_ge 1 (members.filter (·.1 == key)).length with hmany | honce
      · exact hlast key hmany
      · exact lastValue_perm hperm honce
    · exact read_congr h h' fun _ => names_congr_of_firstKey hfirst hvalue hothers

theorem a_legacy_file_is_read_by_its_first_key_wherever_it_stands :
    read (.bytes ⟨#[0x7b, 0xff, 0x7d]⟩) = (none, []) ∧
    (∃ line : Notice, line.level = .debug ∧ read (.bytes "[1]".toUTF8) = (none, [line])) ∧
    (read (.bytes "\x7b\"b\":1,\"a\":\x7b\"username\":\"u\"\x7d\x7d".toUTF8)).1 = some "u" ∧
    read (.bytes "\x7b\"a\":\x7b\"username\":\"u\"\x7d,\"b\":1\x7d".toUTF8) =
      read (.bytes "\x7b\"b\":1,\"a\":\x7b\"username\":\"u\"\x7d\x7d".toUTF8) := by
  obtain ⟨_, hbytes, hother, hobject⟩ := a_legacy_file_is_read_by_its_first_key
  have hvalid : ¬ ByteArray.IsValidUTF8 ⟨#[0x7b, 0xff, 0x7d]⟩ := by decide +kernel
  obtain ⟨_, hnames, hsame⟩ := hobject "\x7b\"b\":1,\"a\":\x7b\"username\":\"u\"\x7d\x7d"
    [("b", .int 1), ("a", .obj [("username", .str "u")])] rfl
  have hfirst : IsFirstKey [("b", .int 1), ("a", .obj [("username", .str "u")])] "a" := by
    refine ⟨by simp, fun k hk => ?_⟩
    rw [Text.utf8_lt_iff]
    revert k
    decide
  refine ⟨hbytes _ fun text heq => hvalid (heq ▸ text.isValidUTF8),
    hother "[1]" fun members h => ?_, (hnames "u").mpr ⟨"a", _, hfirst, rfl, rfl⟩,
    hsame _ [("a", .obj [("username", .str "u")]), ("b", .int 1)] rfl
      (Or.inr (Or.inl ⟨List.Perm.swap _ _ _, fun key hmany => ?_⟩))⟩
  · have hlist : Json.parse? "[1]" = some (.arr [.int 1]) := rfl
    simp [hlist] at h
  · -- Neither key is written twice.
    by_cases hb : "b" = key
    · subst hb
      exact absurd hmany (by decide)
    · by_cases ha : "a" = key
      · subst ha
        exact absurd hmany (by decide)
      · simp [hb, ha] at hmany

/-- Of equal keys the last counts, so they may not change places. -/
theorem equal_keys_may_not_change_places :
    ∃ (text text' : String) (members members' : List (String × Json)),
      text = "\x7b\"hue\":\x7b\"username\":\"new\"\x7d,\"hue\":\x7b\"username\":\"old\"\x7d\x7d" ∧
      text' = "\x7b\"hue\":\x7b\"username\":\"old\"\x7d,\"hue\":\x7b\"username\":\"new\"\x7d\x7d" ∧
      Json.parse? text = some (.obj members) ∧ Json.parse? text' = some (.obj members') ∧
      members'.Perm members ∧
      read (.bytes text.toUTF8) = (some "old", []) ∧
      read (.bytes text'.toUTF8) = (some "new", []) := by
  refine ⟨_, _, _, _, rfl, rfl, rfl, rfl, List.Perm.swap _ _ _, ?_, ?_⟩
  · rw [read_of_obj rfl]
    rfl
  · rw [read_of_obj rfl]
    rfl

end HueLink.LegacyCredentials
