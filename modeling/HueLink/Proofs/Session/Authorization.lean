-- How the authorization of a session ends: by a gated call that is answered that the username is
-- rejected, and by nothing else. What all uses did to the session is counted over their diaries, in
-- whatever order they took turns.
import HueLink.Proofs.Session.Chronicle

namespace HueLink

open Routine

/-! ## What deeds do to the authorization -/

namespace Routine.Deed

/-- The authorization ends with the deed. -/
def lowers : Deed Cell → Bool
  | event (.moved seen left) => seen.authorized && !left.authorized
  | event (.passed _) | event (.asked _ _) | event (.called _ _) | event (.calledBy _ _) | locked
  | told _ => false

/-- The deed does not authorize the session, and moves its state only to failed authentication. -/
def Tame : Deed Cell → Prop
  | event (.moved seen left) => left.available = seen.available ∧
    (left.authorized = true → seen.authorized = true) ∧
    (left.state = seen.state ∨ left.state = .authFailed)
  | event (.passed _) | event (.asked _ _) | event (.called _ _) | event (.calledBy _ _) | locked
  | told _ => True

/-- The deed leaves the session as `P` says. -/
def Leaves (P : Cell → Prop) (d : Deed Cell) : Prop :=
  ∃ seen left, d = event (.moved seen left) ∧ P left

end Routine.Deed

theorem Cell.Shuffles.standing {c c' : Cell} (h : c.Shuffles c') :
    c'.state = c.state ∧ c'.authorized = c.authorized ∧ c'.available = c.available := by
  cases h <;> exact ⟨rfl, rfl, rfl⟩

theorem tame_of_quiet {d : Deed Cell} (h : d.Quiet) : d.Tame := by
  rcases d with (⟨seen, left⟩ | _ | _ | _ | _) | _ | _
  case event.moved =>
    obtain ⟨hstate, hflag, havailable⟩ := Cell.Shuffles.standing h
    exact ⟨havailable, fun hleft => hflag ▸ hleft, Or.inl hstate⟩
  all_goals trivial

theorem lowers_of_quiet {d : Deed Cell} (h : d.Quiet) : d.lowers = false := by
  rcases d with (⟨seen, left⟩ | _ | _ | _ | _) | _ | _
  case event.moved =>
    obtain ⟨_, hflag, _⟩ := Cell.Shuffles.standing h
    simp only [Deed.lowers, hflag, Bool.and_not_self]
  all_goals rfl

namespace Session

/-- All that was asked. -/
def queries (ds : List (Deed Cell)) : List Query := ds.filterMap Deed.query?

/-- How often the authorization ended. -/
def lowerings (ds : List (Deed Cell)) : Nat := ds.countP Deed.lowers

/-- Beside each end of the authorization, one error was written to the log and one pairing asked
for. With `R` this is at most so, or exactly. -/
structure Tally (R : List Query → List Query → Prop) (s : Session) (ds : List (Deed Cell)) :
    Prop where
  graves : R ((queries ds).filter Query.isGrave)
    (.replicate (lowerings ds) (.note (.usernameRejected s.host)))
  relinks : R ((queries ds).filter Query.relinks)
    (.replicate (lowerings ds) (.startPairing s.host))

variable {α : Type} {s : Session} {client : Client} {start : Cell} {l l' : Ledger Cell}
  {ds ds' : List (Deed Cell)} {d : Deed Cell} {R : List Query → List Query → Prop}
  {complete : Bool} {rejected : List (Deed Cell) → Prop} {p : Routine Cell (Except BridgeError α)}

theorem tally_nil (hR : R [] []) : Tally R s [] := ⟨hR, hR⟩

theorem Tally.append (hR : ∀ a b a' b', R a b → R a' b' → R (a ++ a') (b ++ b'))
    (h : Tally R s ds) (h' : Tally R s ds') : Tally R s (ds ++ ds') := by
  have hlowerings : lowerings (ds ++ ds') = lowerings ds + lowerings ds' := List.countP_append ..
  have hqueries : queries (ds ++ ds') = queries ds ++ queries ds' := List.filterMap_append ..
  constructor
  · rw [hqueries, hlowerings, List.filter_append, ← List.replicate_append_replicate]
    exact hR _ _ _ _ h.graves h'.graves
  · rw [hqueries, hlowerings, List.filter_append, ← List.replicate_append_replicate]
    exact hR _ _ _ _ h.relinks h'.relinks

theorem Tally.sublist (h : Tally Eq s ds) : Tally List.Sublist s ds := by
  constructor
  · rw [h.graves]
  · rw [h.relinks]

/-! ## Quiet deeds, and what follows a rejection -/

theorem lowerings_of_quiet (h : ∀ d ∈ ds, d.Quiet) : lowerings ds = 0 :=
  List.countP_eq_zero.mpr fun d hd => by simp [lowers_of_quiet (h d hd)]

theorem tally_of_quiet (h : ∀ d ∈ ds, d.Quiet) : Tally Eq s ds := by
  have hsilent : ∀ q ∈ queries ds, q.isGrave = false ∧ q.relinks = false := by
    intro q hq
    obtain ⟨d, hd, hquery⟩ := List.mem_filterMap.mp hq
    have hquiet := h d hd
    rcases d with (_ | _ | _ | _ | _) | _ | _ <;> cases hquery
    exact hquiet
  constructor
  · rw [lowerings_of_quiet h]
    exact List.filter_eq_nil_iff.mpr fun q hq => by simp [(hsilent q hq).1]
  · rw [lowerings_of_quiet h]
    exact List.filter_eq_nil_iff.mpr fun q hq => by simp [(hsilent q hq).2]

theorem lowers_leave (t : Nat) (c : Cell) :
    Deed.lowers (.event (.moved c (giveUp t c))) = false := lowers_of_quiet (.leave t)

theorem lowers_lower (c : Cell) : (lower c).lowers = c.authorized := Bool.and_true _

theorem lowerings_first (t : Nat) (c : Cell) {c' : Cell} (c'' : Cell) (n : Nat)
    (hflag : c'.authorized = true) :
    lowerings ([.event (.moved c (giveUp t c)), lower c'] ++ (s.alarm c'').take n) = 1 := by
  have hrest : ∀ d ∈ (s.alarm c'').take n, d.lowers = false := by
    intro d hd
    have hd := List.mem_of_mem_take hd
    simp only [alarm, List.mem_cons, List.not_mem_nil, or_false] at hd
    rcases hd with rfl | rfl | rfl | rfl
    · rfl
    · rfl
    · exact Bool.and_not_self _
    · rfl
  have hnone : ((s.alarm c'').take n).countP Deed.lowers = 0 :=
    List.countP_eq_zero.mpr fun d hd => by simp [hrest d hd]
  simp only [lowerings, List.cons_append, List.nil_append, List.countP_cons, lowers_leave,
    lowers_lower, hflag, hnone, if_true, if_false, Bool.false_eq_true]

/-- Whoever ended the authorization writes one error and asks for one pairing. Nobody else who was
rejected does. -/
theorem Aftermath.tally (h : Aftermath s ds complete) :
    Tally List.Sublist s ds ∧ (complete = true → Tally Eq s ds) := by
  cases h with
  | begun => exact ⟨tally_nil (List.Sublist.refl _), fun _ => tally_nil rfl⟩
  | left t c =>
    have htally : Tally Eq s [.event (.moved c (giveUp t c))] :=
      tally_of_quiet (List.forall_mem_singleton.mpr (.leave t))
    exact ⟨htally.sublist, fun _ => htally⟩
  | @late t c c' hlowered =>
    have hnone : lowerings [.event (.moved c (giveUp t c)), lower c'] = 0 := by
      simp [lowerings, lowers_leave, lowers_lower, hlowered]
    have htally : Tally Eq s [.event (.moved c (giveUp t c)), lower c'] :=
      ⟨by rw [hnone]; rfl, by rw [hnone]; rfl⟩
    exact ⟨htally.sublist, fun _ => htally⟩
  | first t c c'' n hflag =>
    have hone := lowerings_first (s := s) t c c'' n hflag
    have hsub : (queries ((s.alarm c'').take n)).Sublist (queries (s.alarm c'')) :=
      (List.take_sublist n _).filterMap _
    refine ⟨⟨?_, ?_⟩, fun hcomplete => ?_⟩
    · rw [hone]
      exact hsub.filter Query.isGrave
    · rw [hone]
      exact hsub.filter Query.relinks
    · have hall : (s.alarm c'').take n = s.alarm c'' :=
        List.take_of_length_le (of_decide_eq_true hcomplete)
      constructor
      · rw [hone, hall]
        rfl
      · rw [hone, hall]
        rfl

theorem Aftermath.leaves (h : Aftermath s ds true) :
    (∃ d ∈ ds, d.Leaves (·.authorized = false)) ∧
      (0 < lowerings ds → ∃ d ∈ ds, d.Leaves (·.state = .authFailed)) := by
  generalize hcomplete : true = complete at h
  cases h with
  | begun | left => exact nomatch hcomplete
  | @late t c c' hlowered =>
    refine ⟨⟨lower c', by simp, _, _, rfl, rfl⟩, fun hpositive => ?_⟩
    simp [lowerings, lowers_leave, lowers_lower, hlowered] at hpositive
  | @first t c c' c'' n hflag =>
    have hall : (s.alarm c'').take n = s.alarm c'' :=
      List.take_of_length_le (of_decide_eq_true hcomplete.symm)
    rw [hall]
    refine ⟨⟨lower c', by simp, _, _, rfl, rfl⟩, fun _ => ?_⟩
    exact ⟨.event (.moved c'' { c'' with state := .authFailed }), by simp [alarm], _, _, rfl, rfl⟩

/-! ## What a use does to the authorization -/

theorem Conduct.tame (h : Conduct s rejected ds p) : ∀ d ∈ ds, d.Tame := by
  refine h.forall_mem (fun _ => tame_of_quiet) (fun c => ⟨rfl, fun h => (nomatch h), Or.inl rfl⟩) ?_
  intro c d hd
  simp only [alarm, List.mem_cons, List.not_mem_nil, or_false] at hd
  rcases hd with rfl | rfl | rfl | rfl
  · trivial
  · trivial
  · exact ⟨rfl, id, Or.inr rfl⟩
  · trivial

theorem Conduct.quiet_of_not (h : Conduct s rejected ds p) (hnot : ¬ rejected ds) :
    ∀ d ∈ ds, d.Quiet := by
  cases h with
  | quiet hquiet _ => exact hquiet
  | expelled t _ hrejected _ => exact absurd hrejected hnot

theorem Conduct.tally (h : Conduct s rejected ds p) : Tally List.Sublist s ds := by
  cases h with
  | quiet hquiet _ => exact (tally_of_quiet hquiet).sublist
  | expelled t hquiet _ hafter =>
    refine (tally_of_quiet hquiet).sublist.append (fun _ _ _ _ => List.Sublist.append) ?_
    rcases leads_expel hafter with ⟨haftermath, _⟩ | ⟨haftermath, _⟩
    · exact haftermath.tally.1
    · exact haftermath.tally.1

/-- A use that waits or is over owes nothing. If it was rejected it is over, and answers so. -/
theorem Conduct.settled (h : Conduct s rejected ds p) (hpauses : p.pauses .atWaits = true) :
    Tally Eq s ds ∧ (0 < lowerings ds → ∃ d ∈ ds, d.Leaves (·.state = .authFailed)) ∧
      (rejected ds → p = .done (.error .authenticationRequired) ∧
        ∃ d ∈ ds, d.Leaves (·.authorized = false)) := by
  cases h with
  | quiet hquiet hnot =>
    refine ⟨tally_of_quiet hquiet, fun hpositive => ?_, fun hrejected => absurd hrejected hnot⟩
    rw [lowerings_of_quiet hquiet] at hpositive
    exact absurd hpositive (Nat.lt_irrefl 0)
  | @expelled ds ds' _ t hquiet _ hafter =>
    rcases leads_expel hafter with ⟨haftermath, hdone⟩ | ⟨_, hgoes⟩
    · obtain ⟨⟨d, hd, hlowered⟩, hfailed⟩ := haftermath.leaves
      refine ⟨?_, fun hpositive => ?_, fun _ => ⟨hdone, d, List.mem_append_right ds hd, hlowered⟩⟩
      · refine (tally_of_quiet hquiet).append ?_ (haftermath.tally.2 rfl)
        rintro a b a' b' rfl rfl
        rfl
      · unfold lowerings at hpositive
        rw [List.countP_append, show ds.countP Deed.lowers = 0 from lowerings_of_quiet hquiet,
          Nat.zero_add] at hpositive
        obtain ⟨d, hd, hfailed⟩ := hfailed hpositive
        exact ⟨d, List.mem_append_right ds hd, hfailed⟩
    · rw [hgoes] at hpauses
      exact nomatch hpauses

/-! ## All uses together -/

/-- What a session has come to by these deeds, in whatever order they were done. -/
structure Tracks (l₀ l : Ledger Cell) (ds : List (Deed Cell)) : Prop where
  asked : l.asked.Perm (l₀.asked ++ queries ds)
  flag : lowerings ds = if l.cell.authorized then 0 else 1
  lowered : ∀ d ∈ ds, d.Leaves (·.authorized = false) → l.cell.authorized = false
  available : l.cell.available = l₀.cell.available

/-- What the state of an authorized session has come to by these deeds. -/
structure Marks (l : Ledger Cell) (ds : List (Deed Cell)) : Prop where
  failed : ∀ d ∈ ds, d.Leaves (·.state = .authFailed) → l.cell.state = .authFailed
  state : l.cell.state = .authorized ∨ ∃ d ∈ ds, ¬ d.Quiet

variable {l₀ : Ledger Cell}

theorem queries_cons (d : Deed Cell) (ds : List (Deed Cell)) :
    queries (d :: ds) = d.query?.toList ++ queries ds := by
  unfold queries
  cases hd : d.query? with
  | none => rw [List.filterMap_cons_none hd, Option.toList_none, List.nil_append]
  | some q => rw [List.filterMap_cons_some hd, Option.toList_some, List.singleton_append]

theorem Tracks.perm (h : Tracks l₀ l ds) (hperm : ds.Perm ds') : Tracks l₀ l ds' where
  asked := h.asked.trans ((hperm.filterMap _).append_left _)
  flag := (hperm.countP_eq _).symm.trans h.flag
  lowered d hd := h.lowered d (hperm.mem_iff.mpr hd)
  available := h.available

theorem Marks.perm (h : Marks l ds) (hperm : ds.Perm ds') : Marks l ds' where
  failed d hd := h.failed d (hperm.mem_iff.mpr hd)
  state := h.state.imp_right fun ⟨d, hd, hloud⟩ => ⟨d, hperm.mem_iff.mp hd, hloud⟩

theorem not_leaves {P : Cell → Prop} (h : ∀ seen left, d ≠ .event (.moved seen left)) :
    ¬ d.Leaves P := fun ⟨seen, left, heq, _⟩ => h seen left heq

theorem lowers_of_stays (h : ∀ seen left, d ≠ .event (.moved seen left)) : d.lowers = false := by
  rcases d with (⟨seen, left⟩ | _ | _ | _ | _) | _ | _
  case event.moved => exact absurd rfl (h seen left)
  all_goals rfl

theorem Tracks.move {left : Cell} (h : Tracks l₀ l ds)
    (htame : Deed.Tame (.event (.moved l.cell left))) :
    Tracks l₀ (l.write fun _ => left) (.event (.moved l.cell left) :: ds) := by
  obtain ⟨havailable, hflag, _⟩ := htame
  -- Nothing authorizes a session again.
  have hstays : l.cell.authorized = false → left.authorized = false := by
    intro hseen
    rw [Bool.eq_false_iff]
    intro hleft
    rw [hflag hleft] at hseen
    exact nomatch hseen
  constructor
  · exact h.asked
  · have hsum : lowerings (.event (.moved l.cell left) :: ds) =
        lowerings ds + if l.cell.authorized && !left.authorized then 1 else 0 := List.countP_cons
    rw [hsum, h.flag, Ledger.cell_write]
    cases hseen : l.cell.authorized with
    | true => cases left.authorized <;> rfl
    | false =>
      rw [hstays hseen]
      rfl
  · refine List.forall_mem_cons.mpr ⟨?_, fun d hd hleaves => ?_⟩
    · rintro ⟨_, _, ⟨⟩, hleft⟩
      exact hleft
    · exact hstays (h.lowered d hd hleaves)
  · exact havailable.trans h.available

theorem Marks.move {left : Cell} (h : Marks l ds)
    (htame : Deed.Tame (.event (.moved l.cell left))) :
    Marks (l.write fun _ => left) (.event (.moved l.cell left) :: ds) := by
  obtain ⟨_, _, hstate⟩ := htame
  constructor
  · refine List.forall_mem_cons.mpr ⟨?_, fun d hd hleaves => ?_⟩
    · rintro ⟨_, _, ⟨⟩, hleft⟩
      exact hleft
    · rcases hstate with hsame | hfailed
      · exact hsame.trans (h.failed d hd hleaves)
      · exact hfailed
  · rcases h.state with hauthorized | ⟨d, hd, hloud⟩
    · by_cases hsame : left.state = l.cell.state
      · exact Or.inl (hsame.trans hauthorized)
      · exact Or.inr ⟨_, List.mem_cons_self, fun hquiet => hsame (Cell.Shuffles.standing hquiet).1⟩
    · exact Or.inr ⟨d, List.mem_cons_of_mem _ hd, hloud⟩

theorem Tracks.act (h : Tracks l₀ l ds) (hon : d.On l l') (htame : d.Tame) :
    Tracks l₀ l' (d :: ds) := by
  rcases hon.cases with ⟨left, rfl, rfl⟩ | ⟨hstays, hcells, hasked⟩
  · exact h.move htame
  · have hcell : l'.cell = l.cell := (List.cons.inj hcells).1
    constructor
    · rw [hasked, queries_cons]
      refine (h.asked.append_right _).trans ?_
      rw [List.append_assoc]
      exact List.perm_append_comm.append_left _
    · rw [hcell, ← h.flag]
      exact List.countP_cons_of_neg (by rw [lowers_of_stays hstays]; decide)
    · rw [hcell]
      exact List.forall_mem_cons.mpr ⟨fun hd => absurd hd (not_leaves hstays), h.lowered⟩
    · rw [hcell, h.available]

theorem Marks.act (h : Marks l ds) (hon : d.On l l') (htame : d.Tame) : Marks l' (d :: ds) := by
  rcases hon.cases with ⟨left, rfl, rfl⟩ | ⟨hstays, hcells, _⟩
  · exact h.move htame
  · have hcell : l'.cell = l.cell := (List.cons.inj hcells).1
    constructor
    · rw [hcell]
      exact List.forall_mem_cons.mpr ⟨fun hd => absurd hd (not_leaves hstays), h.failed⟩
    · rw [hcell]
      exact h.state.imp_right fun ⟨d, hd, hloud⟩ => ⟨d, List.mem_cons_of_mem _ hd, hloud⟩

theorem giveUpAll_standing (tickets : List Nat) (c : Cell) :
    (giveUpAll tickets c).state = c.state ∧ (giveUpAll tickets c).authorized = c.authorized ∧
      (giveUpAll tickets c).available = c.available := by
  induction tickets with
  | nil => exact ⟨rfl, rfl, rfl⟩
  | cons t tickets ih => exact ih

theorem Tracks.drop (h : Tracks l₀ l ds) (tickets : List Nat) :
    Tracks l₀ (l.write (giveUpAll tickets)) ds := by
  obtain ⟨_, hflag, havailable⟩ := giveUpAll_standing tickets l.cell
  constructor
  · exact h.asked
  · rw [Ledger.cell_write, hflag]
    exact h.flag
  · rw [Ledger.cell_write, hflag]
    exact h.lowered
  · rw [Ledger.cell_write, havailable]
    exact h.available

theorem Marks.drop (h : Marks l ds) (tickets : List Nat) :
    Marks (l.write (giveUpAll tickets)) ds := by
  obtain ⟨hstate, _, _⟩ := giveUpAll_standing tickets l.cell
  constructor
  · rw [Ledger.cell_write, hstate]
    exact h.failed
  · rw [Ledger.cell_write, hstate]
    exact h.state

variable {ps : List Pursuit}

/-- All that the uses have done, one use after another. -/
def deeds (ps : List Pursuit) : List (Deed Cell) := ps.flatMap Pursuit.diary

theorem mem_deeds : d ∈ deeds ps ↔ ∃ pursuit ∈ ps, d ∈ pursuit.diary := List.mem_flatMap

theorem tracks_of_chronicle (hstart : start.AtEase client) (h : s.Chronicle start l ps) :
    Tracks (.opened start) l (deeds ps) ∧ Marks l (deeds ps) := by
  induction h with
  | start =>
    refine ⟨⟨List.Perm.refl _, ?_, fun _ hd => (nomatch hd), rfl⟩, fun _ hd => (nomatch hd),
      Or.inl hstart.state⟩
    rw [show (Ledger.opened start).cell.authorized = true from hstart.flag]
    rfl
  | begin use _ _ ih =>
    unfold deeds
    rw [List.flatMap_append, List.flatMap_singleton, List.append_nil]
    exact ih
  | @act l l' before after use since p p' diary d h hdoes hon ih =>
    obtain ⟨_, hway⟩ := way_of_chronicle hstart (.act h hdoes hon) _
      (List.mem_append_right before List.mem_cons_self)
    have htame := hway.conduct.tame d (List.mem_append_right diary (List.mem_singleton_self d))
    have hold : deeds (before ++ ⟨use, since, some p, diary⟩ :: after) =
        (deeds before ++ diary) ++ deeds after := by simp [deeds]
    have hnew : deeds (before ++ ⟨use, since, some p', diary ++ [d]⟩ :: after) =
        (deeds before ++ diary) ++ d :: deeds after := by simp [deeds]
    rw [hold] at ih
    rw [hnew]
    exact ⟨(ih.1.act hon htame).perm List.perm_middle.symm,
      (ih.2.act hon htame).perm List.perm_middle.symm⟩
  | @drop l before after use since p diary undo h hundo ih =>
    obtain ⟨tickets, rfl⟩ := undo_of_chronicle hstart h hundo
    have hsame : deeds (before ++ ⟨use, since, none, diary⟩ :: after) =
        deeds (before ++ ⟨use, since, some p, diary⟩ :: after) := by
      simp only [deeds, List.flatMap_append, List.flatMap_cons]
    rw [hsame]
    exact ⟨ih.1.drop tickets, ih.2.drop tickets⟩

theorem tally_deeds (hnil : R [] [])
    (happend : ∀ a b a' b', R a b → R a' b' → R (a ++ a') (b ++ b'))
    (h : ∀ pursuit ∈ ps, Tally R s pursuit.diary) : Tally R s (deeds ps) := by
  induction ps with
  | nil => exact tally_nil hnil
  | cons pursuit ps ih =>
    obtain ⟨hfirst, hrest⟩ := List.forall_mem_cons.mp h
    exact hfirst.append happend (ih hrest)

theorem sublist_of_perm {f : Query → Bool} {asked qs : List Query} {n : Nat} {q : Query}
    (hperm : asked.Perm qs) (h : (qs.filter f).Sublist (.replicate n q)) :
    (asked.filter f).Sublist (.replicate n q) := by
  obtain ⟨m, hm, heq⟩ := List.sublist_replicate_iff.mp h
  have hfilter := hperm.filter f
  rw [heq, List.perm_replicate] at hfilter
  rw [hfilter]
  exact (List.replicate_sublist_replicate q).mpr hm

/-- At any moment, at most one error was written to the log and at most one pairing asked for, and
only if the authorization has ended. -/
theorem asked_at_most (hstart : start.AtEase client) (h : s.Chronicle start l ps) :
    (l.asked.filter Query.isGrave).Sublist
        (.replicate (lowerings (deeds ps)) (.note (.usernameRejected s.host))) ∧
      (l.asked.filter Query.relinks).Sublist
        (.replicate (lowerings (deeds ps)) (.startPairing s.host)) := by
  have hasked : l.asked.Perm (queries (deeds ps)) := (tracks_of_chronicle hstart h).1.asked
  have htally : Tally List.Sublist s (deeds ps) := by
    refine tally_deeds (List.Sublist.refl _) (fun _ _ _ _ => List.Sublist.append) ?_
    intro pursuit hmem
    obtain ⟨_, hway⟩ := way_of_chronicle hstart h pursuit hmem
    exact hway.conduct.tally
  exact ⟨sublist_of_perm hasked htally.graves, sublist_of_perm hasked htally.relinks⟩

/-- Without a rejection, all deeds are quiet. -/
theorem quiet_of_chronicle (hstart : start.AtEase client) (h : s.Chronicle start l ps)
    (hnone : ∀ pursuit ∈ ps, ¬ pursuit.Rejected client) : ∀ d ∈ deeds ps, d.Quiet := by
  intro d hd
  obtain ⟨pursuit, hmem, hd⟩ := mem_deeds.mp hd
  obtain ⟨_, hway⟩ := way_of_chronicle hstart h pursuit hmem
  exact hway.conduct.quiet_of_not (hnone pursuit hmem) d hd

/-- All uses go their ways, and wait or are over. -/
def AtRest (s : Session) (client : Client) (ps : List Pursuit) : Prop :=
  ∀ pursuit ∈ ps, ∃ p, Way s client pursuit p ∧ p.pauses .atWaits = true

theorem AtRest.tally (h : AtRest s client ps) : Tally Eq s (deeds ps) := by
  refine tally_deeds rfl (by rintro a b a' b' rfl rfl; rfl) fun pursuit hmem => ?_
  obtain ⟨p, hway, hpauses⟩ := h pursuit hmem
  exact (hway.conduct.settled hpauses).1

theorem AtRest.lowered (h : AtRest s client ps)
    (hrejected : ∃ pursuit ∈ ps, pursuit.Rejected client) :
    ∃ d ∈ deeds ps, d.Leaves (·.authorized = false) := by
  obtain ⟨pursuit, hmem, hrejected⟩ := hrejected
  obtain ⟨p, hway, hpauses⟩ := h pursuit hmem
  obtain ⟨_, _, hlowered⟩ := hway.conduct.settled hpauses
  obtain ⟨_, d, hd, hleaves⟩ := hlowered hrejected
  exact ⟨d, mem_deeds.mpr ⟨pursuit, hmem, hd⟩, hleaves⟩

/-- Whoever ended the authorization also moved the state. -/
theorem AtRest.failed (h : AtRest s client ps) (hlowerings : 0 < lowerings (deeds ps)) :
    ∃ d ∈ deeds ps, d.Leaves (·.state = .authFailed) := by
  obtain ⟨d, hd, hlowers⟩ := List.countP_pos_iff.mp hlowerings
  obtain ⟨pursuit, hmem, hd⟩ := mem_deeds.mp hd
  obtain ⟨p, hway, hpauses⟩ := h pursuit hmem
  obtain ⟨_, hfailed, _⟩ := hway.conduct.settled hpauses
  obtain ⟨d, hd, hleaves⟩ := hfailed (List.countP_pos_iff.mpr ⟨d, hd, hlowers⟩)
  exact ⟨d, mem_deeds.mpr ⟨pursuit, hmem, hd⟩, hleaves⟩

/-- When all uses wait or are over, nothing is owed, and a rejection has ended the authorization. -/
theorem settled_of_rests (hstart : start.AtEase client) (h : s.Chronicle start l ps)
    (hrests : ∀ pursuit ∈ ps, pursuit.Rests) (hrejected : ∃ pursuit ∈ ps, pursuit.Rejected client) :
    l.cell.state = .authFailed ∧ l.cell.authorized = false ∧
      l.asked.filter Query.isGrave = [.note (.usernameRejected s.host)] ∧
      l.asked.filter Query.relinks = [.startPairing s.host] := by
  obtain ⟨htracks, hmarks⟩ := tracks_of_chronicle hstart h
  have hrest : AtRest s client ps := by
    intro pursuit hmem
    obtain ⟨p, hway⟩ := way_of_chronicle hstart h pursuit hmem
    exact ⟨p, hway, hway.pauses (hrests pursuit hmem)⟩
  have hflag : l.cell.authorized = false := by
    obtain ⟨d, hd, hleaves⟩ := hrest.lowered hrejected
    exact htracks.lowered d hd hleaves
  have hone : lowerings (deeds ps) = 1 := by
    rw [htracks.flag, hflag]
    rfl
  have hstate : l.cell.state = .authFailed := by
    obtain ⟨d, hd, hleaves⟩ := hrest.failed (hone ▸ Nat.one_pos)
    exact hmarks.failed d hd hleaves
  have hasked : l.asked.Perm (queries (deeds ps)) := htracks.asked
  refine ⟨hstate, hflag, ?_, ?_⟩
  · have hperm := hasked.filter Query.isGrave
    rw [hrest.tally.graves, hone, List.perm_replicate] at hperm
    exact hperm
  · have hperm := hasked.filter Query.relinks
    rw [hrest.tally.relinks, hone, List.perm_replicate] at hperm
    exact hperm

/-- What a use that waits or is over answers, if it is a call. -/
theorem call_answers (hstart : start.AtEase client) (h : s.Chronicle start l ps)
    {work : Client → Routine Cell (Except Fault α)} {since : Cell}
    {rest : Option (Routine Cell (Except BridgeError α))} {diary : List (Deed Cell)}
    (hmem : ⟨.call work, since, rest, diary⟩ ∈ ps)
    (hrests : Pursuit.Rests ⟨.call work, since, rest, diary⟩)
    (r : Except BridgeError α) : rest = some (.done r) ↔
      ∃ a, Heard client work diary a ∧ r = a.mapError Fault.classify := by
  obtain ⟨p, hway⟩ := way_of_chronicle hstart h _ hmem
  rw [show rest = some (.done r) ↔ p = .done r from hway.done_iff r]
  exact (leads_callApi hway.leads hway.finds).answers (hway.pauses hrests) r

/-- With a free slot, a call can come to every answer that its work can end with. -/
theorem call_can_answer (h : s.Chronicle start l ps)
    {work : Client → Routine Cell (Except Fault α)} (hmild : (Use.call work).Mild)
    (hidle : l.cell.Idle client) {during : List (Deed Cell)} {a : Except Fault α}
    (hends : Leads (work client) during (.done a)) : ∃ l' diary, Heard client work diary a ∧
      s.Chronicle start l'
        (ps ++ [⟨.call work, l.cell, some (.done (a.mapError Fault.classify)), diary⟩]) := by
  obtain ⟨ds, l', hgoes, hheard⟩ := @goes_answered _ s _ _ _ _ _ hidle (hmild client).1 hends
  exact ⟨l', ds, hheard, (Chronicle.begin (.call work) h hmild).goes hgoes⟩

theorem recall_answers (hstart : start.AtEase client) (h : s.Chronicle start l ps)
    {groupName sceneName : String} {since : Cell} {r : Except BridgeError Unit}
    {diary : List (Deed Cell)}
    (hmem : ⟨.scene groupName sceneName, since, some (.done r), diary⟩ ∈ ps) :
    ∃ a, Recalls client groupName sceneName (calls (diary.filterMap Deed.event?))
      (warnings (diary.filterMap Deed.event?)) a ∧ r = a.mapError Fault.classify := by
  obtain ⟨p, hway⟩ := way_of_chronicle hstart h _ hmem
  obtain rfl : p = .done r := (hway.done_iff r).mp rfl
  obtain ⟨c, hpassage⟩ := hway.leads.passage
    (fun d hd seen hseen _ => hway.finds d hd seen hseen : ∀ d ∈ diary, ∀ seen,
      d.seen? = some seen → ∀ c, Steadily client c seen) start
  obtain ⟨a, made, lines, hrecalls, hshows, hr⟩ := passage_activateNamedScene hpassage
  rw [← hshows.calls, ← hshows.warnings] at hrecalls
  exact ⟨a, hrecalls, hr⟩

/-- Beside its gate, a use changes at most the state and the flag of a session. -/
theorem cell_of_chronicle (hstart : start.AtEase client) (h : s.Chronicle start l ps) :
    ∃ gate, l.cell = { (start.mapGate fun _ => gate) with
      state := l.cell.state, authorized := l.cell.authorized } := by
  obtain ⟨gate, hready, _⟩ := ready_of_chronicle hstart h
  have havailable := (tracks_of_chronicle hstart h).1.available
  refine ⟨gate, ?_⟩
  dsimp only
  rw [← hready]
  rcases hcell : l.cell with ⟨state, ready, available, authorized⟩
  rw [hcell] at havailable
  exact congrArg (Cell.mk state ready · authorized) havailable

/-- Without a rejection, the session is as before but for its gate. -/
theorem unchanged_of_chronicle (hstart : start.AtEase client) (h : s.Chronicle start l ps)
    (hnone : ∀ pursuit ∈ ps, ¬ pursuit.Rejected client) :
    (∃ gate, l.cell = start.mapGate fun _ => gate) ∧
      l.asked.filter Query.isGrave = [] ∧ l.asked.filter Query.relinks = [] := by
  obtain ⟨htracks, hmarks⟩ := tracks_of_chronicle hstart h
  have hquiet := quiet_of_chronicle hstart h hnone
  have hzero := lowerings_of_quiet hquiet
  have hstate : l.cell.state = .authorized :=
    hmarks.state.resolve_right fun ⟨d, hd, hloud⟩ => hloud (hquiet d hd)
  have hflag : l.cell.authorized = true := by
    by_contra hlowered
    have hcount := htracks.flag
    rw [hzero, if_neg hlowered] at hcount
    exact absurd hcount (by decide)
  obtain ⟨gate, hcell⟩ := cell_of_chronicle hstart h
  obtain ⟨hgraves, hrelinks⟩ := asked_at_most hstart h
  rw [hzero] at hgraves hrelinks
  rw [hstate, hflag, ← hstart.state, ← hstart.flag] at hcell
  exact ⟨⟨gate, hcell⟩, List.sublist_nil.mp hgraves, List.sublist_nil.mp hrelinks⟩

end Session

open Session in
/-- However calls to the bridge and recalls of scenes overlap on an authorized session, wherever
they are interrupted or given up, a call answers what its work ended with and a recall what its
calls come to, with faults classified; a call that finds a free slot can come to every answer of
its work. Only a gated call that is answered that the username is
rejected ends the authorization: then one error is written and one pairing asked for, however many
calls were rejected, and each of them answers that authentication is required. Without a rejection
nothing changes but what passes the gate, and once all is over all slots are free again. -/
theorem only_a_rejection_ends_the_authorization (s : Session) :
    (∀ x, Reached .atWaits s.Usage Cell.fresh x → x.cell.state = .authorized →
      (∀ task ∈ x.tasks, task.isOver = true) → ∃ client, x.cell.AtEase client) ∧
    (∀ sw start x, Reached sw s.Busy start x → ∃ ps, s.Chronicle start x.ledger ps ∧
      ps.map (Pursuit.task s) = x.tasks ∧ (sw = .atWaits → ∀ pursuit ∈ ps, pursuit.Rests)) ∧
    ∀ client start l ps, start.AtEase client → s.Chronicle start l ps →
      (∀ (α : Type) (work : Client → Routine Cell (Except Fault α)) since rest diary,
        ⟨.call work, since, rest, diary⟩ ∈ ps → Pursuit.Rests ⟨.call work, since, rest, diary⟩ →
        ∀ r, rest = some (.done r) ↔
          ∃ a, Heard client work diary a ∧ r = a.mapError Fault.classify) ∧
      (∀ (α : Type) (work : Client → Routine Cell (Except Fault α)) during a,
        (Use.call work).Mild → l.cell.Idle client → Leads (work client) during (.done a) →
        ∃ l' diary, Heard client work diary a ∧ s.Chronicle start l'
          (ps ++ [⟨.call work, l.cell, some (.done (a.mapError Fault.classify)), diary⟩])) ∧
      (∀ groupName sceneName since r diary,
        ⟨.scene groupName sceneName, since, some (.done r), diary⟩ ∈ ps →
        ∃ a, Recalls client groupName sceneName (calls (diary.filterMap Deed.event?))
          (warnings (diary.filterMap Deed.event?)) a ∧ r = a.mapError Fault.classify) ∧
      (∀ pursuit ∈ ps, (¬ pursuit.Rejected client → ∀ d ∈ pursuit.diary, d.Quiet) ∧
        (pursuit.Rejected client → pursuit.Rests →
          pursuit.rest = some (.done (.error .authenticationRequired)))) ∧
      ((l.asked.filter Query.isGrave).Sublist [.note (.usernameRejected s.host)] ∧
        (l.asked.filter Query.relinks).Sublist [.startPairing s.host]) ∧
      ((∀ pursuit ∈ ps, ¬ pursuit.Rejected client) →
        (∃ gate, l.cell = start.mapGate fun _ => gate) ∧
        l.asked.filter Query.isGrave = [] ∧ l.asked.filter Query.relinks = []) ∧
      ((∀ pursuit ∈ ps, pursuit.Rests) → (∃ pursuit ∈ ps, pursuit.Rejected client) →
        (∃ gate, l.cell =
          { (start.mapGate fun _ => gate) with state := .authFailed, authorized := false }) ∧
        l.asked.filter Query.isGrave = [.note (.usernameRejected s.host)] ∧
        l.asked.filter Query.relinks = [.startPairing s.host]) ∧
      (∃ held, Account ⟨l, ps.map (Pursuit.task s)⟩ held ∧
        ∀ h ∈ held, h.1.isOver = true → h.2 = ⟨[], []⟩) ∧
      ((∀ pursuit ∈ ps, (pursuit.task s).isOver = true) →
        ∃ next, l.cell.gate? = start.gate?.map fun gate => { gate with next }) := by
  refine ⟨fun x => atEase_of_reached, ?_, ?_⟩
  · intro sw start x hx
    obtain ⟨ps, hps, htasks⟩ := chronicle_of_reached hx.anywhere
    refine ⟨ps, hps, htasks, ?_⟩
    rintro rfl pursuit hmem p hp
    have htask : pursuit.task s ∈ x.tasks := htasks ▸ List.mem_map_of_mem hmem
    exact paused_of_reached hx _ htask p hp
  · intro client start l ps hstart h
    refine ⟨fun α work since rest diary hmem hrests => call_answers hstart h hmem hrests,
      fun α work during a hmild hidle => call_can_answer h hmild hidle,
      fun groupName sceneName since r diary => recall_answers hstart h, ?_, ?_,
      unchanged_of_chronicle hstart h, ?_, ?_, gate_of_over hstart h⟩
    · intro pursuit hmem
      obtain ⟨p, hway⟩ := way_of_chronicle hstart h pursuit hmem
      refine ⟨hway.conduct.quiet_of_not, fun hrejected hrests => ?_⟩
      obtain ⟨_, _, hexpelled⟩ := hway.conduct.settled (hway.pauses hrests)
      exact (hway.done_iff _).mpr (hexpelled hrejected).1
    · obtain ⟨hgraves, hrelinks⟩ := asked_at_most hstart h
      have hfew : lowerings (deeds ps) ≤ 1 := by
        rw [(tracks_of_chronicle hstart h).1.flag]
        split <;> decide
      exact ⟨hgraves.trans ((List.replicate_sublist_replicate _).mpr hfew),
        hrelinks.trans ((List.replicate_sublist_replicate _).mpr hfew)⟩
    · intro hrests hrejected
      obtain ⟨hstate, hflag, hone⟩ := settled_of_rests hstart h hrests hrejected
      obtain ⟨gate, hcell⟩ := cell_of_chronicle hstart h
      rw [hstate, hflag] at hcell
      exact ⟨⟨gate, hcell⟩, hone⟩
    · obtain ⟨held, haccount, _⟩ := account_of_chronicle hstart h
      exact ⟨held, haccount, fun h hmem => slots_of_over (haccount.stands h hmem)⟩

/-! ## Two rejections at once -/

def loadGroups (client : Client) : Routine Cell (Except Fault Unit) :=
  Routine.request (.updateGroups client)

theorem mild_loadGroups : (Use.call loadGroups).Mild :=
  fun client => ⟨outward_request (.updateGroups client), fun _ => trivial⟩

theorem atEase_guestCell : Session.guestCell.AtEase ⟨0⟩ :=
  ⟨rfl, rfl, guestConfig, 10, 0, by decide, rfl⟩

/-- The session after two calls through its gate that were both rejected. -/
def rejectedGuest : Cell :=
  ⟨.authFailed, some { guestReady with gate := ⟨10, [], [], false, 2⟩ }, true, false⟩

/-- Any use that answers that authentication is required. -/
def Use.turnedAway (use : Use) (diary : List (Deed Cell)) : Pursuit :=
  ⟨use, Session.guestCell, some (.done (.error .authenticationRequired)), diary⟩

open Session in
/-- Two calls are rejected, and a recall hears the same fault in answer to a read of what the client
last loaded. -/
theorem chronicle_of_two_rejections : ∃ past asked first second third,
    guestSession.Chronicle guestCell ⟨rejectedGuest, past, asked⟩
      [(Use.call loadGroups).turnedAway first, (Use.call loadGroups).turnedAway second,
        (Use.scene "Hall" "Bright").turnedAway third] ∧
      Heard ⟨0⟩ loadGroups first (.error .unauthorized) ∧
      Heard ⟨0⟩ loadGroups second (.error .unauthorized) ∧ ¬ HasRefusal third := by
  have h : guestSession.Chronicle guestCell _ [_, _, _] :=
    .begin (.scene "Hall" "Bright")
      (.begin (.call loadGroups) (.begin (.call loadGroups) .start mild_loadGroups) mild_loadGroups)
      trivial
  -- Both calls have a slot before the first one has its answer.
  have h := @Chronicle.act _ _ _ _ [] [_, _] _ _ _ _ _ _ h (.own _ _ _) ⟨rfl, rfl⟩
  have h := @Chronicle.act _ _ _ _ [] [_, _] _ _ _ _ _ _ h (.own _ _ _) ⟨rfl, rfl⟩
  have h := @Chronicle.act _ _ _ _ [] [_, _] _ _ _ _ _ _ h (.await _ _ rfl) ⟨rfl, rfl⟩
  have h := @Chronicle.act _ _ _ _ [_] [_] _ _ _ _ _ _ h (.own _ _ _) ⟨rfl, rfl⟩
  have h := @Chronicle.act _ _ _ _ [_] [_] _ _ _ _ _ _ h (.own _ _ _) ⟨rfl, rfl⟩
  have h := @Chronicle.act _ _ _ _ [_] [_] _ _ _ _ _ _ h (.await _ _ rfl) ⟨rfl, rfl⟩
  have h := @Chronicle.act _ _ _ _ [] [_, _] _ _ _ _ _ _ h
    (.call _ (.updateGroups _) _ (.error .unauthorized : Except Fault Unit)) rfl
  have h := @Chronicle.act _ _ _ _ [_] [_] _ _ _ _ _ _ h
    (.call _ (.updateGroups _) _ (.error .unauthorized : Except Fault Unit)) rfl
  have h := @Chronicle.act _ _ _ _ [_, _] [] _ _ _ _ _ _ h (.own _ _ _) ⟨rfl, rfl⟩
  have h := @Chronicle.act _ _ _ _ [_, _] [] _ _ _ _ _ _ h
    (.call _ (.groups _) _ (.error .unauthorized : Except Fault (List Group))) rfl
  -- Both give back their slots and end the authorization. The second one is too late to do more.
  have h := @Chronicle.act _ _ _ _ [] [_, _] _ _ _ _ _ _ h (.own _ _ _) ⟨rfl, rfl⟩
  have h := @Chronicle.act _ _ _ _ [] [_, _] _ _ _ _ _ _ h (.own _ _ _) ⟨rfl, rfl⟩
  have h := @Chronicle.act _ _ _ _ [_] [_] _ _ _ _ _ _ h (.own _ _ _) ⟨rfl, rfl⟩
  have h := @Chronicle.act _ _ _ _ [_] [_] _ _ _ _ _ _ h (.own _ _ _) ⟨rfl, rfl⟩
  have h := @Chronicle.act _ _ _ _ [] [_, _] _ _ _ _ _ _ h (.ask (.note _) _ ()) rfl
  have h := @Chronicle.act _ _ _ _ [] [_, _] _ _ _ _ _ _ h (.lock _) rfl
  have h := @Chronicle.act _ _ _ _ [] [_, _] _ _ _ _ _ _ h (.own _ _ _) ⟨rfl, rfl⟩
  have h := @Chronicle.act _ _ _ _ [] [_, _] _ _ _ _ _ _ h (.ask (.startPairing _) _ ()) rfl
  refine ⟨_, _, _, _, _, h, ?_, ?_, ?_⟩
  · exact ⟨_, _, _, [_], _, rfl, .head (.call _ (.updateGroups _) _ _) (.refl _)⟩
  · exact ⟨_, _, _, [_], _, rfl, .head (.call _ (.updateGroups _) _ _) (.refl _)⟩
  · simp [HasRefusal, Deed.isRefusal]

open Session in
theorem only_a_rejection_ends_the_authorization_of_a_guest : ∃ x l first second third,
    Reached .atWaits guestSession.Usage Cell.fresh x ∧ x.cell = guestCell ∧
    (∃ client, x.cell.AtEase client) ∧
    guestSession.Chronicle guestCell l
      [(Use.call loadGroups).turnedAway first, (Use.call loadGroups).turnedAway second,
        (Use.scene "Hall" "Bright").turnedAway third] ∧
    (∃ a, Heard ⟨0⟩ loadGroups first a ∧
      (.error .authenticationRequired : Except BridgeError Unit) = a.mapError Fault.classify) ∧
    (∃ a, Recalls ⟨0⟩ "Hall" "Bright" (calls (third.filterMap Deed.event?))
      (warnings (third.filterMap Deed.event?)) a ∧
      (.error .authenticationRequired : Except BridgeError Unit) = a.mapError Fault.classify) ∧
    (∀ d ∈ third, d.Quiet) ∧
    l.cell = { (guestCell.mapGate fun gate => { gate with next := 2 }) with
      state := .authFailed, authorized := false } ∧
    l.asked.filter Query.isGrave = [.note (.usernameRejected "192.168.1.2")] ∧
    l.asked.filter Query.relinks = [.startPairing "192.168.1.2"] ∧
    (∃ next, l.cell.gate? = some ⟨10, [], [], false, next⟩) ∧
    ∃ l' diary, Heard ⟨0⟩ loadGroups diary (.ok ()) ∧ guestSession.Chronicle guestCell l'
      [⟨.call loadGroups, guestCell, some (.done (.ok ())), diary⟩] := by
  obtain ⟨past, asked, hloaded⟩ := reached_loaded
  obtain ⟨past', asked', first, second, third, h, hfirst, hsecond, hthird⟩ :=
    chronicle_of_two_rejections
  obtain ⟨hatEase, _, hlaws⟩ := only_a_rejection_ends_the_authorization guestSession
  obtain ⟨hcalls, _, hrecalls, heach, _, _, hrejected, _, hover⟩ :=
    hlaws ⟨0⟩ guestCell _ _ atEase_guestCell h
  obtain ⟨_, hanswers, _⟩ := hlaws ⟨0⟩ guestCell _ _ atEase_guestCell .start
  have hturned : ∀ use diary, (Use.turnedAway use diary).Rests ∧
      ((Use.turnedAway use diary).task guestSession).isOver = true := by
    refine fun use diary => ⟨?_, rfl⟩
    rintro p ⟨⟩
    rfl
  have hall : ∀ pursuit ∈ [(Use.call loadGroups).turnedAway first,
      (Use.call loadGroups).turnedAway second, (Use.scene "Hall" "Bright").turnedAway third],
      pursuit.Rests ∧ (pursuit.task guestSession).isOver = true := by
    intro pursuit hmem
    simp only [List.mem_cons, List.not_mem_nil, or_false] at hmem
    rcases hmem with rfl | rfl | rfl <;> exact hturned _ _
  obtain ⟨_, hgraves, hrelinks⟩ := hrejected (fun pursuit hmem => (hall pursuit hmem).1)
    ⟨_, List.mem_cons_self, hfirst⟩
  refine ⟨_, _, first, second, third, hloaded, rfl, hatEase _ hloaded rfl ?_, h, ?_, ?_, ?_, rfl,
    hgraves, hrelinks, hover fun pursuit hmem => (hall pursuit hmem).2,
    hanswers Unit loadGroups _ (.ok ()) mild_loadGroups ?_
      (.head (.call _ (.updateGroups _) _ (.ok () : Except Fault Unit)) (.refl _))⟩
  · exact List.forall_mem_singleton.mpr rfl
  · have hrests := (hturned (.call loadGroups) first).1
    exact (hcalls Unit loadGroups _ _ _ List.mem_cons_self hrests _).mp rfl
  · exact hrecalls "Hall" "Bright" guestCell _ third (by simp [Use.turnedAway])
  · exact (heach ((Use.scene "Hall" "Bright").turnedAway third) (by simp)).1 hthird
  · exact ⟨guestReady, rfl, rfl, rfl, rfl, by decide⟩

end HueLink
