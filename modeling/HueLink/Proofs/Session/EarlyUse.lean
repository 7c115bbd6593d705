-- How the authorization of a session ends that is used while its setup is still at work. A
-- rejection ends it and has the bridge paired again, but it may come to the lock of the session
-- before the setup does, and then the setup writes its own state over the failure.
import HueLink.Proofs.Session.Authorization
import HueLink.Proofs.Session.Opening
import HueLink.Proofs.Session.Preparation

namespace HueLink

open Routine

namespace Session

variable {α : Type} {s : Session} {client : Client} {l l' l₀ l₁ : Ledger Cell}
  {rest : Option (Routine Cell SetupOutcome)} {ps before after : List Pursuit} {use : Use}
  {since : Cell} {p p₁ p' : Routine Cell (Except BridgeError use.Value)}
  {diary ds ds' : List (Deed Cell)} {d : Deed Cell}

/-! ## Changes of the state -/

/-- The deed changes the state of the session. -/
def changes : Deed Cell → Bool
  | .event (.moved seen left) => decide (left.state ≠ seen.state)
  | .event (.passed _) | .event (.asked _ _) | .event (.called _ _) | .event (.calledBy _ _)
  | .locked | .told _ => false

theorem changes_of_quiet (hd : d.Quiet) : changes d = false := by
  rcases d with (⟨seen, left⟩ | _ | _ | _ | _) | _ | _
  case event.moved => exact decide_eq_false (not_not_intro (Cell.Shuffles.standing hd).1)
  all_goals rfl

theorem changes_of_stays (h : ∀ seen left, d ≠ .event (.moved seen left)) : changes d = false := by
  rcases d with (⟨seen, left⟩ | _ | _ | _ | _) | _ | _
  case event.moved => exact absurd rfl (h seen left)
  all_goals rfl

theorem countP_changes_of_quiet (h : ∀ d ∈ ds, d.Quiet) : ds.countP changes = 0 :=
  List.countP_eq_zero.mpr fun d hd => by simp [changes_of_quiet (h d hd)]

theorem Aftermath.countP_changes_le {complete : Bool} (h : Aftermath s ds complete) :
    ds.countP changes ≤ lowerings ds := by
  have hleft : ∀ t c, changes (.event (.moved c (giveUp t c))) = false :=
    fun t c => changes_of_quiet (.leave t)
  have hlower : ∀ c, changes (lower c) = false := fun c => decide_eq_false (not_not_intro rfl)
  cases h with
  | begun => exact Nat.zero_le _
  | left t c => simp [hleft]
  | late t c _ => simp [hleft, hlower]
  | first t c c'' n hflag =>
    rw [lowerings_first t c c'' n hflag]
    have htake : ((s.alarm c'').take n).countP changes ≤ (s.alarm c'').countP changes :=
      (List.take_sublist n _).countP_le
    have halarm : (s.alarm c'').countP changes ≤ 1 := by
      simp only [alarm, List.countP_cons, List.countP_nil, changes, if_false, Bool.false_eq_true]
      by_cases hsame : SessionState.authFailed ≠ c''.state <;> simp [hsame]
    simp only [List.cons_append, List.nil_append, List.countP_cons, hleft, hlower, if_false,
      Bool.false_eq_true, Nat.add_zero]
    exact htake.trans halarm

/-- Whoever changes the state has ended the authorization before. -/
theorem Conduct.countP_changes_le {rejected : List (Deed Cell) → Prop}
    {q : Routine Cell (Except BridgeError α)} (h : Conduct s rejected ds q) :
    ds.countP changes ≤ lowerings ds := by
  cases h with
  | quiet hquiet _ => rw [countP_changes_of_quiet hquiet]; exact Nat.zero_le _
  | @expelled ds ds' _ t hquiet _ hafter =>
    have hrest : ds'.countP changes ≤ lowerings ds' := by
      rcases leads_expel hafter with ⟨haftermath, _⟩ | ⟨haftermath, _⟩ <;>
      exact haftermath.countP_changes_le
    rw [List.countP_append, countP_changes_of_quiet hquiet, Nat.zero_add]
    refine hrest.trans ?_
    unfold lowerings
    rw [List.countP_append]
    exact Nat.le_add_left _ _

theorem countP_changes_deeds
    (h : ∀ pursuit ∈ ps, pursuit.diary.countP changes ≤ lowerings pursuit.diary) :
    (deeds ps).countP changes ≤ lowerings (deeds ps) := by
  induction ps with
  | nil => exact Nat.le_refl 0
  | cons pursuit ps ih =>
    obtain ⟨hfirst, hrest⟩ := List.forall_mem_cons.mp h
    unfold lowerings at *
    rw [deeds, List.flatMap_cons, List.countP_append, List.countP_append]
    exact Nat.add_le_add hfirst (ih hrest)

/-- Since the session came to a state, deeds have changed it only to failed authentication. `n` of
their changes were made before. -/
structure Falls (state : SessionState) (earlier : List SessionState) (n : Nat) (l : Ledger Cell)
    (ds : List (Deed Cell)) : Prop where
  path : ∃ m, ds.countP changes = m + n ∧ path l = .replicate m .authFailed ++ state :: earlier
  noted : ∀ d ∈ ds, d.Leaves (·.state = .authFailed) → 0 < ds.countP changes

variable {state : SessionState} {earlier : List SessionState} {n : Nat}

theorem Falls.perm (h : Falls state earlier n l ds) (hperm : ds.Perm ds') :
    Falls state earlier n l ds' where
  path := hperm.countP_eq changes ▸ h.path
  noted d hd := hperm.countP_eq changes ▸ h.noted d (hperm.mem_iff.mpr hd)

theorem Falls.look (h : Falls state earlier n l ds) (hpath : Session.path l' = Session.path l)
    (hchanges : changes d = false)
    (hnoted : d.Leaves (·.state = .authFailed) → 0 < ds.countP changes) :
    Falls state earlier n l' (d :: ds) := by
  have hcount : (d :: ds).countP changes = ds.countP changes :=
    List.countP_cons_of_neg (by rw [hchanges]; decide)
  constructor
  · rw [hcount, hpath]
    exact h.path
  · rw [hcount]
    exact List.forall_mem_cons.mpr ⟨hnoted, h.noted⟩

theorem Falls.pos (h : Falls state earlier n l ds) (hstate : state ≠ .authFailed)
    (hfailed : l.cell.state = .authFailed) : 0 < ds.countP changes := by
  obtain ⟨m, hcount, hpath⟩ := h.path
  obtain ⟨before, hhead⟩ := path_head l
  rw [hcount]
  rcases m with _ | m
  · rw [hhead, hfailed] at hpath
    exact absurd (List.cons.inj hpath).1.symm hstate
  · exact Nat.lt_of_lt_of_le (Nat.succ_pos m) (Nat.le_add_right _ _)

theorem Falls.act (h : Falls state earlier n l ds) (hstate : state ≠ .authFailed)
    (hon : d.On l l') (htame : d.Tame) : Falls state earlier n l' (d :: ds) := by
  rcases hon.cases with ⟨left, rfl, rfl⟩ | ⟨hstays, hcells, _⟩
  · by_cases hsame : left.state = l.cell.state
    · refine h.look (path_stays hsame) (decide_eq_false (not_not_intro hsame)) ?_
      rintro ⟨_, _, ⟨⟩, hleft⟩
      exact h.pos hstate (hsame.symm.trans hleft)
    · obtain ⟨_, _, hfailed⟩ := htame
      have hcount : (Deed.event (.moved l.cell left) :: ds).countP changes =
          ds.countP changes + 1 := List.countP_cons_of_pos (decide_eq_true hsame)
      obtain ⟨m, hm, hpath⟩ := h.path
      constructor
      · refine ⟨m + 1, by rw [hcount, hm, Nat.add_right_comm], ?_⟩
        rw [path_moves hsame, hpath, hfailed.resolve_left hsame]
        rfl
      · rw [hcount]
        exact fun _ _ _ => Nat.succ_pos _
  · exact h.look (path_of_cells hcells) (changes_of_stays hstays)
      fun hleaves => absurd hleaves (not_leaves hstays)

theorem Falls.drop (h : Falls state earlier n l ds) (tickets : List Nat) :
    Falls state earlier n (l.write (giveUpAll tickets)) ds where
  path := path_stays (giveUpAll_standing tickets l.cell).1 ▸ h.path
  noted := h.noted

/-! ## What a use does on its way -/

theorem serves_mapGate {f : Semaphore → Semaphore} (hf : ∀ g, (f g).closed = g.closed) {c : Cell}
    (h : c.Serves client) : (c.mapGate f).Serves client := by
  obtain ⟨ready, hready, hclient, hopen⟩ := h
  refine ⟨{ ready with gate := f ready.gate }, ?_, hclient, (hf _).trans hopen⟩
  rw [ready_mapGate, hready]
  rfl

theorem serves_giveUpAll (tickets : List Nat) {c : Cell} (h : c.Serves client) :
    (giveUpAll tickets c).Serves client := by
  induction tickets with
  | nil => exact h
  | cons t tickets ih => exact serves_mapGate (fun g => g.closed_leave t) ih

/-- The deed leaves a session set up that it found so. -/
def KeepsReady (client : Client) : Deed Cell → Prop
  | .event (.moved seen left) => seen.Serves client → left.Serves client
  | .event (.passed _) | .event (.asked _ _) | .event (.called _ _) | .event (.calledBy _ _)
  | .locked | .told _ => True

theorem keepsReady_of_quiet (hd : d.Quiet) : KeepsReady client d := by
  rcases d with (⟨seen, left⟩ | _ | _ | _ | _) | _ | _
  case event.moved =>
    intro hseen
    cases hd with
    | stay => exact hseen
    | arrive => exact serves_mapGate Semaphore.closed_arrive hseen
    | leave t => exact serves_mapGate (fun g => g.closed_leave t) hseen
  all_goals trivial

/-- No use takes a session down. -/
theorem Conduct.keepsReady {rejected : List (Deed Cell) → Prop}
    {q : Routine Cell (Except BridgeError α)} (h : Conduct s rejected ds q) :
    ∀ d ∈ ds, KeepsReady client d := by
  refine h.forall_mem (fun _ => keepsReady_of_quiet) (fun _ hseen => hseen) fun c d hd => ?_
  simp only [alarm, List.mem_cons, List.not_mem_nil, or_false] at hd
  rcases hd with rfl | rfl | rfl | rfl
  · trivial
  · trivial
  · exact fun hseen => hseen
  · trivial

theorem KeepsReady.serves (h : KeepsReady client d) (hon : d.On l l')
    (hserves : l.cell.Serves client) : l'.cell.Serves client := by
  rcases hon.cases with ⟨left, rfl, rfl⟩ | ⟨_, hcells, _⟩
  · exact h hserves
  · rw [(List.cons.inj hcells).1]
    exact hserves

/-- A use goes on at a session that is ready. -/
theorem Way.goes (hway : Way s client ⟨use, since, some p, diary⟩ p)
    (hserves : l.cell.Serves client) (hgoes : Goes p l ds p' l') :
    Way s client ⟨use, since, some p', diary ++ ds⟩ p' ∧ l'.cell.Serves client := by
  induction hgoes generalizing diary with
  | refl p l =>
    rw [List.append_nil]
    exact ⟨hway, hserves⟩
  | @head p p₁ p' l l₁ l' d ds hdoes hon _ ih =>
    have hfinds : d.Finds client := by
      intro seen hseen
      rw [← hon.cell_of_seen hseen]
      exact hserves
    have hway' : Way s client ⟨use, since, some p₁, diary ++ [d]⟩ p₁ :=
      ⟨hway.mild, hway.leads.snoc hdoes,
        List.forall_mem_append.mpr ⟨hway.finds, List.forall_mem_singleton.mpr hfinds⟩, Or.inl rfl⟩
    have hmem : d ∈ diary ++ [d] := List.mem_append_right diary (List.mem_singleton_self d)
    rw [List.append_cons]
    exact ih hway' ((hway'.conduct.keepsReady d hmem).serves hon hserves)

/-! ## Uses beside the setup -/

/-- Whoever came too early was turned away. All others go their way. -/
def Attends (s : Session) (client : Client) (pursuit : Pursuit) : Prop :=
  TurnedAway pursuit ∨ pursuit.since.ready.isSome = true ∧ ∃ p, Way s client pursuit p

/-- A session that is ready, with all its uses. It was in some state when its ledger was `l₀`, and
`n` of the changes of its state were made before. -/
structure Attended (s : Session) (client : Client) (state : SessionState)
    (earlier : List SessionState) (n : Nat) (l₀ l : Ledger Cell) (ps : List Pursuit) : Prop where
  silent : ∀ q ∈ l₀.asked, q.Silent
  unfailed : state ≠ .authFailed
  serves : l.cell.Serves client
  tracks : Tracks l₀ l (deeds (heeded ps))
  falls : Falls state earlier n l (deeds (heeded ps))
  attends : ∀ pursuit ∈ ps, Attends s client pursuit

theorem deeds_heeded (since : Cell) (rest : Option (Routine Cell (Except BridgeError use.Value)))
    (hsince : since.ready.isSome = true) (diary : List (Deed Cell)) :
    deeds (heeded (before ++ ⟨use, since, rest, diary⟩ :: after)) =
      deeds (heeded before) ++ (diary ++ deeds (heeded after)) := by
  simp only [heeded, List.filter_append, List.filter_cons, hsince, if_true, deeds,
    List.flatMap_append, List.flatMap_cons]

theorem perm_act (ds₁ ds₂ ds₃ ds₄ : List (Deed Cell)) :
    ((ds₁ ++ (ds₂ ++ ds₄)) ++ ds₃).Perm (ds₁ ++ ((ds₂ ++ ds₃) ++ ds₄)) := by
  simp only [List.append_assoc]
  exact (List.perm_append_comm.append_left ds₂).append_left ds₁

theorem Attended.goes
    (h : Attended s client state earlier n l₀ l (before ++ ⟨use, since, some p, diary⟩ :: after))
    (hsince : since.ready.isSome = true) (hway : Way s client ⟨use, since, some p, diary⟩ p)
    (hgoes : Goes p l ds p' l') : Attended s client state earlier n l₀ l'
      (before ++ ⟨use, since, some p', diary ++ ds⟩ :: after) := by
  obtain ⟨hway', hserves⟩ := hway.goes h.serves hgoes
  have htame : ∀ d ∈ ds, d.Tame :=
    fun d hd => hway'.conduct.tame d (List.mem_append_right diary hd)
  have hboth := hgoes.carry
    (P := fun l ts => Tracks l₀ l ts ∧ Falls state earlier n l ts)
    (fun _ _ ts d hP hon hd => by
      have hperm := (List.perm_append_singleton d ts).symm
      exact ⟨(hP.1.act hon hd).perm hperm, (hP.2.act h.unfailed hon hd).perm hperm⟩)
    htame ⟨h.tracks, h.falls⟩
  rw [deeds_heeded since _ hsince] at hboth
  have hperm := perm_act (deeds (heeded before)) diary ds (deeds (heeded after))
  refine ⟨h.silent, h.unfailed, hserves, ?_, ?_,
    forall_mem_replace h.attends (Or.inr ⟨hsince, _, hway'⟩)⟩
  · rw [deeds_heeded since _ hsince]
    exact hboth.1.perm hperm
  · rw [deeds_heeded since _ hsince]
    exact hboth.2.perm hperm

theorem Attended.begin (h : Attended s client state earlier n l₀ l ps) (hmild : use.Mild)
    (hgoes : Goes (use.routine s) l ds p' l') :
    Attended s client state earlier n l₀ l' (ps ++ [⟨use, l.cell, some p', ds⟩]) := by
  have hsince : l.cell.ready.isSome = true := by
    obtain ⟨ready, hready, _⟩ := h.serves
    rw [hready]
    rfl
  have hway : Way s client ⟨use, l.cell, some (use.routine s), []⟩ (use.routine s) :=
    ⟨hmild, .refl _, fun _ hd => (nomatch hd), Or.inl rfl⟩
  have hsame : deeds (heeded (ps ++ [⟨use, l.cell, some (use.routine s), []⟩])) =
      deeds (heeded ps) := by
    rw [deeds_heeded l.cell _ hsince]
    exact List.append_nil _
  have hbegun : Attended s client state earlier n l₀ l
      (ps ++ [⟨use, l.cell, some (use.routine s), []⟩]) := by
    refine ⟨h.silent, h.unfailed, h.serves, hsame ▸ h.tracks, hsame ▸ h.falls, ?_⟩
    exact List.forall_mem_append.mpr
      ⟨h.attends, List.forall_mem_singleton.mpr (Or.inr ⟨hsince, _, hway⟩)⟩
  exact hbegun.goes hsince hway hgoes

/-- Whoever goes on, or waits, was not turned away. -/
theorem Attends.way (h : Attends s client ⟨use, since, some p, diary⟩)
    (hdone : ∀ r, p ≠ .done r) :
    since.ready.isSome = true ∧ Way s client ⟨use, since, some p, diary⟩ p := by
  rcases h with hturned | ⟨hsince, q, hway⟩
  · exact absurd (Option.some.inj hturned.rest) (hdone _)
  · obtain rfl := hway.eq_of_rest rfl
    exact ⟨hsince, hway⟩

theorem Attended.act
    (h : Attended s client state earlier n l₀ l (before ++ ⟨use, since, some p, diary⟩ :: after))
    (hd : Does p d p₁) (hon : d.On l l₁) (hs : Stint p₁ l₁ ds p' l') :
    Attended s client state earlier n l₀ l'
      (before ++ ⟨use, since, some p', diary ++ d :: ds⟩ :: after) := by
  have hattends := h.attends _ (List.mem_append_right before List.mem_cons_self)
  obtain ⟨hsince, hway⟩ := hattends.way fun r hr => by
    rw [hr] at hd
    exact nomatch hd
  exact h.goes hsince hway (.head hd hon hs.goes)

theorem Attended.drop {undo : Cell → Cell} {tickets : List Nat}
    (h : Attended s client state earlier n l₀ l (before ++ ⟨use, since, some p, diary⟩ :: after))
    (hundo : p.onDrop = some undo) (htickets : undo = giveUpAll tickets) :
    Attended s client state earlier n l₀ (l.write undo)
      (before ++ ⟨use, since, none, diary⟩ :: after) := by
  have hattends := h.attends _ (List.mem_append_right before List.mem_cons_self)
  obtain ⟨hsince, hway⟩ := hattends.way fun r hr => by
    rw [hr] at hundo
    exact nomatch hundo
  have hway' : Way s client ⟨use, since, none, diary⟩ p :=
    ⟨hway.mild, hway.leads, hway.finds, Or.inr ⟨rfl, by rw [hundo]; rfl⟩⟩
  have hsame : deeds (heeded (before ++ ⟨use, since, none, diary⟩ :: after)) =
      deeds (heeded (before ++ ⟨use, since, some p, diary⟩ :: after)) := by
    rw [deeds_heeded since _ hsince, deeds_heeded since _ hsince]
  subst htickets
  exact ⟨h.silent, h.unfailed, serves_giveUpAll tickets h.serves, hsame ▸ h.tracks.drop tickets,
    hsame ▸ h.falls.drop tickets, forall_mem_replace h.attends (Or.inr ⟨hsince, p, hway'⟩)⟩

/-- The setup has made the session ready, and no use has found it so yet. -/
theorem attended_of_readied (h : Readied client l) (hps : ∀ pursuit ∈ ps, TurnedAway pursuit) :
    Attended s client .authenticating [.uninitialized] 0 l l ps := by
  refine ⟨h.asked, by decide, h.serves, ?_, ?_, fun pursuit hmem => Or.inl (hps pursuit hmem)⟩
  · rw [heeded_of_turnedAway hps]
    refine ⟨?_, ?_, fun _ hd => (nomatch hd), rfl⟩
    · rw [show queries (deeds []) = [] from rfl, List.append_nil]
    · rw [h.flag]
      rfl
  · rw [heeded_of_turnedAway hps]
    exact ⟨⟨0, rfl, h.path⟩, fun _ hd => nomatch hd⟩

/-- The setup says that the session is authorized, also if a use has said otherwise. -/
theorem Attended.close (h : Attended s client .authenticating [.uninitialized] 0 l₀ l ps) :
    ∃ n, Attended s client .authorized
      (.replicate n .authFailed ++ [.authenticating, .uninitialized]) n
      (l₀.ask (.note (.connected s.host)))
      ((l.write fun _ => { l.cell with state := .authorized }).ask (.note (.connected s.host)))
      ps := by
  obtain ⟨n, hcount, hpath⟩ := h.falls.path
  obtain ⟨earlier, hhead⟩ := path_head l
  have hmoves : SessionState.authorized ≠ l.cell.state := by
    intro hstate
    rw [hhead, ← hstate] at hpath
    rcases n with _ | n
    · exact nomatch (List.cons.inj hpath).1
    · exact nomatch (List.cons.inj hpath).1
  refine ⟨n, ?_, by decide, h.serves, ⟨?_, h.tracks.flag, h.tracks.lowered, h.tracks.available⟩,
    ⟨⟨0, by rw [hcount, Nat.zero_add]; rfl, ?_⟩, h.falls.noted⟩, h.attends⟩
  · exact silent_ask ⟨rfl, rfl⟩ h.silent
  · refine (h.tracks.asked.append_right _).trans ?_
    change List.Perm (_ ++ _ ++ _) (_ ++ _ ++ _)
    rw [List.append_assoc, List.append_assoc]
    exact List.perm_append_comm.append_left _
  · rw [path_ask, path_moves hmoves, hpath]
    rfl

/-! ## How far the session is -/

/-- How far a session is that is used early. -/
inductive Stage (s : Session) (l : Ledger Cell) :
    Option (Routine Cell SetupOutcome) → List Pursuit → Prop where
  | preparing {r : Routine Cell SetupOutcome} {ps : List Pursuit} : Unready s r l →
      (∀ pursuit ∈ ps, TurnedAway pursuit) → Stage s l (some r) ps
  | closing {client : Client} {l₀ : Ledger Cell} {ps : List Pursuit} :
      Attended s client .authenticating [.uninitialized] 0 l₀ l ps → Stage s l (some s.closing) ps
  | loaded {client : Client} {l₀ : Ledger Cell} {n : Nat} {ps : List Pursuit} :
      Attended s client .authorized
        (.replicate n .authFailed ++ [.authenticating, .uninitialized]) n l₀ l ps →
      Stage s l (some (.done .loaded)) ps
  | hopeless {rest : Option (Routine Cell SetupOutcome)} {ps : List Pursuit} :
      (∀ r, rest = some r → Hopeless r) → Stage s l rest ps

theorem Stage.setup {r r₁ r' : Routine Cell SetupOutcome} (h : Stage s l (some r) ps)
    (hd : Does r d r₁) (hon : d.On l l₁) (hs : Stint r₁ l₁ ds r' l') : Stage s l' (some r') ps := by
  cases h with
  | preparing hunready hturned =>
    rcases hunready.goes hd hon hs with hunready | hhopeless | ⟨rfl, client, hready⟩
    · exact .preparing hunready hturned
    · exact .hopeless fun r hr => Option.some.inj hr ▸ hhopeless
    · exact .closing (attended_of_readied hready hturned)
  | closing hattended =>
    unfold Session.closing at hd
    cases hd
    obtain rfl := hon
    obtain ⟨_, h₁, rfl⟩ := stint_own hs
    obtain ⟨_, _, h₂, rfl⟩ := stint_ask h₁
    obtain ⟨rfl, rfl, rfl⟩ := stint_of_pauses rfl h₂
    obtain ⟨n, hattended⟩ := hattended.close
    exact .loaded hattended
  | loaded _ => exact nomatch hd
  | hopeless hhopeless =>
    refine .hopeless fun r hr => Option.some.inj hr ▸ ?_
    exact ((hhopeless _ rfl).does hd).goes hs.goes

theorem stage_of_opening (h : s.Opening l rest ps) : Stage s l rest ps := by
  induction h with
  | start => exact .preparing (.claiming rfl rfl rfl) fun _ hmem => nomatch hmem
  | setup _ hd hon hs ih => exact ih.setup hd hon hs
  | quit _ _ _ => exact .hopeless fun _ hr => nomatch hr
  | @begin l l' rest ps use p' ds _ hmild hs ih =>
    cases ih with
    | preparing hunready hturned =>
      obtain ⟨rfl, rfl, rfl⟩ := stint_unready hunready.ready hs
      refine .preparing hunready.look (List.forall_mem_append.mpr
        ⟨hturned, List.forall_mem_singleton.mpr ⟨?_, rfl, rfl⟩⟩)
      exact congrArg Option.isSome hunready.ready
    | closing hattended => exact .closing (hattended.begin hmild hs.goes)
    | loaded hattended => exact .loaded (hattended.begin hmild hs.goes)
    | hopeless hhopeless => exact .hopeless hhopeless
  | @act l l₁ l' rest before after use since p p₁ p' diary ds d _ hd hon hs ih =>
    cases ih with
    | preparing _ hturned =>
      have hrest := (hturned _ (List.mem_append_right before List.mem_cons_self)).rest
      rw [Option.some.inj hrest] at hd
      exact nomatch hd
    | closing hattended => exact .closing (hattended.act hd hon hs)
    | loaded hattended => exact .loaded (hattended.act hd hon hs)
    | hopeless hhopeless => exact .hopeless hhopeless
  | @drop l rest before after use since p diary undo hopening hundo ih =>
    obtain ⟨tickets, htickets⟩ := undo_of_opening hopening hundo
    cases ih with
    | preparing _ hturned =>
      have hrest := (hturned _ (List.mem_append_right before List.mem_cons_self)).rest
      rw [Option.some.inj hrest] at hundo
      exact nomatch hundo
    | closing hattended => exact .closing (hattended.drop hundo htickets)
    | loaded hattended => exact .loaded (hattended.drop hundo htickets)
    | hopeless hhopeless => exact .hopeless hhopeless

/-! ## When all uses are over -/

variable (hover : ∀ pursuit ∈ ps, (pursuit.task s).isOver = true)
include hover

/-- The uses that found the session ready owe nothing. -/
theorem Attended.settled (h : Attended s client state earlier n l₀ l ps) :
    AtRest s client (heeded ps) := by
  intro pursuit hmem
  obtain ⟨hmem, hsince⟩ := List.mem_filter.mp hmem
  have hrests : pursuit.Rests := by
    intro p hp
    have hdone := hover pursuit hmem
    unfold Task.isOver Pursuit.task at hdone
    rw [hp] at hdone
    cases p with
    | done _ => rfl
    | own | await | lock | clock | ask | call | callBy => exact nomatch hdone
  rcases h.attends pursuit hmem with hturned | ⟨_, p, hway⟩
  · exact absurd (hturned.since.symm.trans hsince) (by decide)
  · exact ⟨p, hway, hway.pauses hrests⟩

theorem Attended.relinks (h : Attended s client state earlier n l₀ l ps) :
    l.asked.filter Query.relinks =
      .replicate (if l.cell.authorized then 0 else 1) (.startPairing s.host) := by
  have hnone : l₀.asked.filter Query.relinks = [] :=
    List.filter_eq_nil_iff.mpr fun q hq => by simp [(h.silent q hq).2]
  have hperm := h.tracks.asked.filter Query.relinks
  rw [List.filter_append, hnone, List.nil_append, (h.settled hover).tally.relinks,
    h.tracks.flag] at hperm
  exact List.perm_replicate.mp hperm

theorem Attended.countP_changes_le (h : Attended s client state earlier n l₀ l ps) :
    (deeds (heeded ps)).countP changes ≤ lowerings (deeds (heeded ps)) := by
  refine countP_changes_deeds fun pursuit hmem => ?_
  obtain ⟨p, hway, _⟩ := h.settled hover pursuit hmem
  exact hway.conduct.countP_changes_le

/-- Without a rejection, nobody ends the authorization or changes the state. -/
theorem Attended.kept (h : Attended s client state earlier n l₀ l ps)
    (hnone : ∀ pursuit ∈ ps, ¬ pursuit.Rejected client) :
    l.cell.authorized = true ∧ (deeds (heeded ps)).countP changes = 0 := by
  have hquiet : ∀ d ∈ deeds (heeded ps), d.Quiet := by
    intro d hd
    obtain ⟨pursuit, hmem, hd⟩ := mem_deeds.mp hd
    obtain ⟨p, hway, _⟩ := h.settled hover pursuit hmem
    exact hway.conduct.quiet_of_not (hnone pursuit (List.mem_of_mem_filter hmem)) d hd
  refine ⟨?_, countP_changes_of_quiet hquiet⟩
  have hflag := h.tracks.flag
  rw [lowerings_of_quiet hquiet] at hflag
  by_contra hlowered
  rw [if_neg hlowered] at hflag
  exact absurd hflag (by decide)

/-- If a use was rejected, one of them ended the authorization and changed the state. -/
theorem Attended.ended (h : Attended s client state earlier n l₀ l ps)
    (hrejected : ∃ pursuit ∈ ps, pursuit.Rejected client) :
    l.cell.authorized = false ∧ (deeds (heeded ps)).countP changes = 1 := by
  have hheeded : ∃ pursuit ∈ heeded ps, pursuit.Rejected client := by
    obtain ⟨pursuit, hmem, hrejected⟩ := hrejected
    rcases h.attends pursuit hmem with hturned | ⟨hsince, _⟩
    · exact absurd hrejected hturned.not_rejected
    · exact ⟨pursuit, List.mem_filter.mpr ⟨hmem, hsince⟩, hrejected⟩
  have hflag : l.cell.authorized = false := by
    obtain ⟨d, hd, hleaves⟩ := (h.settled hover).lowered hheeded
    exact h.tracks.lowered d hd hleaves
  have hone : lowerings (deeds (heeded ps)) = 1 := by
    rw [h.tracks.flag, hflag]
    rfl
  refine ⟨hflag, Nat.le_antisymm (hone ▸ h.countP_changes_le hover) ?_⟩
  obtain ⟨d, hd, hleaves⟩ := (h.settled hover).failed (hone ▸ Nat.one_pos)
  exact h.falls.noted d hd hleaves

end Session

open Session in
/-- One setup of a new session and uses of it take turns, wherever one of them waits and where it
has come to the lock of the session. If the setup loads the session and all uses are over, the
authorization has ended if and only if a use was rejected, and then one pairing was asked for. The
state was changed to failed authentication once, but if this was done before the setup wrote that
the session is authorized, then the state still says so. -/
theorem an_early_rejection_ends_the_authorization (s : Session) :
    (∀ x, Relation.ReflTransGen (Turn .atLocks s.Busy) s.begun x →
      Reached .atLocks s.Usage .fresh x ∧
      ∃ rest ps, s.Opening x.ledger rest ps ∧ x.tasks = s.tasks rest ps) ∧
    ∀ l ps, s.Opening l (some (.done .loaded)) ps →
      (∀ pursuit ∈ ps, (pursuit.task s).isOver = true) → ∃ client, l.cell.client = .ok client ∧
      ((∀ pursuit ∈ ps, ¬ pursuit.Rejected client) → l.cell.authorized = true ∧
        l.asked.filter Query.relinks = [] ∧
        path l = [.authorized, .authenticating, .uninitialized]) ∧
      ((∃ pursuit ∈ ps, pursuit.Rejected client) → l.cell.authorized = false ∧
        l.asked.filter Query.relinks = [.startPairing s.host] ∧
        (path l = [.authFailed, .authorized, .authenticating, .uninitialized] ∨
          path l = [.authorized, .authFailed, .authenticating, .uninitialized])) := by
  refine ⟨fun x hx => ⟨reached_of_turns hx, opening_of_turns hx⟩, fun l ps h hover => ?_⟩
  cases stage_of_opening h with
  | preparing hunready _ => exact nomatch hunready
  | hopeless hhopeless => exact absurd rfl (hhopeless _ rfl)
  | @loaded client l₀ n _ hattended =>
    obtain ⟨m, hcount, hpath⟩ := hattended.falls.path
    have hrelinks := hattended.relinks hover
    refine ⟨client, hattended.serves.client_eq, fun hnone => ?_, fun hrejected => ?_⟩
    · obtain ⟨hflag, hzero⟩ := hattended.kept hover hnone
      obtain ⟨rfl, rfl⟩ := Nat.add_eq_zero_iff.mp (hcount.symm.trans hzero)
      rw [hflag] at hrelinks
      exact ⟨hflag, hrelinks, hpath⟩
    · obtain ⟨hflag, hone⟩ := hattended.ended hover hrejected
      rw [hflag] at hrelinks
      refine ⟨hflag, hrelinks, ?_⟩
      rcases Nat.add_eq_one_iff.mp (hcount.symm.trans hone) with ⟨rfl, rfl⟩ | ⟨rfl, rfl⟩
      · exact Or.inr hpath
      · exact Or.inl hpath

/-! ## A rejection that is overruled -/

open Session in
/-- A call is rejected while the setup of its session has come to the lock for the last time. The
setup has the lock after it. -/
theorem opening_overruled : ∃ l ps, guestSession.Opening l (some (.done .loaded)) ps ∧
    (∀ pursuit ∈ ps, pursuit.since.ready.isSome = true ∧
      (pursuit.task guestSession).isOver = true) ∧
    l.cell.client = .ok ⟨0⟩ ∧ (∃ pursuit ∈ ps, pursuit.Rejected ⟨0⟩) ∧
    l.cell.state = .authorized ∧ l.cell.authorized = false ∧
    l.asked.filter Query.relinks = [.startPairing "192.168.1.2"] := by
  have h : guestSession.Opening _ _ _ := .setup .start (.lock _) rfl
    (.own _ _ <| .ask .locationName _ (HomeName.plain "Home") <| .ask (.connect _ _) _ ⟨0⟩ <|
      .clock _ 0 <| .rest rfl)
  have h : guestSession.Opening _ _ _ := .setup h
    (.callBy _ _ (.validate _) _ (some (.ok guestConfig))) rfl
    (.ask (.clientUsername _) _ (some "guest") <| .ask (.note _) _ () <| .own _ _ <|
      .ask (.forwardSetup _ _) _ () <| .ask (.forwardSetup _ _) _ () <|
      .ask (.forwardSetup _ _) _ () <| .ask (.registerSceneService _) _ () <| .own _ _ <|
      .rest rfl)
  have h : guestSession.Opening _ _ [_] := .begin (.call loadGroups) h mild_loadGroups
    (.own _ _ <| .own _ _ <| .rest rfl)
  have h := @Opening.act _ _ _ _ _ [] [] _ _ _ _ _ _ _ _ h (.await _ _ rfl) ⟨rfl, rfl⟩ (.rest rfl)
  have h := @Opening.act _ _ _ _ _ [] [] _ _ _ _ _ _ _ _ h
    (.call _ (.updateGroups _) _ (.error .unauthorized : Except Fault Unit)) rfl
    (.own _ _ <| .own _ _ <| .ask (.note _) _ () <| .rest rfl)
  have h := @Opening.act _ _ _ _ _ [] [] _ _ _ _ _ _ _ _ h (.lock _) rfl
    (.own _ _ <| .ask (.startPairing _) _ () <| .rest rfl)
  have h : guestSession.Opening _ _ _ := .setup h (.lock _) rfl
    (.own _ _ <| .ask (.note _) _ () <| .rest rfl)
  refine ⟨_, _, h, List.forall_mem_singleton.mpr ⟨rfl, rfl⟩, rfl, ?_, rfl, rfl, rfl⟩
  exact ⟨_, List.mem_singleton_self _, _, _, _, [_], _, rfl,
    .head (.call _ (.updateGroups _) _ _) (.refl _)⟩

open Session in
theorem an_early_rejection_ends_the_authorization_of_a_guest : ∃ l ps,
    guestSession.Opening l (some (.done .loaded)) ps ∧
    (∀ pursuit ∈ ps, (pursuit.task guestSession).isOver = true) ∧
    (∃ pursuit ∈ ps, pursuit.Rejected ⟨0⟩) ∧ l.cell.authorized = false ∧
    l.asked.filter Query.relinks = [.startPairing "192.168.1.2"] ∧
    path l = [.authorized, .authFailed, .authenticating, .uninitialized] := by
  obtain ⟨l, ps, h, hover, hclient, hrejected, hstate, _⟩ := opening_overruled
  have hover : ∀ pursuit ∈ ps, (pursuit.task guestSession).isOver = true :=
    fun pursuit hmem => (hover pursuit hmem).2
  obtain ⟨_, hopening⟩ := an_early_rejection_ends_the_authorization guestSession
  obtain ⟨client, hclient', _, hends⟩ := hopening l ps h hover
  obtain rfl : ⟨0⟩ = client := Except.ok.inj (hclient.symm.trans hclient')
  obtain ⟨hflag, hrelinks, hfailed | hoverruled⟩ := hends hrejected
  · obtain ⟨before, hhead⟩ := path_head l
    rw [hhead, hstate] at hfailed
    exact nomatch (List.cons.inj hfailed).1
  · exact ⟨l, ps, h, hover, hrejected, hflag, hrelinks, hoverruled⟩

open Session in
/-- The state of a session may say that it is authorized although its authorization has ended. -/
theorem a_setup_overrules_an_early_rejection : ∃ l ps,
    Reached .atLocks guestSession.Usage .fresh
      ⟨l, guestSession.tasks (some (.done .loaded)) ps⟩ ∧
    guestSession.Opening l (some (.done .loaded)) ps ∧
    (∀ pursuit ∈ ps, pursuit.since.ready.isSome = true ∧
      (pursuit.task guestSession).isOver = true) ∧
    (∃ pursuit ∈ ps, pursuit.Rejected ⟨0⟩) ∧ l.cell.state = .authorized ∧
    l.cell.authorized = false ∧ l.asked.filter Query.relinks = [.startPairing "192.168.1.2"] := by
  obtain ⟨l, ps, h, hover, _, hends⟩ := opening_overruled
  exact ⟨l, ps, reached_of_turns (turns_of_opening h), h, hover, hends⟩

end HueLink
