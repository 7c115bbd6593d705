-- The store of a host over time. Flows complete with entries, and later the host persists or
-- discards each. An entry names what it replaces as it saw the store when it was completed; as long
-- as no entry with which it conflicts was persisted since, that is still enough to keep the store
-- free of conflicts.
import HueLink.Proofs.Pairing.Entry
import Mathlib.Data.List.Permutation

namespace HueLink

open Pairing

/-! ## Conflicts -/

/-- Two records that cannot stand side by side: they differ, and they have a host or a bridge in
common. -/
def Registration.Conflicts (r other : Registration) : Prop :=
  r ≠ other ∧ (r.host = other.host ∨ r.bridgeId = other.bridgeId)

namespace Registration

instance (r other : Registration) : Decidable (r.Conflicts other) :=
  inferInstanceAs (Decidable (_ ∧ _))

theorem Conflicts.symm {r other : Registration} (h : r.Conflicts other) : other.Conflicts r :=
  ⟨h.1.symm, h.2.imp Eq.symm Eq.symm⟩

theorem supersedes_iff (r other : Registration) :
    r.supersedes other = true ↔ r.Conflicts other := by
  unfold supersedes Conflicts
  rw [Bool.and_eq_true, bne_iff_ne, Bool.or_eq_true, beq_iff_eq, beq_iff_eq]
  exact and_congr_right fun _ => or_comm

theorem mem_displaced {r a : Registration} {store : List Registration} :
    a ∈ r.displaced store ↔ a ∈ store ∧ r.Conflicts a := by
  unfold displaced
  rw [List.mem_filter, supersedes_iff]

end Registration

/-- A store with no record twice and no two records in conflict. -/
structure Tidy (store : List Registration) : Prop where
  nodup : store.Nodup
  free : ∀ a ∈ store, ∀ b ∈ store, ¬ a.Conflicts b

/-! ## Persisting an entry -/

/-- The records that stay when an entry is persisted. -/
def Pairing.Entry.kept (e : Entry) (store : List Registration) : List Registration :=
  store.filter fun old => !e.replaces.contains old

/-- The store after the host persisted an entry: the replaced records go, and the new one comes
unless an equal one stayed. -/
def Pairing.Entry.persistIn (e : Entry) (store : List Registration) : List Registration :=
  if e.registration ∈ e.kept store then e.kept store
  else e.registration.persist e.replaces store

variable {e : Entry} {store : List Registration} {a : Registration}

theorem mem_kept : a ∈ e.kept store ↔ a ∈ store ∧ a ∉ e.replaces := by
  unfold Entry.kept
  rw [List.mem_filter, Bool.not_eq_true', List.contains_eq_mem, decide_eq_false_iff_not]

theorem mem_persistIn :
    a ∈ e.persistIn store ↔ (a ∈ store ∧ a ∉ e.replaces) ∨ a = e.registration := by
  unfold Entry.persistIn
  split
  · rename_i hr
    rw [← mem_kept]
    exact ⟨Or.inl, fun h => h.elim id fun h => h ▸ hr⟩
  · unfold Registration.persist
    rw [List.mem_append, List.mem_singleton, ← mem_kept]
    rfl

theorem nodup_persistIn (h : store.Nodup) : (e.persistIn store).Nodup := by
  have hk : (e.kept store).Nodup := h.filter _
  unfold Entry.persistIn
  split
  · exact hk
  · rename_i hr
    exact List.nodup_append.mpr ⟨hk, List.nodup_singleton _, fun x hx y hy => by
      rw [List.mem_singleton] at hy
      rintro rfl
      exact hr (hy ▸ hx)⟩

/-- Once the replaced records are all that conflict, the store is tidy again. -/
theorem tidy_persistIn (h : Tidy store)
    (hc : ∀ a ∈ store, a.Conflicts e.registration → a ∈ e.replaces) :
    Tidy (e.persistIn store) := by
  refine ⟨nodup_persistIn h.nodup, ?_⟩
  intro a ha b hb hab
  rcases mem_persistIn.mp ha with ⟨ha, hna⟩ | rfl
  · rcases mem_persistIn.mp hb with ⟨hb, _⟩ | rfl
    · exact h.free a ha b hb hab
    · exact hna (hc a ha hab)
  · rcases mem_persistIn.mp hb with ⟨hb, hnb⟩ | rfl
    · exact hnb (hc b hb hab.symm)
    · exact hab.1 rfl

/-! ## What happens to the store -/

/-- An entry that waits for the host to decide on it. -/
structure Pending where
  entry : Entry
  /-- What was persisted since the entry was completed. -/
  overtakenBy : List Registration

/-- The store and the entries that wait. -/
structure Desk where
  store : List Registration
  pending : List Pending

/-- Something that happens at a desk. -/
inductive DeskEvent where
  /-- A flow answers an entry. -/
  | completed (e : Entry)
  /-- The host throws an entry away. -/
  | discarded (x : Pending)
  /-- The host persists an entry. -/
  | persisted (x : Pending)

/-- The entry waits while the host persists another one. -/
def Pending.overtake (r : Registration) (x : Pending) : Pending :=
  { x with overtakenBy := x.overtakenBy ++ [r] }

/-- What an event makes of a desk. -/
inductive Desk.Next : Desk → DeskEvent → Desk → Prop where
  | complete {store : List Registration} {pending : List Pending} {e : Entry} :
    Completes store e → Next ⟨store, pending⟩ (.completed e) ⟨store, pending ++ [⟨e, []⟩]⟩
  | discard {store : List Registration} {before after : List Pending} (x : Pending) :
    Next ⟨store, before ++ x :: after⟩ (.discarded x) ⟨store, before ++ after⟩
  | persist {store : List Registration} {before after : List Pending} (x : Pending) :
    Next ⟨store, before ++ x :: after⟩ (.persisted x)
      ⟨x.entry.persistIn store, (before ++ after).map (·.overtake x.entry.registration)⟩

/-- The runs from a store, with what happened in them, the latest last. -/
inductive DeskRun (start : List Registration) : List DeskEvent → Desk → Prop where
  | start : DeskRun start [] ⟨start, []⟩
  | next {events : List DeskEvent} {event : DeskEvent} {d d' : Desk} :
    DeskRun start events d → d.Next event d' → DeskRun start (events ++ [event]) d'

/-- No entry is persisted after one with which it conflicts was persisted behind its back. -/
def Undisturbed (events : List DeskEvent) : Prop :=
  ∀ x, .persisted x ∈ events → ∀ r ∈ x.overtakenBy, ¬ r.Conflicts x.entry.registration

/-! ## What every event keeps -/

/-- The entry replaces nothing without need, and all that is needed unless it was disturbed. -/
structure Pending.Fits (store : List Registration) (x : Pending) : Prop where
  needed : ∀ a ∈ x.entry.replaces, a.Conflicts x.entry.registration
  enough : (∀ r ∈ x.overtakenBy, ¬ r.Conflicts x.entry.registration) →
    ∀ a ∈ store, a.Conflicts x.entry.registration → a ∈ x.entry.replaces

structure Desk.Orderly (d : Desk) : Prop where
  tidy : Tidy d.store
  fits : ∀ x ∈ d.pending, x.Fits d.store

theorem fits_of_completes (h : Completes store e) : Pending.Fits store ⟨e, []⟩ := by
  constructor
  · intro a ha
    dsimp only at ha
    rw [h.replaces_eq, Registration.mem_displaced] at ha
    exact ha.2.symm
  · intro _ a ha hc
    dsimp only
    rw [h.replaces_eq, Registration.mem_displaced]
    exact ⟨ha, hc.symm⟩

/-- A persist leaves an entry fit that waits: what it brings in is among what overtook the entry. -/
theorem fits_overtake {x y : Pending} (hx : x.Fits store) :
    (x.overtake y.entry.registration).Fits (y.entry.persistIn store) := by
  refine ⟨hx.needed, fun hfree a ha hc => ?_⟩
  simp only [Pending.overtake, List.mem_append, List.mem_singleton] at hfree
  rcases mem_persistIn.mp ha with ⟨ha, _⟩ | rfl
  · exact hx.enough (fun r hr => hfree r (Or.inl hr)) a ha hc
  · exact absurd hc (hfree _ (Or.inr rfl))

theorem orderly_next {d d' : Desk} {event : DeskEvent} (h : d.Orderly) (hn : d.Next event d')
    (hu : Undisturbed [event]) : d'.Orderly := by
  cases hn with
  | complete hc =>
    refine ⟨h.tidy, fun x hx => ?_⟩
    rcases List.mem_append.mp hx with hx | hx
    · exact h.fits x hx
    · rw [List.mem_singleton] at hx
      exact hx ▸ fits_of_completes hc
  | discard x =>
    refine ⟨h.tidy, fun y hy => h.fits y ?_⟩
    rw [List.mem_append] at hy
    exact List.mem_append.mpr (hy.imp_right (List.mem_cons_of_mem x))
  | persist x =>
    have hx : x.Fits _ := h.fits x (List.mem_append_right _ List.mem_cons_self)
    refine ⟨tidy_persistIn h.tidy (hx.enough (hu x (List.mem_singleton_self _))), fun y hy => ?_⟩
    obtain ⟨z, hz, rfl⟩ := List.mem_map.mp hy
    rw [List.mem_append] at hz
    exact fits_overtake (h.fits z (List.mem_append.mpr (hz.imp_right (List.mem_cons_of_mem x))))

theorem orderly_run {start : List Registration} {events : List DeskEvent} {d : Desk}
    (ht : Tidy start) (hr : DeskRun start events d) (hu : Undisturbed events) : d.Orderly := by
  induction hr with
  | start => exact ⟨ht, fun x hx => absurd hx List.not_mem_nil⟩
  | next _ hn ih =>
    refine orderly_next (ih fun x hx => hu x (List.mem_append_left _ hx)) hn fun x hx => ?_
    exact hu x (List.mem_append_right _ hx)

/-! ## The laws -/

/-- What an event may do to a tidy store: a persist makes its record the only one for its host and
for its bridge and drops nothing that does not conflict with it, and all else leaves the store
alone. -/
def DeskEvent.Lawful (before after : List Registration) : DeskEvent → Prop
  | completed _ => after = before
  | discarded _ => after = before
  | persisted x =>
    x.entry.registration ∈ after ∧
    (∀ a ∈ after, a.host = x.entry.registration.host ∨ a.bridgeId = x.entry.registration.bridgeId →
      a = x.entry.registration) ∧
    ∀ a ∈ before, a ∉ after → a.Conflicts x.entry.registration

theorem lawful_next {d d' : Desk} {event : DeskEvent} (h : d.Orderly) (h' : d'.Orderly)
    (hn : d.Next event d') : event.Lawful d.store d'.store := by
  cases hn with
  | complete _ => rfl
  | discard x => rfl
  | @persist store _ _ x =>
    have hmem : x.entry.registration ∈ x.entry.persistIn store := mem_persistIn.mpr (Or.inr rfl)
    refine ⟨hmem, fun a ha hk => ?_, fun a ha hna => ?_⟩
    · by_contra hne
      exact h'.tidy.free a ha _ hmem ⟨hne, hk⟩
    · have hx : x.Fits _ := h.fits x (List.mem_append_right _ List.mem_cons_self)
      refine hx.needed a ?_
      by_contra hnr
      exact hna (mem_persistIn.mpr (Or.inl ⟨ha, hnr⟩))

/-- From a tidy store on, whatever flows complete and whatever the host persists or discards, the
store stays tidy, and every event does to it only what is lawful. -/
theorem the_store_stays_tidy (start : List Registration) (ht : Tidy start) (events : List DeskEvent)
    (d : Desk) (hr : DeskRun start events d) (hu : Undisturbed events) :
    Tidy d.store ∧ ∀ event d', d.Next event d' → Undisturbed (events ++ [event]) →
      Tidy d'.store ∧ event.Lawful d.store d'.store := by
  have h := orderly_run ht hr hu
  refine ⟨h.tidy, fun event d' hn hu' => ?_⟩
  have h' := orderly_run ht (hr.next hn) hu'
  exact ⟨h'.tidy, lawful_next h h' hn⟩

/-! ## A bridge that moved -/

/-- Surroundings in which a bridge gives out the username of a registration. -/
def Registration.granted (r : Registration) : Outside (Flow × List Registration) where
  answer
    | .connect _ _, w => (⟨0⟩, w)
    | .clientHost _, w => (r.host, w)
    | .clientUsername _, w => (some r.username, w)
    | .locationName, w => (.plain "Home", w)
    | .registrations, w => (w.2, w)
    | .flowsInProgress, w => ([], w)
    | .configPath path, w => (path, w)
    | .legacyUsername _ _, w => (none, w)
    | .removeSceneService, w => (false, w)
    | .startPairing _, w | .forwardSetup _ _, w | .forwardUnload _ _, w
    | .registerSceneService _, w | .note _, w => ((), w)
  receive
    | .createUser _ _, w => ⟨w, some 20, fun w => (.ok (), w)⟩
    | .validate _, w => ⟨w, some 30, fun w => (.ok ⟨"Philips hue", "BSB002", r.bridgeId, none⟩, w)⟩
    | .groups _, w | .scenes _, w => ⟨w, none, fun w => (.ok [], w)⟩
    | .updateGroups _, w | .updateScenes _, w | .setGroupScene _ _ _, w =>
      ⟨w, none, fun w => (.ok (), w)⟩
    | .discover, w => ⟨w, none, fun w => (.ok [], w)⟩
    | .unloaded _ _, w => ⟨w, none, fun w => (none, w)⟩
    | .sleep _, w => ⟨w, none, fun w => ((), w)⟩

/-- A flow that remembers a host. -/
def Pairing.Flow.remembering (host : String) : Flow :=
  { Flow.begin default .user with candidate := some host }

theorem showsStore_granted (r : Registration) :
    ShowsStore r.granted Routine.Place.beside Prod.snd := by
  refine ⟨fun _ => rfl, fun q w => ?_, fun _ _ => rfl⟩
  cases q <;> rfl

/-- A bridge that took the address of another one and left a record at its old address. -/
def movedBridge : Registration := ⟨"192.168.1.2", "00178823af15", "new"⟩

def otherBridge : Registration := ⟨"192.168.1.7", "001788ddeeff", "other"⟩

def storeBeforeMove : List Registration :=
  [⟨"192.168.1.9", "00178823af15", "old"⟩, ⟨"192.168.1.2", "001788aabbcc", "gone"⟩]

/-- The entry of the bridge displaces both records. -/
def movedEntry : Entry := ⟨"Philips hue", movedBridge, storeBeforeMove⟩

def otherEntry : Entry := ⟨"Philips hue", otherBridge, []⟩

theorem completes_moved : Completes storeBeforeMove movedEntry :=
  ⟨_, movedBridge.granted, _, _, .link false, 0, (Flow.remembering "192.168.1.2", storeBeforeMove),
    showsStore_granted _, by cbv, by cbv⟩

theorem completes_other : Completes storeBeforeMove otherEntry :=
  ⟨_, otherBridge.granted, _, _, .link false, 0, (Flow.remembering "192.168.1.7", storeBeforeMove),
    showsStore_granted _, by cbv, by cbv⟩

/-- Two flows complete, and the first entry is persisted while the second one waits. -/
def movedEvents : List DeskEvent :=
  [.completed movedEntry, .completed otherEntry, .persisted ⟨movedEntry, []⟩]

/-- The store after the second entry was persisted too. -/
def storeAfterMove : List Registration := [movedBridge, otherBridge]

theorem the_store_stays_tidy_after_a_move :
    (Tidy storeBeforeMove ∧
      DeskRun storeBeforeMove movedEvents ⟨[movedBridge], [⟨otherEntry, [movedBridge]⟩]⟩ ∧
      Undisturbed movedEvents) ∧
    Tidy storeAfterMove ∧
      (DeskEvent.persisted ⟨otherEntry, [movedBridge]⟩).Lawful [movedBridge] storeAfterMove := by
  have ht : Tidy storeBeforeMove := ⟨by decide, by decide⟩
  have hr : DeskRun storeBeforeMove movedEvents ⟨[movedBridge], [⟨otherEntry, [movedBridge]⟩]⟩ :=
    .next (.next (.next .start (.complete completes_moved)) (.complete completes_other))
      (@Desk.Next.persist _ [] [⟨otherEntry, []⟩] ⟨movedEntry, []⟩)
  have hu : Undisturbed (movedEvents ++ [.persisted ⟨otherEntry, [movedBridge]⟩]) := by
    intro x hx r hr
    simp only [movedEvents, List.mem_append, List.mem_cons, List.not_mem_nil, or_false,
      reduceCtorEq, false_or, DeskEvent.persisted.injEq] at hx
    rcases hx with rfl | rfl
    · exact absurd hr List.not_mem_nil
    · rw [List.mem_singleton.mp hr]
      decide
  have hu' : Undisturbed movedEvents := fun x hx => hu x (List.mem_append_left _ hx)
  exact ⟨⟨ht, hr, hu'⟩, (the_store_stays_tidy _ ht _ _ hr hu').2 _ _
    (@Desk.Next.persist _ [] [] ⟨otherEntry, [movedBridge]⟩) hu⟩

end HueLink
