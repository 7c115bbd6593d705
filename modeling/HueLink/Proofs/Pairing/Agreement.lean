-- Announcements over SSDP and over HomeKit. Both claim the host and import it, and only over SSDP a
-- legacy file is looked for. If no username is found there, the two cannot be told apart but by the
-- search for the file and its path in the log.
import HueLink.Proofs.Pairing.Announcement

namespace HueLink

open Routine

variable {α β σ ω : Type}

/-- The search for a legacy file changes nothing in the surroundings, nor does it matter there which
path the log names for an import. -/
structure Outside.Discreet (o : Outside ω) : Prop where
  resolved : ∀ path w, (o.answer (.configPath path) w).2 = w
  lookedUp : ∀ flow path w, (o.answer (.legacyUsername flow path) w).2 = w
  imported : ∀ host path path' w,
    (o.answer (.note (.imported host path)) w).2 = (o.answer (.note (.imported host path')) w).2

namespace Pairing

/-! ## Leaving files aside -/

/-- What is left of an event for whoever cares neither for files nor for their paths in the log. -/
def unfiled : Event Flow → Option (Event Flow)
  | .moved _ _ | .asked (.configPath _) _ | .asked (.legacyUsername _ _) _ => none
  | .asked (.note (.imported host _)) _ => some (.asked (.note (.imported host none)) ())
  | e => some e

/-- No username is found in any file. -/
def FindsNothing (es : List (Event Flow)) : Prop :=
  ∀ flow path username, .asked (.legacyUsername flow path) username ∈ es → username = none

variable {es es' : List (Event Flow)}

theorem findsNothing_append :
    FindsNothing (es ++ es') ↔ FindsNothing es ∧ FindsNothing es' := by
  simp only [FindsNothing, List.mem_append, or_imp, forall_and]

/-- As long as no file holds a username, the one step does what the other does, in the same time,
and leaves the same flow in the same surroundings. -/
def Agrees (o : Outside (Flow × σ)) (r r' : Step α) : Prop :=
  ∀ t w, FindsNothing (r.record o Place.beside t w) →
    r.run o Place.beside t w = r'.run o Place.beside t w ∧
      (r.record o Place.beside t w).filterMap unfiled =
        (r'.record o Place.beside t w).filterMap unfiled

variable {o : Outside (Flow × σ)}

theorem agrees_refl (r : Step α) : Agrees o r r := fun _ _ _ => ⟨rfl, rfl⟩

/-- Steps that agree also agree after the same beginning. -/
theorem agrees_after {r : Step α} {f g : α → Step β} (h : ∀ a, Agrees o (f a) (g a)) :
    Agrees o (r >>= f) (r >>= g) := by
  intro t w hnone
  rw [bind_eq, record_bind] at hnone
  obtain ⟨_, hrest⟩ := findsNothing_append.mp hnone
  simp only [bind_eq, run_bind, record_bind, List.filterMap_append, Outcome.andThen]
  cases hresult : (r.run o Place.beside t w).result with
  | none => exact ⟨rfl, rfl⟩
  | some a =>
    rw [hresult] at hrest
    obtain ⟨hrun, hrecord⟩ := h a _ _ hrest
    exact ⟨hrun, congrArg (_ ++ ·) hrecord⟩

/-! ## The steps -/

/-- Which file a username was imported from shows in the log only. -/
theorem agrees_imported (ho : o.Discreet) (host : String) (path path' : Option String)
    {next : Step α} : Agrees o (Routine.note (.imported host path) >>= fun _ => next)
      (Routine.note (.imported host path') >>= fun _ => next) := by
  intro t w _
  simp only [Routine.note, Routine.query, bind_eq, Routine.bind, run, record,
    ho.imported host path path']
  exact ⟨trivial, rfl⟩

/-- The search for a file, with what comes of it. -/
theorem run_legacyUsername (ho : o.Discreet) (path : String) (t : Nat) (w : Flow × σ) :
    ∃ resolved username, (legacyUsername (some path)).run o Place.beside t w =
        ⟨some (some resolved, username), t, w⟩ ∧
      (legacyUsername (some path)).record o Place.beside t w =
        [.asked (.configPath path) resolved, .moved w.1 w.1,
          .asked (.legacyUsername w.1.context.id resolved) username] := by
  obtain ⟨f, w⟩ := w
  obtain ⟨resolved, hresolved⟩ : ∃ x, o.answer (.configPath path) (f, w) = (x, (f, w)) :=
    ⟨_, Prod.ext rfl (ho.resolved path _)⟩
  obtain ⟨username, hlookup⟩ :
      ∃ x, o.answer (.legacyUsername f.context.id resolved) (f, w) = (x, (f, w)) :=
    ⟨_, Prod.ext rfl (ho.lookedUp _ _ _)⟩
  refine ⟨resolved, username, ?_, ?_⟩
  · rw [legacyUsername, run_query_bind hresolved]
    exact run_query_bind hlookup _
  · rw [legacyUsername, record_query_bind hresolved]
    exact congrArg (.asked _ resolved :: .moved f f :: ·) (record_query_bind hlookup _)

/-- A file without a username is as good as no file. -/
theorem agrees_legacyUsername (ho : o.Discreet) (path : String)
    {next : Option String × Option String → Step α}
    (h : ∀ resolved, Agrees o (next (some resolved, none)) (next (none, none))) :
    Agrees o (legacyUsername (some path) >>= next) (legacyUsername none >>= next) := by
  intro t w hnone
  obtain ⟨resolved, username, hrun, hrecord⟩ := run_legacyUsername ho path t w
  rw [bind_eq, record_bind, hrun, hrecord] at hnone
  obtain ⟨hlookup, hrest⟩ := findsNothing_append.mp hnone
  obtain rfl : username = none := hlookup w.1.context.id resolved username (by simp)
  obtain ⟨hnext, hsaid⟩ := h resolved t w hrest
  rw [bind_eq, run_bind, record_bind, hrun, hrecord]
  exact ⟨hnext, hsaid⟩

theorem agrees_stepImport (ho : o.Discreet) (host path : String) :
    Agrees o (stepImport ⟨host, some path⟩) (stepImport ⟨host, none⟩) := by
  unfold stepImport
  refine agrees_after fun _ => agrees_after fun _ => ?_
  refine agrees_legacyUsername ho path fun resolved => ?_
  refine agrees_after fun home => agrees_after fun answer => ?_
  rcases answer with e | linked
  · cases e <;> exact agrees_refl _
  · exact agrees_imported ho host (some resolved) none

theorem agrees_claimAndImport (ho : o.Discreet) (host id path : String) :
    Agrees o (claimAndImport host id (some path)) (claimAndImport host id none) := by
  unfold claimAndImport
  refine agrees_after fun _ => agrees_after fun claimed => ?_
  cases claimed with
  | some reason => exact agrees_refl _
  | none =>
    refine agrees_after fun short => agrees_after fun taken => ?_
    cases taken with
    | some reason => exact agrees_refl _
    | none => exact agrees_stepImport ho host path

/-- The same bridge, announced over SSDP with its bare id for a serial and without a name. -/
def HomekitInfo.overSsdp (info : HomekitInfo) : SsdpInfo :=
  ⟨info.host, genuineManufacturer, none, info.bareId⟩

/-- A bridge that is announced over SSDP and over HomeKit fares the same, as long as no username is
found in a file for its bare id. Whatever flow it is, whoever claims the host and however the bridge
behaves, the answer, the flow and the time are the same, and the same is said in the same order,
apart from the search for the file and its path in the log. -/
theorem announcements_agree (ho : o.Discreet) (info : HomekitInfo) (f : Flow) (w : σ) (t : Nat)
    (hnone : FindsNothing ((stepSsdp info.overSsdp).record o Place.beside t (f, w))) :
    (stepSsdp info.overSsdp).run o Place.beside t (f, w) =
        (stepHomekit info).run o Place.beside t (f, w) ∧
      ((stepSsdp info.overSsdp).record o Place.beside t (f, w)).filterMap unfiled =
        ((stepHomekit info).record o Place.beside t (f, w)).filterMap unfiled := by
  have hagrees : Agrees o (stepSsdp info.overSsdp) (stepHomekit info) := by
    unfold stepSsdp stepHomekit
    refine agrees_after fun _ => ?_
    have hgenuine : info.overSsdp.isGenuine = true := by
      simp [SsdpInfo.isGenuine, HomekitInfo.overSsdp]
    rw [if_pos hgenuine]
    exact agrees_claimAndImport ho info.host info.bareId _
  exact hagrees t (f, w) hnone

/-! ## A bridge whose button was pressed -/

theorem discreet_outside (x : Occasion) : x.outside.Discreet :=
  ⟨fun _ _ => rfl, fun _ _ _ => rfl, fun _ _ _ _ => rfl⟩

theorem findsNothing_record {x : Occasion} (hx : x.legacy = none) (r : Step α) (t : Nat)
    (w : Flow × List Registration) : FindsNothing (r.record x.outside Place.beside t w) := by
  intro flow path username hasked
  obtain ⟨_, rfl⟩ := answeredBy_record r t w _ _ hasked
  exact hx

/-- The bridge with capital letters, announced while its button is pressed. -/
def pressedButton : Occasion := ⟨[Flow.begin default .homekit], true, none⟩

def announcedBridge : HomekitInfo := ⟨"192.168.1.2", "EC:B5:FA:0A:1B:2C"⟩

theorem announcements_agree_at_a_pressed_button :
    let ssdp := stepSsdp announcedBridge.overSsdp
    let homekit := stepHomekit announcedBridge
    let start : Flow × List Registration := (Flow.begin default .homekit, [])
    (pressedButton.outside.Discreet ∧
      FindsNothing (ssdp.record pressedButton.outside Place.beside 0 start)) ∧
    (homekit.run pressedButton.outside Place.beside 0 start).result =
      some (.entry ⟨"Philips hue", movedBridge, []⟩) ∧
    ssdp.run pressedButton.outside Place.beside 0 start =
      homekit.run pressedButton.outside Place.beside 0 start := by
  intro ssdp homekit start
  have hdiscreet := discreet_outside pressedButton
  have hnone : FindsNothing (ssdp.record pressedButton.outside Place.beside 0 start) :=
    findsNothing_record rfl _ _ _
  obtain ⟨hrun, _⟩ := announcements_agree hdiscreet announcedBridge _ _ 0 hnone
  exact ⟨⟨hdiscreet, hnone⟩, by cbv, hrun⟩

end Pairing
end HueLink
