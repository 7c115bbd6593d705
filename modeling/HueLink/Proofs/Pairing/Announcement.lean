-- Announcements over SSDP. An announcement that no real bridge makes is turned away first, then one
-- that another flow or a registration has a claim to. Whoever is turned away has asked the host
-- who claims what, and nobody else. All others go on as an import of the host.
import HueLink.Proofs.Pairing.Identity
import HueLink.Proofs.Pairing.Import

namespace HueLink.Pairing

open Routine

/-! ## Real bridges -/

theorem occursIn_iff (word text : List Char) : occursIn word text = true ↔ word <:+: text := by
  induction text with
  | nil => simp [occursIn]
  | cons c rest ih =>
    unfold occursIn
    rw [Bool.or_eq_true, List.isPrefixOf_iff_prefix, ih, List.infix_cons_iff]

/-- No real bridge makes this announcement: it tells of another manufacturer, or somewhere in its
name there is the name of an emulated bridge. -/
def SsdpInfo.Spurious (info : SsdpInfo) : Prop :=
  info.manufacturerUrl ≠ genuineManufacturer ∨
    ∃ name word, info.name = some name ∧ word ∈ ignoredNames ∧ word.toList <:+: name.toList

theorem isIgnored_iff (name : String) :
    isIgnored name = true ↔ ∃ word ∈ ignoredNames, word.toList <:+: name.toList := by
  unfold isIgnored
  simp only [List.any_eq_true, occursIn_iff]

theorem isGenuine_iff (info : SsdpInfo) : info.isGenuine = true ↔ ¬ info.Spurious := by
  unfold SsdpInfo.isGenuine SsdpInfo.Spurious
  cases hname : info.name with
  | none => simp
  | some name => simp [← isIgnored_iff]

/-! ## Whoever is turned away -/

/-- The host is asked who claims what. -/
def asksClaims (e : Event Flow) : Prop :=
  (∃ flows, e = .asked .flowsInProgress flows) ∨ ∃ store, e = .asked .registrations store

variable {f f' : Flow} {es : List (Event Flow)} {r : FlowResult} {host announcedId : String}
  {path : Option String}

/-- It was told of somebody else with a claim: another flow that is about the host or bound to the
id, or a registration of the host. -/
def ClaimedByOther (f : Flow) (host id : String) (es : List (Event Flow)) : Prop :=
  (∃ flows, .asked .flowsInProgress flows ∈ es ∧
    (f.Meets flows (·.host = some host) ∨ f.Meets flows (·.uniqueId = some id))) ∨
  ∃ store, .asked .registrations store ∈ es ∧ ∃ old ∈ store, old.host = host

/-- A claim is either refused on account of somebody else, after nothing but questions who claims
what, or the host is imported. -/
theorem ClaimSettled.refused_or_imported (h : ClaimSettled host announcedId path f es r f') :
    (∃ reason ∈ [AbortReason.alreadyInProgress, .alreadyConfigured],
      TurnedAway f host reason r f' ∧ (∀ e ∈ es, asksClaims e) ∧
      ClaimedByOther f host (BridgeId.normalize announcedId) es) ∨
    ∃ es', Passage Eq (stepImport ⟨host, path⟩)
      ((f.about host).bound (BridgeId.normalize announcedId)) es' r f' := by
  obtain ⟨flows, after, rfl, ⟨hmeets, rfl, haway⟩ | ⟨_, store, after', rfl, hcase⟩⟩ := h
  · refine Or.inl ⟨_, by simp, haway, by simp [asksClaims], Or.inl ⟨flows, by simp, ?_⟩⟩
    exact Or.inl hmeets
  rcases hcase with ⟨hstored, rfl, haway⟩ | ⟨_, flows', after'', rfl, hcase⟩
  · exact Or.inl ⟨_, by simp, haway, by simp [asksClaims], Or.inr ⟨store, by simp, hstored⟩⟩
  rcases hcase with ⟨hmeets, rfl, haway⟩ | ⟨_, es', rfl, himport⟩
  · refine Or.inl ⟨_, by simp, haway, by simp [asksClaims], Or.inl ⟨flows', by simp, ?_⟩⟩
    exact Or.inr hmeets
  · exact Or.inr ⟨es', himport⟩

theorem TurnedAway.host_eq {reason : AbortReason} (h : TurnedAway f host reason r f') :
    f'.context.host = some host := by
  rw [h.left]
  rfl

theorem ClaimSettled.host_eq (h : ClaimSettled host announcedId path f es r f') :
    f'.context.host = some host := by
  rcases h.refused_or_imported with ⟨_, _, haway, _⟩ | ⟨_, himport⟩
  · exact haway.host_eq
  · exact (passage_stepImport himport).host_eq

/-- However a claim is settled, nobody is taken for an emulated bridge any more. -/
theorem ClaimSettled.ne_notHueBridge (h : ClaimSettled host announcedId path f es r f') :
    r ≠ .abort .notHueBridge := by
  rcases h.refused_or_imported with ⟨reason, hreason, haway, _⟩ | ⟨_, himport⟩
  · rw [haway.result]
    rintro ⟨⟩
    simp at hreason
  · rintro rfl
    have haccepted := (keepsBond_import (passage_stepImport himport)).accepted
    simp [FlowResult.isRejection] at haccepted

theorem passage_stepSsdp {info : SsdpInfo} (h : Passage Eq (stepSsdp info) f es r f') :
    (info.Spurious ∧ talk es = [] ∧ r = .abort .notHueBridge ∧ f' = f.enter .aborted) ∨
      (¬ info.Spurious ∧ ClaimSettled info.host info.serial
        (some ("phue-" ++ info.serial ++ ".conf")) (f.enter .discovered) (talk es) r f') := by
  obtain ⟨es₁, rfl, h₁⟩ := passage_modify_bind.mp h
  split at h₁
  · rename_i hgenuine
    have hsettled := claimSettled_of_passage h₁
    exact Or.inr ⟨(isGenuine_iff info).mp hgenuine, hsettled⟩
  · rename_i hspurious
    rw [isGenuine_iff, not_not] at hspurious
    obtain ⟨hsilent, rfl, rfl⟩ := passage_abort h₁
    exact Or.inl ⟨hspurious, hsilent, rfl, rfl⟩

/-- An announcement is over in time. One that no real bridge makes is turned away at once, and
leaves the flow about whatever it was about. For any other the flow is about its host, and the claim
to it is settled in order. Whoever is turned away keeps its id and its candidate, and has turned to
no bridge and to no file; and it is never turned away for its serial alone, but for somebody else
who has a claim already. -/
theorem an_announcement_is_settled_in_order (info : SsdpInfo) :
    (stepSsdp info).EndsWithin 20000 ∧
    ∀ f es r f', Passage Eq (stepSsdp info) f es r f' →
      (r = .abort .notHueBridge ↔ info.Spurious) ∧
      (info.Spurious → talk es = [] ∧ f'.context = f.context) ∧
      (¬ info.Spurious → f'.context.host = some info.host ∧
        ClaimSettled info.host info.serial (some ("phue-" ++ info.serial ++ ".conf"))
          (f.enter .discovered) (talk es) r f') ∧
      (r.isRejection = true →
        f'.context.uniqueId = f.context.uniqueId ∧ f'.candidate = f.candidate ∧
        (∀ e ∈ talk es, asksClaims e) ∧
        (info.Spurious ∨
          ClaimedByOther f info.host (BridgeId.normalize info.serial) (talk es))) := by
  refine ⟨endsWithin_step (.ssdp info), ?_⟩
  intro f es r f' h
  rcases passage_stepSsdp h with ⟨hspurious, hsilent, rfl, rfl⟩ | ⟨hgenuine, hsettled⟩
  · refine ⟨iff_of_true rfl hspurious, fun _ => ⟨hsilent, rfl⟩, fun hno => absurd hspurious hno, ?_⟩
    intro _
    rw [hsilent]
    exact ⟨rfl, rfl, by simp, Or.inl hspurious⟩
  · refine ⟨iff_of_false hsettled.ne_notHueBridge hgenuine, fun hno => absurd hno hgenuine,
      fun _ => ⟨hsettled.host_eq, hsettled⟩, ?_⟩
    intro hrejected
    rcases hsettled.refused_or_imported with ⟨_, _, haway, hasks, hother⟩ | ⟨_, himport⟩
    · rw [haway.left]
      exact ⟨rfl, rfl, hasks, Or.inr hother⟩
    · rw [(keepsBond_import (passage_stepImport himport)).accepted] at hrejected
      exact nomatch hrejected

/-! ## A bridge announced beside another flow -/

/-- An announcement without any serial, and one with the serial of a bridge that another flow is
bound to. -/
theorem an_announcement_is_settled_in_order_beside_another_flow :
    (Passage Eq (stepSsdp ⟨"192.168.1.3", genuineManufacturer, none, ""⟩) ssdpFlow
        (toldOverSsdp "" []) (.form .link [] none)
        ⟨⟨Uuid.ofNat 1, .ssdp, some "192.168.1.3", some ""⟩, some "192.168.1.3", .link⟩ ∧
      ¬ SsdpInfo.Spurious ⟨"192.168.1.3", genuineManufacturer, none, ""⟩) ∧
    Passage Eq (stepSsdp ⟨"192.168.1.3", genuineManufacturer, none, "ECB5FAFFFE0A1B2C"⟩) ssdpFlow
        (toldOverSsdp "ECB5FAFFFE0A1B2C" []) (.abort .alreadyInProgress)
        ((ssdpFlow.about "192.168.1.3").enter .aborted) ∧
      ClaimedByOther ssdpFlow "192.168.1.3" (BridgeId.normalize "ECB5FAFFFE0A1B2C")
        (talk (toldOverSsdp "ECB5FAFFFE0A1B2C" [])) := by
  have hnew : Passage Eq (overSsdp "").step ssdpFlow (toldOverSsdp "" []) (.form .link [] none)
      ⟨⟨Uuid.ofNat 1, .ssdp, some "192.168.1.3", some ""⟩, some "192.168.1.3", .link⟩ :=
    passage_recorded (t := 40) (by cbv)
  have hknown : Passage Eq (overSsdp "ECB5FAFFFE0A1B2C").step ssdpFlow
      (toldOverSsdp "ECB5FAFFFE0A1B2C" []) (.abort .alreadyInProgress)
      ((ssdpFlow.about "192.168.1.3").enter .aborted) := passage_recorded (t := 0) (by cbv)
  obtain ⟨_, hall⟩ := an_announcement_is_settled_in_order
    ⟨"192.168.1.3", genuineManufacturer, none, ""⟩
  obtain ⟨hspurious, _⟩ := hall _ _ _ _ hnew
  obtain ⟨_, hall'⟩ := an_announcement_is_settled_in_order
    ⟨"192.168.1.3", genuineManufacturer, none, "ECB5FAFFFE0A1B2C"⟩
  obtain ⟨hspurious', _, _, hrejected⟩ := hall' _ _ _ _ hknown
  obtain ⟨_, _, _, hcause⟩ := hrejected rfl
  have hgenuine : ¬ SsdpInfo.Spurious ⟨"192.168.1.3", genuineManufacturer, none, ""⟩ := by
    rw [← hspurious]
    decide
  have hgenuine' : ¬ SsdpInfo.Spurious
      ⟨"192.168.1.3", genuineManufacturer, none, "ECB5FAFFFE0A1B2C"⟩ := by
    rw [← hspurious']
    decide
  exact ⟨⟨hnew, hgenuine⟩, hknown, hcause.resolve_left hgenuine'⟩

end HueLink.Pairing
