-- One identity for each bridge. A bridge is announced over two channels and tells its id itself,
-- each time in a spelling of its own. All spellings come to the same digits, so a bridge is known
-- again wherever it turns up. Digits count as they are spelled: in another letter case they are
-- others.
import HueLink.Proofs.Bridge.Id
import HueLink.Proofs.Pairing.Credential

namespace HueLink

open Routine

namespace BridgeId

/-! ## Spellings -/

/-- The digits that identify a bridge, in the letter case in which they are spelled. -/
structure Digits where
  chars : List Char
  size : chars.length = 12
  hexadecimal : ∀ c ∈ chars, (Uuid.digit? c).isSome

namespace Digits

/-- The digits with nothing between them. -/
def text (d : Digits) : String := String.ofList d.chars

/-- The digits with padding in the middle. -/
def padded (d : Digits) (padding : List Char) : String :=
  String.ofList (d.chars.take 6 ++ padding ++ d.chars.drop 6)

/-- Characters with a colon after every second one, if more follow. -/
def withColons : List Char → List Char
  | a :: b :: c :: rest => a :: b :: ':' :: withColons (c :: rest)
  | few => few

/-- The digits with a colon between pairs. -/
def paired (d : Digits) : String := String.ofList (withColons d.chars)

/-- The ids that a bridge tells itself, or announces over SSDP. -/
inductive Spells (d : Digits) : String → Prop where
  | short : Spells d d.text
  | padded {padding : List Char} : padding.length = 4 → Spells d (d.padded padding)

variable {d d' : Digits} {id id' : String}

theorem ne_colon (d : Digits) {c : Char} (hc : c ∈ d.chars) : c ≠ ':' := by
  rintro rfl
  exact absurd (d.hexadecimal ':' hc) (by decide)

theorem text_inj : d.text = d'.text ↔ d = d' := by
  constructor
  · intro h
    have hchars : d.chars = d'.chars := String.ofList_injective h
    cases d
    cases d'
    subst hchars
    rfl
  · rintro rfl
    rfl

theorem normalize_text (d : Digits) : normalize d.text = d.text := by
  apply normalize_of_ne
  unfold text
  rw [String.length_ofList, d.size]
  decide

theorem normalize_padded (d : Digits) {padding : List Char} (hpadding : padding.length = 4) :
    normalize (d.padded padding) = d.text := by
  have hfront : (String.ofList (d.chars.take 6)).length = 6 := by
    rw [String.length_ofList, List.length_take, d.size]
    rfl
  have hback : (String.ofList (d.chars.drop 6)).length = 6 := by
    rw [String.length_ofList, List.length_drop, d.size]
  unfold padded text
  rw [String.ofList_append, String.ofList_append, BridgeId.normalize_padded hfront
    (by rwa [String.length_ofList]) hback, ← String.ofList_append, List.take_append_drop]

theorem Spells.normalize_eq (h : d.Spells id) : normalize id = d.text := by
  cases h with
  | short => exact d.normalize_text
  | padded hpadding => exact d.normalize_padded hpadding

theorem filter_withColons (cs : List Char) (h : ∀ c ∈ cs, c ≠ ':') :
    (withColons cs).filter (· != ':') = cs := by
  induction cs using withColons.induct with
  | case1 a b c rest ih =>
    have ha : a ≠ ':' := h a (by simp)
    have hb : b ≠ ':' := h b (by simp)
    have hrest := ih fun x hx => h x (List.mem_cons_of_mem _ (List.mem_cons_of_mem _ hx))
    simp [withColons, ha, hb, hrest]
  | case2 few hfew =>
    unfold withColons
    split
    · rename_i a b c rest
      exact absurd rfl (hfew a b c rest)
    · rw [List.filter_eq_self]
      intro c hc
      simpa using h c hc

end Digits
end BridgeId

namespace Pairing

variable {d : BridgeId.Digits} {f f' g g' : Flow} {es : List (Event Flow)} {r : FlowResult}
  {entrance : Entrance} {host : String} {before after others live : List Flow}

theorem bareId_paired {info : HomekitInfo} (h : info.id = d.paired) : info.bareId = d.text := by
  unfold HomekitInfo.bareId BridgeId.Digits.text
  rw [h]
  unfold BridgeId.Digits.paired
  rw [String.toList_ofList, BridgeId.Digits.filter_withColons _ fun c hc => d.ne_colon hc]

/-! ## Announcements -/

/-- The bridge with these digits is announced at this host, in a spelling of the channel. -/
def Entrance.Announces (d : BridgeId.Digits) (host : String) : Entrance → Prop
  | ssdp info => info.isGenuine = true ∧ info.host = host ∧ d.Spells info.serial
  | homekit info => info.host = host ∧ info.id = d.paired
  | user _ | init _ | link _ | known _ => False

theorem Entrance.Announces.announced_eq (h : entrance.Announces d host) :
    entrance.announced = some (host, d.text) := by
  cases entrance with
  | user | init | link | known => exact h.elim
  | ssdp info =>
    obtain ⟨_, rfl, hspells⟩ := h
    exact congrArg (fun id => some (info.host, id)) hspells.normalize_eq
  | homekit info =>
    obtain ⟨rfl, hid⟩ := h
    have hbare := congrArg BridgeId.normalize (bareId_paired hid)
    exact congrArg (fun id => some (info.host, id)) (hbare.trans d.normalize_text)

/-- A genuine announcement always leads to a claim to the host and the digits. -/
theorem claim_of_announces (ha : entrance.Announces d host) (h : Way entrance f es r f') :
    ∃ announcedId path, BridgeId.normalize announcedId = d.text ∧
      ClaimWay host announcedId path (f.enter .discovered) es r f' := by
  rcases claim_of_announced h ha.announced_eq with ⟨rfl, rfl, _⟩ | ⟨announcedId, path, hid, hclaim⟩
  · -- Only what is not genuine is turned away without a question.
    generalize hes : ([] : List (Event Flow)) = es at h
    cases h with
    | spurious hspurious =>
      rw [ha.1] at hspurious
      exact nomatch hspurious
    | user | init | link | known => exact ha.elim
    | ssdp _ hclaim | homekit hclaim =>
      cases hclaim with
      | claimed _ _ _ himport => exact nomatch hes
  · exact ⟨announcedId, path, hid.symm, hclaim⟩

/-- A flow that goes on after an announcement is bound to the digits. -/
theorem bond_of_form (ha : entrance.Announces d host) (h : Way entrance f es r f')
    (hform : r.isForm) : f'.context.uniqueId = some d.text := by
  obtain ⟨announcedId, path, hid, hclaim⟩ := claim_of_announces ha h
  cases hclaim with
  | hostTaken | configured | idTaken => exact nomatch hform
  | claimed _ _ _ himport =>
    rw [(keepsBond_import himport).bond hform, ← hid]
    rfl

theorem bond_of_entry {e : Entry} (ha : entrance.Announces d host)
    (h : Way entrance f es (.entry e) f') : f'.context.uniqueId = some d.text := by
  obtain ⟨_, hbond⟩ := backed_way h
  rw [hbond, ha.announced_eq]
  rfl

/-! ## Flows about one bridge -/

/-- The bridge with these digits was announced to the flow, which went on and was told of no other
since. -/
inductive Flow.Announced (d : BridgeId.Digits) : Flow → Prop where
  | told {entrance : Entrance} {host : String} {f f' : Flow} {es : List (Event Flow)}
    {r : FlowResult} : entrance.Announces d host → Passage Eq entrance.step f es r f' → r.isForm →
      Announced d f'
  | kept {entrance : Entrance} {f f' : Flow} {es : List (Event Flow)} {r : FlowResult} :
    Announced d f → entrance.announced = none → Passage Eq entrance.step f es r f' → r.isForm →
      Announced d f'

theorem Flow.Announced.bond (h : f.Announced d) : f.context.uniqueId = some d.text := by
  induction h with
  | told ha hstep hform => exact bond_of_form ha (way_of_passage hstep) hform
  | kept _ hnone hstep hform ih =>
    rw [(keepsBond_of_unannounced (way_of_passage hstep) hnone).bond hform, ih]

/-- A claim to a bridge that another flow is bound to is turned away: as already in progress, or as
already configured if the host has a record. -/
theorem turned_away_of_claim {announcedId : String} {path : Option String}
    (h : ClaimWay host announcedId path f es r f') (hreports : Reports f others es)
    (halone : f.Alone others)
    (htaken : ∃ g ∈ others, g.context.uniqueId = some (BridgeId.normalize announcedId)) :
    r = .abort .alreadyInProgress ∨ (r = .abort .alreadyConfigured ∧
      ∃ store, .asked .registrations store ∈ es ∧ isConfigured store host = true) := by
  cases h with
  | hostTaken | idTaken => exact Or.inl rfl
  | configured _ hstore => exact Or.inr ⟨rfl, _, by simp, hstore⟩
  | claimed _ _ hfree _ =>
    rw [meets_iff hreports (by simp) halone] at hfree
    exact absurd htaken hfree

/-- However a bridge spells its id, and whoever tells of it, it comes to the digits of the id, and
other digits come to another id, also if they differ in letter case only. So a flow is bound to the
same id whichever way it was announced, and a record holds that id too. And while a flow is about an
announced bridge, another flow to which the bridge is announced, at whatever host, is turned away:
as already in progress, or as already configured if the other host has a record. -/
theorem a_bridge_has_one_identity (d : BridgeId.Digits) :
    (∀ id, d.Spells id → BridgeId.normalize id = d.text) ∧
    (∀ d' id id', d.Spells id → BridgeId.Digits.Spells d' id' →
      (BridgeId.normalize id = BridgeId.normalize id' ↔ d = d')) ∧
    (∀ entrance host f es r f', Entrance.Announces d host entrance →
      Passage Eq entrance.step f es r f' → (∀ reason, r ≠ .abort reason) →
      f'.context.uniqueId = some d.text) ∧
    (∀ (entrance : Entrance) f es e f', Passage Eq entrance.step f es (.entry e) f' →
      ∃ s : Source, s.Backs f.context.id entrance.legacyFile (talk es) e ∧
        (d.Spells s.config.bridgeId → e.registration.bridgeId = d.text ∧
          (entrance.announced = none → f.context.uniqueId = none →
            f'.context.uniqueId = some d.text))) ∧
    (∀ before g after, Lobby (before ++ g :: after) →
      ∀ f ∈ before ++ after, f.Announced d →
      ∀ entrance host es r g', Entrance.Announces d host entrance →
        Passage Eq entrance.step g es r g' → Reports g (before ++ after) es →
        r = .abort .alreadyInProgress ∨ (r = .abort .alreadyConfigured ∧
          ∃ store, .asked .registrations store ∈ talk es ∧ isConfigured store host = true)) := by
  refine ⟨fun id h => h.normalize_eq, ?_, ?_, ?_, ?_⟩
  · intro d' id id' hid hid'
    rw [hid.normalize_eq, hid'.normalize_eq]
    exact BridgeId.Digits.text_inj
  · intro entrance host f es r f' ha hstep hends
    have hway := way_of_passage hstep
    cases r with
    | form => exact bond_of_form ha hway rfl
    | entry e => exact bond_of_entry ha hway
    | abort reason => exact absurd rfl (hends reason)
  · intro entrance f es e f' hstep
    obtain ⟨⟨s, hbacks⟩, hbond⟩ := backed_way (way_of_passage hstep)
    refine ⟨s, hbacks, ?_⟩
    intro hspells
    have hid := hbacks.bridgeId.trans hspells.normalize_eq
    refine ⟨hid, ?_⟩
    intro hnone hfree
    rw [hbond, hnone, hfree, hid]
    rfl
  · intro before g after hlobby f hf hannounced entrance host es r g' ha hstep hreports
    obtain ⟨halone, _⟩ := exclusive_cons.mp (exclusive_middle.mp (exclusive_of_lobby hlobby))
    obtain ⟨announcedId, path, hid, hclaim⟩ := claim_of_announces ha (way_of_passage hstep)
    refine turned_away_of_claim hclaim (reports_talk hreports) halone.enter ⟨f, hf, ?_⟩
    rw [hannounced.bond, hid]

/-! ## A bridge with capital letters in its id -/

/-- The digits of a bridge as HomeKit spells them. -/
def capitals : BridgeId.Digits :=
  ⟨"ECB5FA0A1B2C".toList, by decide, List.all_eq_true.mp (by decide)⟩

/-- The same digits in small letters. -/
def smalls : BridgeId.Digits :=
  ⟨"ecb5fa0a1b2c".toList, by decide, List.all_eq_true.mp (by decide)⟩

def overHomekit : Entrance := .homekit ⟨"192.168.1.2", "EC:B5:FA:0A:1B:2C"⟩

/-- The bridge is announced at another address too. -/
def overSsdp (serial : String) : Entrance :=
  .ssdp ⟨"192.168.1.3", genuineManufacturer, none, serial⟩

/-- The flow that was told over HomeKit and waits for the button. -/
def homekitFlow : Flow :=
  ⟨⟨default, .homekit, some "192.168.1.2", some "ECB5FA0A1B2C"⟩, some "192.168.1.2", .link⟩

def ssdpFlow : Flow := Flow.begin (Uuid.ofNat 1) .ssdp

/-- What the other flow meets when it is told over SSDP. -/
def toldOverSsdp (serial : String) (store : List Registration) : List (Event Flow) :=
  (overSsdp serial).recorded (unpressed [homekitFlow, ssdpFlow]) ssdpFlow store

theorem passage_overHomekit : ∃ es, Passage Eq overHomekit.step (Flow.begin default .homekit) es
    (.form .link [] none) homekitFlow ∧ Reports (Flow.begin default .homekit) [ssdpFlow] es :=
  ⟨_, @passage_recorded _ _ _ _ (unpressed [Flow.begin default .homekit, ssdpFlow]) [] 40 (by cbv),
    @reports_unpressed _ [] [ssdpFlow] _ _⟩

theorem announces_overHomekit : overHomekit.Announces capitals "192.168.1.2" :=
  ⟨rfl, by decide⟩

theorem announced_homekitFlow : homekitFlow.Announced capitals := by
  obtain ⟨es, hstep, _⟩ := passage_overHomekit
  exact .told announces_overHomekit hstep rfl

theorem lobby_homekitFlow : Lobby [homekitFlow, ssdpFlow] := by
  have hfirst : Lobby [Flow.begin default .homekit] := @Lobby.began [] _ _ .empty (by simp)
  have hboth : Lobby [Flow.begin default .homekit, ssdpFlow] := by
    refine @Lobby.began [Flow.begin default .homekit] _ _ hfirst ?_
    intro f hf
    rw [List.mem_singleton.mp hf]
    decide
  obtain ⟨es, hstep, hreports⟩ := passage_overHomekit
  exact @Lobby.stepped [] [ssdpFlow] _ _ _ _ _ hboth hstep hreports

theorem reports_toldOverSsdp (serial : String) (store : List Registration) :
    Reports ssdpFlow [homekitFlow] (toldOverSsdp serial store) :=
  @reports_unpressed ssdpFlow [homekitFlow] [] _ _

/-- A bridge that is announced in capital letters at one host and in small letters at another is
taken for two. And at a host that has a record it is turned away for that, not for the flow in
progress. -/
theorem letter_case_tells_bridges_apart :
    capitals.chars.map Char.toLower = smalls.chars ∧
    Lobby [homekitFlow, ssdpFlow] ∧ homekitFlow.Announced capitals ∧
    ((overSsdp "ecb5fa0a1b2c").Announces smalls "192.168.1.3" ∧
      Reports ssdpFlow [homekitFlow] (toldOverSsdp "ecb5fa0a1b2c" []) ∧
      ∃ f', Passage Eq (overSsdp "ecb5fa0a1b2c").step ssdpFlow (toldOverSsdp "ecb5fa0a1b2c" [])
          (.form .link [] none) f' ∧
        f'.context.uniqueId ≠ homekitFlow.context.uniqueId) ∧
    ((overSsdp "ECB5FA0A1B2C").Announces capitals "192.168.1.3" ∧
      Reports ssdpFlow [homekitFlow]
        (toldOverSsdp "ECB5FA0A1B2C" [⟨"192.168.1.3", "001788aabbcc", "u"⟩]) ∧
      ∃ f', Passage Eq (overSsdp "ECB5FA0A1B2C").step ssdpFlow
        (toldOverSsdp "ECB5FA0A1B2C" [⟨"192.168.1.3", "001788aabbcc", "u"⟩])
        (.abort .alreadyConfigured) f') := by
  have hsmall : Passage Eq (overSsdp "ecb5fa0a1b2c").step ssdpFlow
      (toldOverSsdp "ecb5fa0a1b2c" []) (.form .link [] none)
      ⟨⟨Uuid.ofNat 1, .ssdp, some "192.168.1.3", some "ecb5fa0a1b2c"⟩, some "192.168.1.3", .link⟩ :=
    passage_recorded (t := 40) (by cbv)
  have hrecorded : Passage Eq (overSsdp "ECB5FA0A1B2C").step ssdpFlow
      (toldOverSsdp "ECB5FA0A1B2C" [⟨"192.168.1.3", "001788aabbcc", "u"⟩])
      (.abort .alreadyConfigured) ((ssdpFlow.about "192.168.1.3").enter .aborted) :=
    passage_recorded (t := 0) (by cbv)
  refine ⟨by decide, lobby_homekitFlow, announced_homekitFlow,
    ⟨⟨by cbv, rfl, .short⟩, reports_toldOverSsdp _ _, _, hsmall, by decide⟩,
    ⟨⟨by cbv, rfl, .short⟩, reports_toldOverSsdp _ _, _, hrecorded⟩⟩

theorem a_bridge_has_one_identity_in_capitals :
    (Lobby [homekitFlow, ssdpFlow] ∧ homekitFlow.Announced capitals ∧
      (overSsdp "ECB5FAFFFE0A1B2C").Announces capitals "192.168.1.3") ∧
    Passage Eq (overSsdp "ECB5FAFFFE0A1B2C").step ssdpFlow (toldOverSsdp "ECB5FAFFFE0A1B2C" [])
      (.abort .alreadyInProgress) ((ssdpFlow.about "192.168.1.3").enter .aborted) ∧
    homekitFlow.context.uniqueId = some (BridgeId.normalize "ECB5FAFFFE0A1B2C") ∧
    ∀ es r f', Passage Eq (overSsdp "ECB5FAFFFE0A1B2C").step ssdpFlow es r f' →
      Reports ssdpFlow [homekitFlow] es →
      r = .abort .alreadyInProgress ∨ r = .abort .alreadyConfigured := by
  have hpadded : capitals.Spells "ECB5FAFFFE0A1B2C" :=
    @BridgeId.Digits.Spells.padded capitals "FFFE".toList rfl
  have hannounces : (overSsdp "ECB5FAFFFE0A1B2C").Announces capitals "192.168.1.3" :=
    ⟨by cbv, rfl, hpadded⟩
  have hstep : Passage Eq (overSsdp "ECB5FAFFFE0A1B2C").step ssdpFlow
      (toldOverSsdp "ECB5FAFFFE0A1B2C" []) (.abort .alreadyInProgress)
      ((ssdpFlow.about "192.168.1.3").enter .aborted) := passage_recorded (t := 0) (by cbv)
  obtain ⟨es, hfirst, _⟩ := passage_overHomekit
  obtain ⟨hnormal, _, hbound, _, hturned⟩ := a_bridge_has_one_identity capitals
  have hbond := hbound _ _ _ _ _ _ announces_overHomekit hfirst (by simp)
  refine ⟨⟨lobby_homekitFlow, announced_homekitFlow, hannounces⟩, hstep, ?_, ?_⟩
  · rw [hbond, hnormal _ hpadded]
  · intro es r f' hnext hreports
    rcases hturned [homekitFlow] ssdpFlow [] lobby_homekitFlow homekitFlow (by simp)
      announced_homekitFlow _ _ _ _ _ hannounces hnext hreports with hr | ⟨hr, _⟩
    · exact Or.inl hr
    · exact Or.inr hr

end Pairing
end HueLink
