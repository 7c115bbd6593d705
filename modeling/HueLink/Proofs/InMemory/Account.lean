-- The account that a bridge in memory keeps, and what its clients know of it. Whatever is done with
-- the bridge and its clients, in whatever order: a client knows the lists as they were when it last
-- loaded them itself, and the bridge has down what it granted and nothing else.
import HueLink.Proofs.InMemory.Course
import Mathlib.Data.List.Induction

namespace HueLink.InMemory

variable {w w' : World} {e : Happening} {es : List Happening} {c : Client}

/-! ## What counts -/

/-- What a client loads from the bridge. -/
inductive Listing where
  | groups | scenes
deriving DecidableEq

abbrev Listing.Item : Listing → Type
  | groups => Group
  | scenes => Scene

/-- What the bridge has. -/
def Bridge.listed (b : Bridge) : (k : Listing) → List k.Item
  | .groups => b.groups
  | .scenes => b.scenes

/-- What the client knows of it. -/
def Api.listed (a : Api) : (k : Listing) → List k.Item
  | .groups => a.groups
  | .scenes => a.scenes

namespace Happening

/-- The client got a username of its own. -/
def creates (c : Client) : Happening → Bool
  | called (.createUser c' _) a => c' = c ∧ a.isOk
  | _ => false

/-- The client loaded what the bridge has. -/
def loads (k : Listing) (c : Client) : Happening → Bool
  | called (.validate c') a => c' = c ∧ a.isOk
  | called (.updateGroups c') a => k = .groups ∧ c' = c ∧ a.isOk
  | called (.updateScenes c') a => k = .scenes ∧ c' = c ∧ a.isOk
  | _ => false

/-- The label under which a user was created. -/
def label? : Happening → Option String
  | called (.createUser _ label) a => if a.isOk then some label else none
  | _ => none

/-- The scene that was recalled, with its group. -/
def activation? : Happening → Option (String × String)
  | called (.setGroupScene _ group scene) a => if a.isOk then some (group, scene) else none
  | _ => none

/-- A client had its groups loaded again. -/
def isRefresh : Happening → Bool
  | called (.updateGroups _) a => a.isOk
  | _ => false

end Happening

/-- The call was refused. -/
def Refused : (c : Call) → c.Answer → Prop
  | .createUser _ _, a | .updateGroups _, a | .updateScenes _, a | .setGroupScene _ _ _, a =>
    a.isOk = false
  | .validate _, a => a.isOk = false
  | .groups _, a => a.isOk = false
  | .scenes _, a => a.isOk = false
  | .discover, a => a.isOk = false
  | .unloaded _ _, _ | .sleep _, _ => False

/-- The bridge has the username of the client. -/
def World.Admits (w : World) (c : Client) : Prop :=
  ∃ name, (w.client c).username = some name ∧ name ∈ w.bridge.usernames

/-- What `value` was when such a thing last happened from the beginning until now, or `first` if it
never did. -/
def AsOfLast {γ : Type} (such : Happening → Bool) (value : World → γ) (first : γ)
    (es : List Happening) (w : World) (x : γ) : Prop :=
  ((∀ e ∈ es, such e = false) ∧ x = first) ∨
    ∃ before e after w₁, es = before ++ e :: after ∧ such e = true ∧
      (∀ e' ∈ after, such e' = false) ∧ Course .fresh before w₁ ∧ Course w₁ (e :: after) w ∧
      x = value w₁

/-! ## One client and the others -/

theorem World.client_congr (h : w'.clients = w.clients) (c : Client) :
    w'.client c = w.client c := by
  unfold World.client
  rw [h]

/-- A client that is not there yet knows what one knows that is new. -/
theorem World.listed_connect (host : String) (username : Option String) (c : Client)
    (k : Listing) : ((w.connect host username).2.client c).listed k = (w.client c).listed k := by
  unfold World.client World.connect
  rw [List.getElem?_append]
  split
  · rfl
  · rename_i h
    rw [List.getElem?_eq_none (Nat.le_of_not_lt h)]
    rcases c.index - w.clients.length with _ | n <;> cases k <;> rfl

theorem World.client_connect_of_lt (host : String) (username : Option String)
    (h : c.index < w.clients.length) :
    (w.connect host username).2.client c = w.client c := by
  unfold World.client World.connect
  rw [List.getElem?_append_left h]

variable {α γ : Type} {act : Api → Bridge → Except Fault α × Api × Bridge} {c' : Client}

theorem World.client_onBridge (c : Client) (act : Api → Bridge → Except Fault α × Api × Bridge)
    (w : World) (c' : Client) :
    (World.onBridge c act w).2.client c' =
      if c = c' ∧ c.index < w.clients.length then (act (w.client c) w.bridge).2.1
      else w.client c' := by
  unfold World.onBridge World.client
  simp only [List.getElem?_set]
  by_cases hc : c = c'
  · subst hc
    by_cases hlt : c.index < w.clients.length <;> simp [hlt]
  · have hne : c.index ≠ c'.index := fun h => hc (by cases c; cases c'; cases h; rfl)
    simp [hc, hne]

/-- What no client loses or gets by an act, none has lost or got after it. -/
theorem kept_onBridge (shown : Api → γ) (hkeeps : ∀ a b, shown (act a b).2.1 = shown a)
    (c : Client) (w : World) (c' : Client) :
    shown ((World.onBridge c act w).2.client c') = shown (w.client c') := by
  rw [World.client_onBridge]
  split
  · rename_i h
    rw [hkeeps, h.1]
  · rfl

/-- What one client loads by an act, only that one has loaded after it. -/
theorem loaded_onBridge (shown : Api → γ) (current : Bridge → γ) (p : Prop) [Decidable p]
    (hload : ∀ a b, shown (act a b).2.1 = if p ∧ (act a b).1.isOk then current b else shown a)
    (hknown : ∀ a b, (act a b).1.isOk → b.knows a = true) (c : Client) (w : World) (c' : Client) :
    shown ((World.onBridge c act w).2.client c') =
      if p ∧ c = c' ∧ (World.onBridge c act w).1.isOk then current w.bridge
      else shown (w.client c') := by
  have hok : (World.onBridge c act w).1 = (act (w.client c) w.bridge).1 := rfl
  rw [World.client_onBridge, hok]
  by_cases hc : c = c'
  · subst hc
    by_cases hlt : c.index < w.clients.length
    · simp [hlt, hload]
    · have habsent : (act (w.client c) w.bridge).1.isOk = false := by
        rw [← Bool.not_eq_true]
        intro h
        have hname : (w.client c).username = none := by
          unfold World.client
          rw [List.getElem?_eq_none (Nat.le_of_not_lt hlt)]
          rfl
        simpa [Bridge.knows, hname] using hknown _ _ h
      simp [hlt, habsent]
  · simp [hc]

/-! ## What the bridge does -/

namespace Bridge

variable {a : Api} {b : Bridge}

theorem knows_iff : b.knows a = true ↔ ∃ name, a.username = some name ∧ name ∈ b.usernames := by
  simp [knows, Option.any_eq_true]

theorem isOk_validate (h : b.fault = none) : (validate a b).1.isOk = b.knows a := by
  unfold validate
  cases b.knows a <;> simp [h, Except.isOk, Except.toBool]

theorem isOk_updateGroups : (updateGroups a b).1.isOk = b.knows a := by
  unfold updateGroups
  cases b.knows a <;> rfl

theorem isOk_updateScenes : (updateScenes a b).1.isOk = b.knows a := by
  unfold updateScenes
  cases b.knows a <;> rfl

theorem isOk_setGroupScene {group scene : String} :
    (setGroupScene group scene a b).1.isOk = b.knows a := by
  unfold setGroupScene
  cases b.knows a <;> rfl

theorem knows_of_isOk_validate (h : (validate a b).1.isOk = true) : b.knows a = true := by
  unfold validate at h
  cases hfault : b.fault with
  | some fault => simp [hfault, Except.isOk, Except.toBool] at h
  | none =>
    rw [← isOk_validate hfault]
    simpa [validate, hfault] using h

/-! ### What a client knows after it -/

theorem listed_createUser (label : String) (a : Api) (b : Bridge) (k : Listing) :
    (createUser label a b).2.1.listed k = a.listed k := by
  unfold createUser
  split
  · rfl
  · split <;> cases k <;> rfl

theorem listed_validate (a : Api) (b : Bridge) (k : Listing) :
    (validate a b).2.1.listed k =
      if True ∧ (validate a b).1.isOk then b.listed k else a.listed k := by
  unfold validate
  split
  · rfl
  · split <;> cases k <;> rfl

theorem listed_updateGroups (a : Api) (b : Bridge) (k : Listing) :
    (updateGroups a b).2.1.listed k =
      if k = .groups ∧ (updateGroups a b).1.isOk then b.listed k else a.listed k := by
  unfold updateGroups
  split <;> cases k <;> rfl

theorem listed_updateScenes (a : Api) (b : Bridge) (k : Listing) :
    (updateScenes a b).2.1.listed k =
      if k = .scenes ∧ (updateScenes a b).1.isOk then b.listed k else a.listed k := by
  unfold updateScenes
  split <;> cases k <;> rfl

theorem client_setGroupScene (group scene : String) (a : Api) (b : Bridge) :
    (setGroupScene group scene a b).2.1 = a := by
  unfold setGroupScene
  split <;> rfl

theorem username_validate (a : Api) (b : Bridge) : (validate a b).2.1.username = a.username := by
  unfold validate
  split
  · rfl
  · split <;> rfl

theorem username_updateGroups (a : Api) (b : Bridge) :
    (updateGroups a b).2.1.username = a.username := by
  unfold updateGroups
  split <;> rfl

theorem username_updateScenes (a : Api) (b : Bridge) :
    (updateScenes a b).2.1.username = a.username := by
  unfold updateScenes
  split <;> rfl

/-! ### What is refused changes nothing -/

theorem createUser_refused {label : String} (h : (createUser label a b).1.isOk = false) :
    (createUser label a b).2 = (a, b) := by
  unfold createUser at h ⊢
  split
  · rfl
  · split
    · simp_all [Except.isOk, Except.toBool]
    · rfl

theorem validate_refused (h : (validate a b).1.isOk = false) : (validate a b).2 = (a, b) := by
  unfold validate at h ⊢
  split
  · rfl
  · split
    · simp_all [Except.isOk, Except.toBool]
    · rfl

theorem updateGroups_refused (h : (updateGroups a b).1.isOk = false) :
    (updateGroups a b).2 = (a, b) := by
  rw [isOk_updateGroups] at h
  simp [updateGroups, h]

theorem updateScenes_refused (h : (updateScenes a b).1.isOk = false) :
    (updateScenes a b).2 = (a, b) := by
  rw [isOk_updateScenes] at h
  simp [updateScenes, h]

theorem setGroupScene_refused {group scene : String}
    (h : (setGroupScene group scene a b).1.isOk = false) :
    (setGroupScene group scene a b).2 = (a, b) := by
  rw [isOk_setGroupScene] at h
  simp [setGroupScene, h]

end Bridge

theorem World.onBridge_refused (hkeeps : (act (w.client c) w.bridge).2 = (w.client c, w.bridge)) :
    (World.onBridge c act w).2 = w := by
  have hset : w.clients.set c.index (w.client c) = w.clients := by
    unfold World.client
    by_cases hlt : c.index < w.clients.length
    · simp [hlt]
    · exact List.set_eq_of_length_le (Nat.le_of_not_lt hlt)
  unfold World.onBridge
  simp only [hkeeps, hset]

/-- What is refused leaves the world as it is. -/
theorem Happens.eq_of_refused {call : Call} {a : call.Answer} (h : Happens w (.called call a) w')
    (hrefused : Refused call a) : w' = w := by
  cases h with
  | called _ made =>
    cases call with
    | createUser c label => exact World.onBridge_refused (Bridge.createUser_refused hrefused)
    | validate c => exact World.onBridge_refused (Bridge.validate_refused hrefused)
    | updateGroups c => exact World.onBridge_refused (Bridge.updateGroups_refused hrefused)
    | updateScenes c => exact World.onBridge_refused (Bridge.updateScenes_refused hrefused)
    | setGroupScene c group scene =>
      exact World.onBridge_refused (Bridge.setGroupScene_refused hrefused)
    | groups | scenes | discover => rfl
    | unloaded | sleep => exact hrefused.elim

/-! ## What one happening changes -/

/-- A client knows another list only once it has loaded it, and then the one the bridge has. -/
theorem listed_of_happens (h : Happens w e w') (k : Listing) (c : Client) :
    (w'.client c).listed k = if e.loads k c then w.bridge.listed k else (w.client c).listed k := by
  cases h with
  | changed _ => rfl
  | asked q =>
    cases q with
    | connect host username => exact World.listed_connect host username c k
    | _ => rfl
  | called call made =>
    cases call with
    | createUser c' label =>
      exact kept_onBridge (Api.listed · k) (Bridge.listed_createUser label · · k) c' w c
    | validate c' =>
      have hload := loaded_onBridge (Api.listed · k) (Bridge.listed · k) True
        (Bridge.listed_validate · · k) (fun _ _ => Bridge.knows_of_isOk_validate) c' w c
      simp only [true_and] at hload
      simp only [Happening.loads, decide_eq_true_eq]
      exact hload
    | updateGroups c' =>
      simp only [Happening.loads, decide_eq_true_eq]
      exact loaded_onBridge (Api.listed · k) (Bridge.listed · k) _
        (Bridge.listed_updateGroups · · k) (fun _ _ h => Bridge.isOk_updateGroups ▸ h) c' w c
    | updateScenes c' =>
      simp only [Happening.loads, decide_eq_true_eq]
      exact loaded_onBridge (Api.listed · k) (Bridge.listed · k) _
        (Bridge.listed_updateScenes · · k) (fun _ _ h => Bridge.isOk_updateScenes ▸ h) c' w c
    | setGroupScene c' group scene =>
      exact kept_onBridge (Api.listed · k)
        (fun a b => congrArg (Api.listed · k) (Bridge.client_setGroupScene group scene a b)) c' w c
    | _ => rfl
  | elsewhere _ hclients =>
    rw [World.client_congr hclients c]
    rfl

/-- Who is connected has another username only once a user was created for it. -/
theorem username_of_happens (h : Happens w e w') (hc : c.index < w.clients.length)
    (hcreates : e.creates c = false) : (w'.client c).username = (w.client c).username := by
  cases h with
  | changed _ => rfl
  | asked q =>
    cases q with
    | connect host username =>
      exact congrArg Api.username (World.client_connect_of_lt host username hc)
    | _ => rfl
  | called call made =>
    cases call with
    | createUser c' label =>
      by_cases hne : c' = c
      · have hrefused : ((made.receive (.createUser c' label)).finish w).1.isOk = false := by
          simpa [Happening.creates, hne] using hcreates
        rw [(Happens.called w (.createUser c' label) made).eq_of_refused hrefused]
      · exact congrArg Api.username
          ((World.client_onBridge c' _ w c).trans (if_neg fun h => hne h.1))
    | validate c' =>
      exact kept_onBridge Api.username Bridge.username_validate c' w c
    | updateGroups c' =>
      exact kept_onBridge Api.username Bridge.username_updateGroups c' w c
    | updateScenes c' =>
      exact kept_onBridge Api.username Bridge.username_updateScenes c' w c
    | setGroupScene c' group scene =>
      exact kept_onBridge Api.username
        (fun a b => congrArg Api.username (Bridge.client_setGroupScene group scene a b)) c' w c
    | _ => rfl
  | elsewhere _ hclients => rw [World.client_congr hclients c]

open Happening in
/-- The bridge puts down what it grants. -/
theorem account_of_happens (h : Happens w e w') :
    w'.bridge.labels = w.bridge.labels ++ e.label?.toList ∧
      w'.bridge.activations = w.bridge.activations ++ e.activation?.toList ∧
      w'.bridge.refreshes = w.bridge.refreshes + e.isRefresh.toNat := by
  cases h with
  | changed change =>
    cases change <;>
      simp [Bridge.change, label?, activation?, isRefresh]
  | asked q =>
    cases q <;>
      simp [World.answer, World.connect, World.updateHost, World.beginUnload, World.register,
        World.remove, label?, activation?, isRefresh]
  | called call made =>
    cases call with
    | createUser c' label =>
      simp only [World.receive, World.onBridge, label?, activation?, isRefresh,
        Bridge.createUser]
      split
      · simp [Except.isOk, Except.toBool]
      · split <;> simp [Except.isOk, Except.toBool]
    | validate c' =>
      simp only [World.receive, World.onBridge, label?, activation?, isRefresh,
        Bridge.validate]
      split
      · simp
      · split <;> simp
    | updateGroups c' => 
      simp only [World.receive, World.onBridge, label?, activation?, isRefresh,
        Bridge.updateGroups]
      split <;> simp [Except.isOk, Except.toBool]
    | updateScenes c' =>
      simp only [World.receive, World.onBridge, label?, activation?, isRefresh,
        Bridge.updateScenes]
      split <;> simp
    | setGroupScene c' group scene =>
      simp only [World.receive, World.onBridge, label?, activation?, isRefresh,
        Bridge.setGroupScene]
      split <;> simp [Except.isOk, Except.toBool]
    | _ => simp [World.receive, label?, activation?, isRefresh]
  | elsewhere hbridge _ =>
    simp [hbridge, label?, activation?, isRefresh]

/-! ## From the beginning until now -/

/-- What is taken over from elsewhere whenever such a thing happens, and only then, is as it was
when such a thing last happened. -/
theorem asOfLast_of_course {such : Happening → Bool} {value shown : World → γ} {first : γ}
    (hstart : shown .fresh = first)
    (hstep : ∀ w e w', Happens w e w' → shown w' = if such e then value w else shown w)
    (h : Course .fresh es w) : AsOfLast such value first es w (shown w) := by
  induction es using List.reverseRecOn generalizing w with
  | nil =>
    cases h
    exact Or.inl ⟨fun _ h => (nomatch h), hstart⟩
  | append_singleton es e ih =>
    obtain ⟨w₁, h₁, he⟩ := course_concat.mp h
    rw [hstep _ _ _ he]
    cases hsuch : such e with
    | true =>
      exact Or.inr ⟨es, e, [], w₁, rfl, hsuch, fun _ h => (nomatch h), h₁,
        .head he (.refl w), rfl⟩
    | false =>
      rcases ih h₁ with
        ⟨hnone, hfirst⟩ | ⟨before, e', after, w₀, rfl, he', hafter, h₀, hsince, hval⟩
      · refine Or.inl ⟨fun d hd => ?_, hfirst⟩
        rcases List.mem_append.mp hd with hd | hd
        · exact hnone d hd
        · rwa [List.mem_singleton.mp hd]
      · refine Or.inr ⟨before, e', after ++ [e], w₀, by simp, he', fun d hd => ?_, h₀,
          course_concat.mpr ⟨w₁, hsince, he⟩, hval⟩
        rcases List.mem_append.mp hd with hd | hd
        · exact hafter d hd
        · rwa [List.mem_singleton.mp hd]

/-- A client knows the lists as they were when it last loaded them. -/
theorem listed_of_course (h : Course .fresh es w) (k : Listing) (c : Client) :
    AsOfLast (Happening.loads k c) (·.bridge.listed k) [] es w ((w.client c).listed k) :=
  asOfLast_of_course (by cases k <;> rfl) (fun _ _ _ h => listed_of_happens h k c) h

/-- The bridge has down what it granted since the beginning. -/
theorem account_of_course (h : Course .fresh es w) :
    w.bridge.labels = es.filterMap Happening.label? ∧
      w.bridge.activations = es.filterMap Happening.activation? ∧
      w.bridge.refreshes = es.countP Happening.isRefresh := by
  induction es using List.reverseRecOn generalizing w with
  | nil =>
    cases h
    exact ⟨rfl, rfl, rfl⟩
  | append_singleton es e ih =>
    obtain ⟨w₁, h₁, he⟩ := course_concat.mp h
    obtain ⟨hlabels, hactivations, hrefreshes⟩ := ih h₁
    obtain ⟨hlabel, hactivation, hrefresh⟩ := account_of_happens he
    have hlast {γ : Type} (f : Happening → Option γ) : [e].filterMap f = (f e).toList := by
      cases hf : f e <;> simp [hf]
    have hcount : [e].countP Happening.isRefresh = e.isRefresh.toNat := by
      rw [List.countP_singleton]
      cases e.isRefresh <;> rfl
    rw [hlabel, hlabels, hactivation, hactivations, hrefresh, hrefreshes, List.filterMap_append,
      List.filterMap_append, List.countP_append, hlast, hlast, hcount]
    exact ⟨rfl, rfl, rfl⟩

/-! ## The account is exact -/

theorem admits_iff (w : World) (c : Client) : w.Admits c ↔ w.bridge.knows (w.client c) = true :=
  Bridge.knows_iff.symm

/-- However a bridge in memory and its clients are used, in whatever order. Each client answers with
the lists as they were when it last loaded them itself, and has another username only once one was
created for it. It can validate, load again and recall scenes if and only if the bridge has its
username. The bridge has down the scenes it recalled, the refreshes and the users it created, in
order and nothing else; and what is refused changes nothing. -/
theorem account_exact (h : Course .fresh es w) :
    (∀ c a w', Happens w (.called (.groups c) a) w' → ∃ list, a = .ok list ∧
      AsOfLast (Happening.loads .groups c) (·.bridge.groups) [] es w list) ∧
    (∀ c a w', Happens w (.called (.scenes c) a) w' → ∃ list, a = .ok list ∧
      AsOfLast (Happening.loads .scenes c) (·.bridge.scenes) [] es w list) ∧
    (∀ c e w', c.index < w.clients.length → Happens w e w' → e.creates c = false →
      (w'.client c).username = (w.client c).username) ∧
    (∀ c a w', Happens w (.called (.validate c) a) w' → w.bridge.fault = none →
      (a.isOk = true ↔ w.Admits c)) ∧
    (∀ c a w', Happens w (.called (.updateGroups c) a) w' → (a.isOk = true ↔ w.Admits c)) ∧
    (∀ c a w', Happens w (.called (.updateScenes c) a) w' → (a.isOk = true ↔ w.Admits c)) ∧
    (∀ c group scene a w', Happens w (.called (.setGroupScene c group scene) a) w' →
      (a.isOk = true ↔ w.Admits c)) ∧
    w.bridge.activations = es.filterMap Happening.activation? ∧
    w.bridge.refreshes = es.countP Happening.isRefresh ∧
    w.bridge.labels = es.filterMap Happening.label? ∧
    ∀ call a w', Happens w (.called call a) w' → Refused call a → w' = w := by
  obtain ⟨hlabels, hactivations, hrefreshes⟩ := account_of_course h
  refine ⟨fun c a w' hgroups => ?_, fun c a w' hscenes => ?_, fun c e w' hc he hcreates =>
    username_of_happens he hc hcreates, fun c a w' hvalidate hfault => ?_, fun c a w' hupdate => ?_,
    fun c a w' hupdate => ?_, fun c group scene a w' hset => ?_, hactivations, hrefreshes, hlabels,
    fun call a w' hcall => hcall.eq_of_refused⟩
  · cases hgroups
    exact ⟨_, rfl, listed_of_course h .groups c⟩
  · cases hscenes
    exact ⟨_, rfl, listed_of_course h .scenes c⟩
  all_goals rw [admits_iff]
  · cases hvalidate
    exact Bool.eq_iff_iff.mp (Bridge.isOk_validate hfault)
  · cases hupdate
    exact Bool.eq_iff_iff.mp Bridge.isOk_updateGroups
  · cases hupdate
    exact Bool.eq_iff_iff.mp Bridge.isOk_updateScenes
  · cases hset
    exact Bool.eq_iff_iff.mp Bridge.isOk_setGroupScene

/-- Two clients at one bridge: the first creates the user, and only the first loads the groups after
they were changed. -/
def sharedUser : List Happening :=
  [.changed .press, .asked (.connect "bridge.local" none) ⟨0⟩,
    .called (.createUser ⟨0⟩ "hue-link#test") (.ok ()),
    .asked (.connect "bridge.local" (some "user-1")) ⟨1⟩,
    .called (.validate ⟨1⟩) (.ok Bridge.plain.config), .changed (.groups [⟨"1", "Kitchen", ["4"]⟩]),
    .called (.updateGroups ⟨0⟩) (.ok ()), .called (.setGroupScene ⟨1⟩ "1" "sunset") (.ok ())]

/-- The second client still knows of no groups, and both have what they did put down. -/
theorem sharedUser_second_knows_no_groups : ∃ w, Course .fresh sharedUser w ∧
    w.bridge.activations = [("1", "sunset")] ∧ w.bridge.refreshes = 1 ∧
    w.bridge.labels = ["hue-link#test"] ∧
    AsOfLast (Happening.loads .groups ⟨1⟩) (·.bridge.groups) [] sharedUser w [] := by
  have h : ∃ w, Course .fresh sharedUser w ∧ (w.client ⟨1⟩).groups = [] := by
    refine ⟨_, .head (.changed _ _) (.head (.asked _ _) (.head (.called _ _ .fresh)
      (.head (.asked _ _) (.head (.called _ _ .fresh) (.head (.changed _ _)
        (.head (.called _ _ .fresh) (.head (.called _ _ .fresh) (.refl _)))))))), rfl⟩
  obtain ⟨w, h, hgroups⟩ := h
  obtain ⟨hknown, -, -, -, -, -, -, hactivations, hrefreshes, hlabels, -⟩ := account_exact h
  obtain ⟨list, hlist, hlast⟩ := hknown ⟨1⟩ _ _ (.called w (.groups ⟨1⟩) w)
  refine ⟨w, h, hactivations, hrefreshes, hlabels, ?_⟩
  obtain rfl : (w.client ⟨1⟩).groups = list := Except.ok.inj hlist
  rwa [hgroups] at hlast

end HueLink.InMemory
