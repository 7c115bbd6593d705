-- Two routines that go in step: they take the same steps in the same order for as long as their
-- calls are answered alike. What alike means is up to the calls. Neither reads the clock or sets a
-- deadline, so it does not matter how long an answer takes.
import HueLink.Proofs.Routine.Deeds
import Mathlib.Data.List.Forall2

namespace HueLink.Routine

/-- Which two answers to a call count as alike. -/
abbrev Likeness : Type := (c : Call) → c.Answer → c.Answer → Prop

variable {κ α β γ δ : Type}

namespace Deed

/-- What was called. -/
def call? : Deed κ → Option Call
  | event (.called c _) | event (.calledBy c _) => some c
  | event (.moved _ _) | event (.passed _) | event (.asked _ _) | locked | told _ => none

/-- The same deed, up to answers that are alike. -/
inductive Alike (alike : Likeness) : Deed κ → Deed κ → Prop where
  | moved (seen left : κ) : Alike alike (.event (.moved seen left)) (.event (.moved seen left))
  | passed (seen : κ) : Alike alike (.event (.passed seen)) (.event (.passed seen))
  | locked : Alike alike .locked .locked
  | asked (q : Query) (x x' : q.Answer) : Alike alike (.event (.asked q x)) (.event (.asked q x'))
  | called (c : Call) {x x' : c.Answer} : alike c x x' →
      Alike alike (.event (.called c x)) (.event (.called c x'))

/-- If both made the same call, it was answered alike. -/
def AnsweredAlike (alike : Likeness) (d d' : Deed κ) : Prop :=
  ∀ c x x', d = .event (.called c x) → d' = .event (.called c x') → alike c x x'

/-- If both looked at their state, they saw the same. -/
def SawSame (d d' : Deed κ) : Prop :=
  ∀ seen seen', d.seen? = some seen → d'.seen? = some seen' → seen = seen'

variable {alike : Likeness} {d d' : Deed κ} {l l' m m' : Ledger κ}

theorem Alike.call_eq (h : Alike alike d d') : d.call? = d'.call? := by
  cases h <;> rfl

theorem Alike.query_eq (h : Alike alike d d') : d.query? = d'.query? := by
  cases h <;> rfl

theorem SawSame.of_on (h : d.On l l') (h' : d'.On l m') : SawSame d d' := by
  intro seen seen' hseen hseen'
  exact (h.cell_of_seen hseen).symm.trans (h'.cell_of_seen hseen')

/-- Deeds that are alike leave a ledger in the same way. -/
theorem Alike.on_unique (h : Alike alike d d') (hd : d.On l l') (hd' : d'.On l m') : l' = m' := by
  cases h with
  | moved | passed => exact hd.2.trans hd'.2.symm
  | locked | asked | called => exact hd.trans hd'.symm

end Deed

/-- The two routines take the same steps while their calls are answered alike, and their results
are related. What they ask and is answered at once does not bear on that. -/
inductive Lockstep (alike : Likeness) (S : α → β → Prop) : Routine κ α → Routine κ β → Prop where
  | done {a : α} {b : β} : S a b → Lockstep alike S (.done a) (.done b)
  | own (f : κ → κ) {rest : κ → Routine κ α} {rest' : κ → Routine κ β} :
    (∀ s, Lockstep alike S (rest s) (rest' s)) → Lockstep alike S (.own f rest) (.own f rest')
  | await (drop : κ → κ) (ok : κ → Bool) {rest : κ → Routine κ α} {rest' : κ → Routine κ β} :
    (∀ s, Lockstep alike S (rest s) (rest' s)) →
      Lockstep alike S (.await drop ok rest) (.await drop ok rest')
  | lock {rest : Routine κ α} {rest' : Routine κ β} : Lockstep alike S rest rest' →
      Lockstep alike S (.lock rest) (.lock rest')
  | ask (q : Query) {rest : q.Answer → Routine κ α} {rest' : q.Answer → Routine κ β} :
    (∀ x x', Lockstep alike S (rest x) (rest' x')) → Lockstep alike S (.ask q rest) (.ask q rest')
  | call (drop : κ → κ) (c : Call) {rest : c.Answer → Routine κ α}
    {rest' : c.Answer → Routine κ β} :
    (∀ x x', alike c x x' → Lockstep alike S (rest x) (rest' x')) →
      Lockstep alike S (.call drop c rest) (.call drop c rest')

variable {alike : Likeness} {S : α → β → Prop} {T : γ → δ → Prop} {p p₁ : Routine κ α}
  {p' p₁' : Routine κ β} {d d' : Deed κ} {ds ds' : List (Deed κ)} {l l' m' : Ledger κ}

/-! ## Routines made of others -/

theorem Lockstep.bind {f : α → Routine κ γ} {f' : β → Routine κ δ} (h : Lockstep alike S p p')
    (hf : ∀ a b, S a b → Lockstep alike T (f a) (f' b)) :
    Lockstep alike T (p.bind f) (p'.bind f') := by
  induction h with
  | done h => exact hf _ _ h
  | own g _ ih => exact .own g ih
  | await drop ok _ ih => exact .await drop ok ih
  | lock _ ih => exact .lock ih
  | ask q _ ih => exact .ask q ih
  | call drop c _ ih => exact .call drop c ih

theorem Lockstep.guarded (h : Lockstep alike S p p') (undo : κ → κ) :
    Lockstep alike S (p.guarded undo) (p'.guarded undo) := by
  induction h with
  | done h => exact .done h
  | own g _ ih => exact .own g ih
  | await drop ok _ ih => exact .await _ ok ih
  | lock _ ih => exact .lock ih
  | ask q _ ih => exact .ask q ih
  | call drop c _ ih => exact .call _ c ih

theorem lockstep_read : Lockstep alike Eq (Routine.read : Routine κ κ) Routine.read := by
  refine .own id ?_
  intro s
  exact .done rfl

theorem lockstep_request (c : Call) :
    Lockstep alike (alike c) (Routine.request c : Routine κ c.Answer) (Routine.request c) := by
  refine .call id c ?_
  intro x x' h
  exact .done h

theorem lockstep_note (line : Notice) :
    Lockstep alike Eq (Routine.note line : Routine κ Unit) (Routine.note line) := by
  refine .ask (.note line) ?_
  intro x x'
  exact .done rfl

/-! ## Going in step -/

/-- The next deeds of both are alike, and they go on in step. -/
theorem Lockstep.does (h : Lockstep alike S p p') (hd : Does p d p₁) (hd' : Does p' d' p₁')
    (hanswered : d.AnsweredAlike alike d') (hsaw : d.SawSame d') :
    d.Alike alike d' ∧ Lockstep alike S p₁ p₁' := by
  cases h with
  | done => exact nomatch hd
  | own f h =>
    cases hd with
    | own _ _ seen =>
      cases hd' with
      | own _ _ seen' =>
        obtain rfl := hsaw seen seen' rfl rfl
        exact ⟨.moved seen (f seen), h seen⟩
  | await drop ok h =>
    cases hd with
    | @await _ _ _ seen =>
      cases hd' with
      | @await _ _ _ seen' =>
        obtain rfl := hsaw seen seen' rfl rfl
        exact ⟨.passed seen, h seen⟩
  | lock h =>
    cases hd
    cases hd'
    exact ⟨.locked, h⟩
  | ask q h =>
    cases hd with
    | ask _ _ x =>
      cases hd' with
      | ask _ _ x' => exact ⟨.asked q x x', h x x'⟩
  | call drop c h =>
    cases hd with
    | call _ _ _ x =>
      cases hd' with
      | call _ _ _ x' =>
        have hx := hanswered c x x' rfl rfl
        exact ⟨.called c hx, h x x' hx⟩

/-- Neither comes to its end before the other. -/
theorem Lockstep.done_iff (h : Lockstep alike S p p') :
    (∃ a, p = .done a) ↔ ∃ b, p' = .done b := by
  cases h with
  | done => exact ⟨fun _ => ⟨_, rfl⟩, fun _ => ⟨_, rfl⟩⟩
  | own | await | lock | ask | call =>
    constructor
    · exact fun ⟨_, h⟩ => nomatch h
    · exact fun ⟨_, h⟩ => nomatch h

theorem Lockstep.of_done {a : α} {b : β} (h : Lockstep alike S (.done a : Routine κ α) (.done b)) :
    S a b := by
  cases h with
  | done h => exact h

/-- Both runs are over, or they have come equally far. -/
def EquallyFar (p : Routine κ α) (p' : Routine κ β) (ds ds' : List (Deed κ)) : Prop :=
  ((∃ a, p = .done a) ∧ ∃ b, p' = .done b) ∨ ds.length = ds'.length

/-- Two runs of routines that go in step are alike, deed by deed. -/
theorem Lockstep.leads (h : Lockstep alike S p p') (hp : Leads p ds p₁) (hp' : Leads p' ds' p₁')
    (hfar : EquallyFar p₁ p₁' ds ds')
    (hanswered : ∀ d ∈ ds.zip ds', d.1.AnsweredAlike alike d.2)
    (hsaw : ∀ d ∈ ds.zip ds', d.1.SawSame d.2) :
    List.Forall₂ (Deed.Alike alike) ds ds' ∧ Lockstep alike S p₁ p₁' := by
  induction hp generalizing p' ds' with
  | refl p =>
    cases hp' with
    | refl => exact ⟨.nil, h⟩
    | head hd _ =>
      rcases hfar with ⟨hdone, -⟩ | hlength
      · obtain ⟨b, rfl⟩ := h.done_iff.mp hdone
        exact nomatch hd
      · exact nomatch hlength
  | @head p q p₁ d ds hd hp ih =>
    cases hp' with
    | refl =>
      rcases hfar with ⟨-, hdone⟩ | hlength
      · obtain ⟨a, rfl⟩ := h.done_iff.mpr hdone
        exact nomatch hd
      · exact nomatch hlength
    | @head _ q' _ d' ds' hd' hp' =>
      rw [List.zip_cons_cons, List.forall_mem_cons] at hanswered hsaw
      obtain ⟨halike, hnext⟩ := h.does hd hd' hanswered.1 hsaw.1
      have hfar' : EquallyFar p₁ p₁' ds ds' := hfar.imp_right Nat.succ.inj
      obtain ⟨hrest, hleft⟩ := ih hnext hp' hfar' hanswered.2 hsaw.2
      exact ⟨.cons halike hrest, hleft⟩

/-! ## Alone from one state on -/

/-- With nobody else at their state, two routines in step see the same. -/
theorem Lockstep.saw_same (h : Lockstep alike S p p') (hp : Goes p l ds p₁ l')
    (hp' : Goes p' l ds' p₁' m') (hanswered : ∀ d ∈ ds.zip ds', d.1.AnsweredAlike alike d.2) :
    ∀ d ∈ ds.zip ds', d.1.SawSame d.2 := by
  induction hp generalizing p' ds' with
  | refl p l => exact fun _ hd => nomatch hd
  | head hd hon hp ih =>
    cases hp' with
    | refl => exact fun _ hd => nomatch hd
    | head hd' hon' hp' =>
      rw [List.zip_cons_cons, List.forall_mem_cons] at hanswered ⊢
      have hsaw := Deed.SawSame.of_on hon hon'
      obtain ⟨halike, hnext⟩ := h.does hd hd' hanswered.1 hsaw
      obtain rfl := halike.on_unique hon hon'
      exact ⟨hsaw, ih hnext hp' hanswered.2⟩

/-- Runs that are alike leave the same. -/
theorem Goes.ledger_eq (hp : Goes p l ds p₁ l') (hp' : Goes p' l ds' p₁' m')
    (h : List.Forall₂ (Deed.Alike alike) ds ds') : l' = m' := by
  induction hp generalizing p' ds' with
  | refl p l =>
    cases h
    cases hp'
    rfl
  | head _ hon _ ih =>
    cases h with
    | cons halike hrest =>
      cases hp' with
      | head _ hon' hp' =>
        obtain rfl := halike.on_unique hon hon'
        exact ih hp' hrest

/-! ## What can be seen of two runs that are alike -/

/-- What does not look at the answers to calls sees the same of both. -/
theorem filterMap_eq_of_alike {f : Deed κ → Option γ}
    (hf : ∀ d d', Deed.Alike alike d d' → f d = f d')
    (h : List.Forall₂ (Deed.Alike alike) ds ds') : ds.filterMap f = ds'.filterMap f := by
  induction h with
  | nil => rfl
  | cons halike _ ih => rw [List.filterMap_cons, List.filterMap_cons, hf _ _ halike, ih]

end HueLink.Routine
