-- What a routine does on its way, deed by deed, also while it has not come to its end. The deeds
-- alone say what is left of the routine; they touch the ledger as its steps do.
import HueLink.Proofs.Routine.Interleaving
import HueLink.Proofs.Routine.Passage
import HueLink.Proofs.Routine.Yielding

namespace HueLink.Routine

/-! ## Deeds -/

/-- One thing that a routine does, with all it learns by it. -/
inductive Deed (κ : Type) where
  | event (e : Event κ)
  /-- It took the lock of a session. -/
  | locked
  /-- It read the clock. -/
  | told (t : Nat)

variable {κ α β : Type}

namespace Deed

/-- A deed that finds a ledger in one state and leaves it in another. -/
def On : Deed κ → Ledger κ → Ledger κ → Prop
  | event (.moved seen left), l, l' => seen = l.cell ∧ l' = l.write fun _ => left
  | event (.passed seen), l, l' => seen = l.cell ∧ l' = l
  | event (.asked q _), l, l' => l' = l.ask q
  | event (.called _ _), l, l' | event (.calledBy _ _), l, l' | locked, l, l' | told _, l, l' =>
    l' = l

/-- The state that was seen. -/
def seen? : Deed κ → Option κ
  | event (.moved seen _) | event (.passed seen) => some seen
  | event (.asked _ _) | event (.called _ _) | event (.calledBy _ _) | locked | told _ => none

/-- What was asked. -/
def query? : Deed κ → Option Query
  | event (.asked q _) => some q
  | event (.moved _ _) | event (.passed _) | event (.called _ _) | event (.calledBy _ _) | locked
  | told _ => none

def event? : Deed κ → Option (Event κ)
  | event e => some e
  | locked | told _ => none

/-- A deed writes the state, or leaves it as it is. -/
theorem On.cases {d : Deed κ} {l l' : Ledger κ} (h : d.On l l') :
    (∃ left, d = .event (.moved l.cell left) ∧ l' = l.write fun _ => left) ∨
      ((∀ seen left, d ≠ .event (.moved seen left)) ∧ l'.cells = l.cells ∧
        l'.asked = l.asked ++ d.query?.toList) := by
  rcases d with (⟨seen, left⟩ | seen | ⟨q, a⟩ | _ | _) | _ | _
  case event.moved =>
    obtain ⟨rfl, rfl⟩ := h
    exact Or.inl ⟨left, rfl, rfl⟩
  case event.passed =>
    obtain ⟨_, rfl⟩ := h
    exact Or.inr ⟨fun _ _ heq => (nomatch heq), rfl, (List.append_nil _).symm⟩
  case event.asked =>
    obtain rfl := h
    exact Or.inr ⟨fun _ _ heq => (nomatch heq), rfl, rfl⟩
  all_goals
    obtain rfl := h
    exact Or.inr ⟨fun _ _ heq => (nomatch heq), rfl, (List.append_nil _).symm⟩

theorem On.cell_of_seen {d : Deed κ} {l l' : Ledger κ} {seen : κ} (h : d.On l l')
    (hseen : d.seen? = some seen) : l.cell = seen := by
  rcases d with (_ | _ | _ | _ | _) | _ | _ <;> cases hseen
  · exact h.1.symm
  · exact h.1.symm

end Deed

/-- The routine goes on by a deed. -/
inductive Does : Routine κ α → Deed κ → Routine κ α → Prop where
  | own (f : κ → κ) (rest : κ → Routine κ α) (seen : κ) :
    Does (.own f rest) (.event (.moved seen (f seen))) (rest seen)
  | await (drop : κ → κ) {ok : κ → Bool} (rest : κ → Routine κ α) {seen : κ} :
    ok seen = true → Does (.await drop ok rest) (.event (.passed seen)) (rest seen)
  | lock (rest : Routine κ α) : Does (.lock rest) .locked rest
  | clock (rest : Nat → Routine κ α) (t : Nat) : Does (.clock rest) (.told t) (rest t)
  | ask (q : Query) (rest : q.Answer → Routine κ α) (a : q.Answer) :
    Does (.ask q rest) (.event (.asked q a)) (rest a)
  | call (drop : κ → κ) (c : Call) (rest : c.Answer → Routine κ α) (a : c.Answer) :
    Does (.call drop c rest) (.event (.called c a)) (rest a)
  | callBy (drop : κ → κ) (deadline : Nat) (c : Call) (rest : Option c.Answer → Routine κ α)
    (a : Option c.Answer) : Does (.callBy drop deadline c rest) (.event (.calledBy c a)) (rest a)

variable {p p' p₁ p₂ : Routine κ α} {f : α → Routine κ β} {d : Deed κ} {ds ds' : List (Deed κ)}
  {l l' : Ledger κ} {a b : α}

/-- The steps of a routine are its deeds on the ledger as it is. -/
theorem step_iff_does : Step p l p' l' ↔ ∃ d, Does p d p' ∧ d.On l l' := by
  constructor
  · intro h
    cases h with
    | own f rest => exact ⟨_, .own f rest _, rfl, rfl⟩
    | await drop ok rest _ hok => exact ⟨_, .await drop rest hok, rfl, rfl⟩
    | lock => exact ⟨_, .lock _, rfl⟩
    | clock rest _ t => exact ⟨_, .clock rest t, rfl⟩
    | ask q rest _ a => exact ⟨_, .ask q rest a, rfl⟩
    | call drop c rest _ a => exact ⟨_, .call drop c rest a, rfl⟩
    | callBy drop deadline c rest _ a => exact ⟨_, .callBy drop deadline c rest a, rfl⟩
  · rintro ⟨d, h, hon⟩
    cases h with
    | own f rest =>
      obtain ⟨rfl, rfl⟩ := hon
      exact .own f rest l
    | await drop rest hok =>
      obtain ⟨rfl, rfl⟩ := hon
      exact .await drop _ rest _ hok
    | lock =>
      obtain rfl := hon
      exact .lock p' _
    | clock rest t =>
      obtain rfl := hon
      exact .clock rest _ t
    | ask q rest a =>
      obtain rfl := hon
      exact .ask q rest l a
    | call drop c rest a =>
      obtain rfl := hon
      exact .call drop c rest _ a
    | callBy drop deadline c rest a =>
      obtain rfl := hon
      exact .callBy drop deadline c rest _ a

theorem Does.unique (h₁ : Does p d p₁) (h₂ : Does p d p₂) : p₁ = p₂ := by
  cases h₁ <;> cases h₂ <;> rfl

theorem does_bind {q : Routine κ β} (h : Does (p.bind f) d q) :
    (∃ p', Does p d p' ∧ q = p'.bind f) ∨ ∃ a, p = .done a := by
  cases p with
  | done a => exact Or.inr ⟨a, rfl⟩
  | own g rest =>
    cases h with
    | own _ _ seen => exact Or.inl ⟨_, .own g rest seen, rfl⟩
  | await drop ok rest =>
    cases h with
    | await _ _ hok => exact Or.inl ⟨_, .await drop rest hok, rfl⟩
  | lock rest =>
    cases h
    exact Or.inl ⟨_, .lock rest, rfl⟩
  | clock rest =>
    cases h with
    | clock _ t => exact Or.inl ⟨_, .clock rest t, rfl⟩
  | ask q rest =>
    cases h with
    | ask _ _ a => exact Or.inl ⟨_, .ask q rest a, rfl⟩
  | call drop c rest =>
    cases h with
    | call _ _ _ a => exact Or.inl ⟨_, .call drop c rest a, rfl⟩
  | callBy drop t c rest =>
    cases h with
    | callBy _ _ _ _ a => exact Or.inl ⟨_, .callBy drop t c rest a, rfl⟩

theorem Does.bind (h : Does p d p') (f : α → Routine κ β) : Does (p.bind f) d (p'.bind f) := by
  cases h with
  | own g rest seen => exact .own g _ seen
  | await drop rest hok => exact .await drop _ hok
  | lock rest => exact .lock _
  | clock rest t => exact .clock _ t
  | ask q rest a => exact .ask q _ a
  | call drop c rest a => exact .call drop c _ a
  | callBy drop deadline c rest a => exact .callBy drop deadline c _ a

theorem Does.guarded (h : Does p d p') (undo : κ → κ) :
    Does (p.guarded undo) d (p'.guarded undo) := by
  cases h with
  | own g rest seen => exact .own g _ seen
  | await drop rest hok => exact .await _ _ hok
  | lock rest => exact .lock _
  | clock rest t => exact .clock _ t
  | ask q rest a => exact .ask q _ a
  | call drop c rest a => exact .call _ c _ a
  | callBy drop deadline c rest a => exact .callBy _ deadline c _ a

/-! ## One deed after another -/

/-- By these deeds the routine comes to what is left of it. -/
inductive Leads : Routine κ α → List (Deed κ) → Routine κ α → Prop where
  | refl (p : Routine κ α) : Leads p [] p
  | head {p p₁ p' : Routine κ α} {d : Deed κ} {ds : List (Deed κ)} :
    Does p d p₁ → Leads p₁ ds p' → Leads p (d :: ds) p'

theorem leads_append :
    Leads p (ds ++ ds') p' ↔ ∃ p₁, Leads p ds p₁ ∧ Leads p₁ ds' p' := by
  constructor
  · intro h
    induction ds generalizing p with
    | nil => exact ⟨p, .refl p, h⟩
    | cons d ds ih =>
      cases h with
      | head hd h =>
        obtain ⟨p₁, h₁, h₂⟩ := ih h
        exact ⟨p₁, .head hd h₁, h₂⟩
  · rintro ⟨p₁, h₁, h₂⟩
    induction h₁ with
    | refl _ => exact h₂
    | head hd _ ih => exact .head hd (ih h₂)

theorem Leads.snoc (h : Leads p ds p₁) (hd : Does p₁ d p') : Leads p (ds ++ [d]) p' :=
  leads_append.mpr ⟨p₁, h, .head hd (.refl p')⟩

theorem Leads.unique (h₁ : Leads p ds p₁) (h₂ : Leads p ds p₂) : p₁ = p₂ := by
  induction h₁ with
  | refl _ =>
    cases h₂
    rfl
  | head hd _ ih =>
    cases h₂ with
    | head hd' h₂ =>
      obtain rfl := hd.unique hd'
      exact ih h₂

theorem leads_done (h : Leads (.done a) ds p) : ds = [] ∧ p = .done a := by
  cases h with
  | refl => exact ⟨rfl, rfl⟩
  | head hd _ => exact nomatch hd

theorem leads_done_iff : Leads (.done a) ds (.done b) ↔ ds = [] ∧ b = a := by
  constructor
  · intro h
    obtain ⟨rfl, hdone⟩ := leads_done h
    exact ⟨rfl, done.inj hdone⟩
  · rintro ⟨rfl, rfl⟩
    exact .refl _

/-- A routine that waits for an answer has its result from what follows. -/
theorem leads_call_iff {drop : κ → κ} {c : Call} {rest : c.Answer → Routine κ α} :
    Leads (.call drop c rest) ds (.done a) ↔
      ∃ x ds', ds = .event (.called c x) :: ds' ∧ Leads (rest x) ds' (.done a) := by
  constructor
  · intro h
    cases h with
    | head hd h =>
      cases hd with
      | call _ _ _ x => exact ⟨x, _, rfl, h⟩
  · rintro ⟨x, ds', rfl, h⟩
    exact .head (.call drop c rest x) h

/-- Nothing is done once the result is there. -/
theorem Leads.ended (h : Leads p ds (.done a)) (h' : Leads p (ds ++ ds') p') :
    ds' = [] ∧ p' = .done a := by
  obtain ⟨p₁, h₁, h₂⟩ := leads_append.mp h'
  obtain rfl := h.unique h₁
  exact leads_done h₂

theorem Leads.result_unique {es es' : List (Deed κ)} (h : Leads p ds (.done a))
    (h' : Leads p ds' (.done b)) (heq : ds ++ es = ds' ++ es') : ds = ds' ∧ a = b := by
  rcases List.append_eq_append_iff.mp heq with ⟨more, rfl, _⟩ | ⟨more, rfl, _⟩
  · obtain ⟨rfl, hdone⟩ := h.ended h'
    cases hdone
    exact ⟨(List.append_nil _).symm, rfl⟩
  · obtain ⟨rfl, hdone⟩ := h'.ended h
    cases hdone
    exact ⟨List.append_nil _, rfl⟩

theorem Leads.bind (h : Leads p ds p') (f : α → Routine κ β) : Leads (p.bind f) ds (p'.bind f) := by
  induction h with
  | refl p => exact .refl _
  | head hd _ ih => exact .head (hd.bind f) ih

/-- Of one routine after another, the second begins when the first has its result. -/
theorem leads_bind {q : Routine κ β} (h : Leads (p.bind f) ds q) :
    (∃ p', Leads p ds p' ∧ q = p'.bind f) ∨
      ∃ a ds₁ ds₂, Leads p ds₁ (.done a) ∧ Leads (f a) ds₂ q ∧ ds = ds₁ ++ ds₂ := by
  induction ds generalizing p with
  | nil =>
    cases h
    exact Or.inl ⟨p, .refl p, rfl⟩
  | cons d ds ih =>
    cases h with
    | head hd h =>
      rcases does_bind hd with ⟨p', hd', rfl⟩ | ⟨a, rfl⟩
      · rcases ih h with ⟨p'', h', rfl⟩ | ⟨a, ds₁, ds₂, h₁, h₂, rfl⟩
        · exact Or.inl ⟨p'', .head hd' h', rfl⟩
        · exact Or.inr ⟨a, d :: ds₁, ds₂, .head hd' h₁, h₂, rfl⟩
      · exact Or.inr ⟨a, [], d :: ds, .refl _, .head hd h, rfl⟩

/-! ## The first deed -/

theorem leads_own {g : κ → κ} {rest : κ → Routine κ α} (h : Leads (.own g rest) ds p) :
    (ds = [] ∧ p = .own g rest) ∨ ∃ seen ds', Leads (rest seen) ds' p ∧
      ds = .event (.moved seen (g seen)) :: ds' := by
  cases h with
  | refl => exact Or.inl ⟨rfl, rfl⟩
  | head hd h =>
    cases hd with
    | own _ _ seen => exact Or.inr ⟨seen, _, h, rfl⟩

theorem leads_await {drop : κ → κ} {ok : κ → Bool} {rest : κ → Routine κ α}
    (h : Leads (.await drop ok rest) ds p) :
    (ds = [] ∧ p = .await drop ok rest) ∨ ∃ seen ds', ok seen = true ∧ Leads (rest seen) ds' p ∧
      ds = .event (.passed seen) :: ds' := by
  cases h with
  | refl => exact Or.inl ⟨rfl, rfl⟩
  | head hd h =>
    cases hd with
    | await _ _ hok => exact Or.inr ⟨_, _, hok, h, rfl⟩

theorem leads_lock {rest : Routine κ α} (h : Leads (.lock rest) ds p) :
    (ds = [] ∧ p = .lock rest) ∨ ∃ ds', Leads rest ds' p ∧ ds = .locked :: ds' := by
  cases h with
  | refl => exact Or.inl ⟨rfl, rfl⟩
  | head hd h =>
    cases hd
    exact Or.inr ⟨_, h, rfl⟩

theorem leads_ask {q : Query} {rest : q.Answer → Routine κ α} (h : Leads (.ask q rest) ds p) :
    (ds = [] ∧ p = .ask q rest) ∨ ∃ x ds', Leads (rest x) ds' p ∧
      ds = .event (.asked q x) :: ds' := by
  cases h with
  | refl => exact Or.inl ⟨rfl, rfl⟩
  | head hd h =>
    cases hd with
    | ask _ _ x => exact Or.inr ⟨x, _, h, rfl⟩

theorem leads_request {c : Call} {r : Routine κ c.Answer} (h : Leads (Routine.request c) ds r) :
    (ds = [] ∧ r = Routine.request c) ∨ ∃ x, ds = [.event (.called c x)] ∧ r = .done x := by
  cases h with
  | refl => exact Or.inl ⟨rfl, rfl⟩
  | head hd h =>
    cases hd with
    | call _ _ _ x =>
      obtain ⟨rfl, rfl⟩ := leads_done h
      exact Or.inr ⟨x, rfl, rfl⟩

/-! ## Deeds that happen at once -/

/-- The routine comes this far, with nobody else at its state in between. -/
inductive Goes : Routine κ α → Ledger κ → List (Deed κ) → Routine κ α → Ledger κ → Prop where
  | refl (p : Routine κ α) (l : Ledger κ) : Goes p l [] p l
  | head {p p₁ p' : Routine κ α} {l l₁ l' : Ledger κ} {d : Deed κ} {ds : List (Deed κ)} :
    Does p d p₁ → d.On l l₁ → Goes p₁ l₁ ds p' l' → Goes p l (d :: ds) p' l'

theorem Goes.append {l₁ : Ledger κ} (h₁ : Goes p l ds p₁ l₁) (h₂ : Goes p₁ l₁ ds' p' l') :
    Goes p l (ds ++ ds') p' l' := by
  induction h₁ with
  | refl p l => exact h₂
  | head hd hon _ ih => exact .head hd hon (ih h₂)

theorem Goes.leads (h : Goes p l ds p' l') : Leads p ds p' := by
  induction h with
  | refl p l => exact .refl p
  | head hd _ _ ih => exact .head hd ih

/-- What goes on inside another routine. -/
theorem Goes.inside {F : Routine κ α → Routine κ β} (h : Goes p l ds p' l')
    (hF : ∀ {p d p'}, Does p d p' → Does (F p) d (F p')) : Goes (F p) l ds (F p') l' := by
  induction h with
  | refl p l => exact .refl _ _
  | head hd hon _ ih => exact .head (hF hd) hon ih

/-! ## Deeds of one kind -/

/-- However far the routine comes, all its deeds are as they may be. -/
def Keeps (ok : Deed κ → Prop) (p : Routine κ α) : Prop :=
  ∀ ds p', Leads p ds p' → ∀ d ∈ ds, ok d

variable {ok : Deed κ → Prop}

theorem keeps_done : Keeps ok (.done a : Routine κ α) := by
  intro ds p' h
  obtain ⟨rfl, _⟩ := leads_done h
  exact fun _ hd => nomatch hd

theorem keeps_of_does (h : ∀ d p', Does p d p' → ok d ∧ Keeps ok p') : Keeps ok p := by
  intro ds p' hleads
  cases hleads with
  | refl => exact fun _ hd => nomatch hd
  | head hd hrest =>
    obtain ⟨hok, hkeeps⟩ := h _ _ hd
    exact List.forall_mem_cons.mpr ⟨hok, hkeeps _ _ hrest⟩

theorem keeps_bind (hp : Keeps ok p) (hf : ∀ a, Keeps ok (f a)) : Keeps ok (p.bind f) := by
  intro ds q h
  rcases leads_bind h with ⟨p', h', rfl⟩ | ⟨a, ds₁, ds₂, h₁, h₂, rfl⟩
  · exact hp _ _ h'
  · exact List.forall_mem_append.mpr ⟨hp _ _ h₁, hf a _ _ h₂⟩

theorem keeps_request {c : Call} (hok : ∀ x, ok (.event (.called c x))) :
    Keeps ok (Routine.request c) := by
  intro ds r h
  rcases leads_request h with ⟨rfl, _⟩ | ⟨x, rfl, _⟩
  · exact fun _ hd => nomatch hd
  · exact List.forall_mem_singleton.mpr (hok x)

/-! ## Results of one kind -/

theorem Yields.does {ok : α → Prop} (hp : p.Yields ok) (hd : Does p d p') : p'.Yields ok := by
  cases hd with
  | own _ _ seen => exact hp seen
  | await _ _ _ => exact hp _
  | lock => exact hp
  | clock _ t => exact hp t
  | ask _ _ x => exact hp x
  | call _ _ _ x => exact hp x
  | callBy _ _ _ _ x => exact hp x

theorem Yields.leads {ok : α → Prop} (hp : p.Yields ok) (h : Leads p ds (.done a)) : ok a := by
  generalize hend : Routine.done a = q at h
  induction h with
  | refl p =>
    subst hend
    exact hp
  | head hd _ ih => exact ih (hp.does hd) hend

/-! ## From deeds to passages -/

/-- A routine that came to its result was on a passage, on which it saw the state as others had left
it. -/
theorem Leads.passage {meanwhile : κ → κ → Prop} (h : Leads p ds (.done a))
    (hseen : ∀ d ∈ ds, ∀ seen, d.seen? = some seen → ∀ s, meanwhile s seen) (s : κ) :
    ∃ s', Passage meanwhile p s (ds.filterMap Deed.event?) a s' := by
  generalize hend : Routine.done a = q at h
  induction h generalizing s with
  | refl =>
    subst hend
    exact ⟨s, .done a s⟩
  | @head _ _ _ d ds hd _ ih =>
    obtain ⟨hfirst, hrest⟩ := List.forall_mem_cons.mp hseen
    cases hd with
    | own g rest seen =>
      obtain ⟨s', h'⟩ := ih hrest (g seen) hend
      exact ⟨s', .own (hfirst seen rfl s) h'⟩
    | @await _ _ _ seen hok =>
      obtain ⟨s', h'⟩ := ih hrest seen hend
      exact ⟨s', .await (hfirst seen rfl s) hok h'⟩
    | lock rest =>
      obtain ⟨s', h'⟩ := ih hrest s hend
      exact ⟨s', .lock h'⟩
    | clock rest t =>
      obtain ⟨s', h'⟩ := ih hrest s hend
      exact ⟨s', .clock t h'⟩
    | ask q rest x =>
      obtain ⟨s', h'⟩ := ih hrest s hend
      exact ⟨s', .ask x h'⟩
    | call drop c rest x =>
      obtain ⟨s', h'⟩ := ih hrest s hend
      exact ⟨s', .call x h'⟩
    | callBy drop deadline c rest x =>
      obtain ⟨s', h'⟩ := ih hrest s hend
      exact ⟨s', .callBy x h'⟩

end HueLink.Routine
