-- What happens to a bridge in memory and to its clients. Whatever is done, step by step, comes down
-- to a course of happenings: changes of the bridge, questions and calls, and things elsewhere.
import HueLink.InMemory.Step

namespace HueLink.InMemory

/-! ## What happens -/

/-- Something that happens to the world. A call has happened when it is answered. -/
inductive Happening where
  | changed (change : Bridge.Change)
  | asked (q : Query) (a : q.Answer)
  | called (c : Call) (a : c.Answer)
  /-- Something that concerns neither the bridge nor its clients. -/
  | elsewhere

/-- Something happens. Between the time a call is made and the time it is answered, anything may
have happened. -/
inductive Happens : World → Happening → World → Prop where
  | changed (w : World) (change : Bridge.Change) :
    Happens w (.changed change) { w with bridge := w.bridge.change change }
  | asked (w : World) (q : Query) : Happens w (.asked q (w.answer q).1) (w.answer q).2
  | called (w : World) (c : Call) (made : World) :
    Happens w (.called c ((made.receive c).finish w).1) ((made.receive c).finish w).2
  | elsewhere {w w' : World} : w'.bridge = w.bridge → w'.clients = w.clients →
    Happens w .elsewhere w'

/-- One thing happens after another. -/
inductive Course : World → List Happening → World → Prop where
  | refl (w : World) : Course w [] w
  | head {w w₁ w' : World} {e : Happening} {es : List Happening} :
    Happens w e w₁ → Course w₁ es w' → Course w (e :: es) w'

variable {w w' w₁ : World} {e : Happening} {es es' : List Happening} {c : Client}

theorem course_append :
    Course w (es ++ es') w' ↔ ∃ w₁, Course w es w₁ ∧ Course w₁ es' w' := by
  constructor
  · intro h
    induction es generalizing w with
    | nil => exact ⟨w, .refl w, h⟩
    | cons e es ih =>
      cases h with
      | head he h =>
        obtain ⟨w₁, h₁, h₂⟩ := ih h
        exact ⟨w₁, .head he h₁, h₂⟩
  · rintro ⟨w₁, h₁, h₂⟩
    induction h₁ with
    | refl _ => exact h₂
    | head he _ ih => exact .head he (ih h₂)

theorem course_concat : Course w (es ++ [e]) w' ↔ ∃ w₁, Course w es w₁ ∧ Happens w₁ e w' := by
  rw [course_append]
  constructor
  · rintro ⟨w₁, h₁, h₂⟩
    cases h₂ with
    | head he h =>
      cases h
      exact ⟨w₁, h₁, he⟩
  · rintro ⟨w₁, h₁, he⟩
    exact ⟨w₁, h₁, .head he (.refl w')⟩

/-! ## The steps of a run -/

/-- The routine touches the bridge and its clients only by what it asks and calls, or as one may
change the bridge. -/
def Behaves {α : Type} : Work α → Prop
  | .done _ => True
  | .own f rest => (∀ w, ((f w).bridge = w.bridge ∧ (f w).clients = w.clients) ∨
      ∃ change, f w = { w with bridge := w.bridge.change change }) ∧ ∀ w, Behaves (rest w)
  | .await _ _ rest => ∀ w, Behaves (rest w)
  | .lock rest => Behaves rest
  | .clock rest => ∀ t, Behaves (rest t)
  | .ask _ rest => ∀ a, Behaves (rest a)
  | .call _ _ rest => ∀ a, Behaves (rest a)
  | .callBy _ _ _ rest => ∀ a, Behaves (rest a)

variable {α β κ : Type}

theorem behaves_bind {p : Work α} {f : α → Work β} (hp : Behaves p) (hf : ∀ a, Behaves (f a)) :
    Behaves (p.bind f) := by
  induction p with
  | done a => exact hf a
  | own g rest ih => exact ⟨hp.1, fun w => ih w (hp.2 w)⟩
  | await drop ok rest ih => exact fun w => ih w (hp w)
  | lock rest ih => exact ih hp
  | clock rest ih => exact fun t => ih t (hp t)
  | ask q rest ih => exact fun a => ih a (hp a)
  | call drop c rest ih => exact fun a => ih a (hp a)
  | callBy drop t c rest ih => exact fun a => ih a (hp a)

theorem behaves_modify {f : World → World}
    (hf : ∀ w, (f w).bridge = w.bridge ∧ (f w).clients = w.clients) :
    Behaves (Routine.modify f) := ⟨fun w => Or.inl (hf w), fun _ => trivial⟩

theorem behaves_read_bind {f : World → Work α} (hf : ∀ w, Behaves (f w)) :
    Behaves (Routine.read >>= f) := ⟨fun _ => Or.inl ⟨rfl, rfl⟩, hf⟩

/-- What is kept elsewhere may be dealt with in any way. -/
theorem behaves_zoom {place : Routine.Place κ World}
    (hplace : ∀ s w, (place.set s w).bridge = w.bridge ∧ (place.set s w).clients = w.clients)
    (p : Routine κ α) : Behaves (p.zoom place) := by
  induction p with
  | done a => trivial
  | own g rest ih => exact ⟨fun w => Or.inl (hplace _ w), fun w => ih _⟩
  | await drop ok rest ih => exact fun w => ih _
  | lock rest ih => exact ih
  | clock rest ih => exact ih
  | ask q rest ih => exact ih
  | call drop c rest ih => exact ih
  | callBy drop t c rest ih => exact ih

theorem World.receive_world (call : Call) (w : World) : (World.receive call w).world = w := by
  cases call <;> rfl

/-- What a routine that behaves does on its way is a course of happenings. -/
theorem exists_course_of_behaves {p : Work α} (hp : Behaves p) (t : Nat) (w : World) :
    ∃ es, Course w es (p.run World.outside .whole t w).world := by
  induction p generalizing t w with
  | done a => exact ⟨[], .refl w⟩
  | own f rest ih =>
    obtain ⟨es, h⟩ := ih w (hp.2 w) t (f w)
    rcases hp.1 w with ⟨hbridge, hclients⟩ | ⟨change, hchange⟩
    · exact ⟨.elsewhere :: es, .head (.elsewhere hbridge hclients) h⟩
    · refine ⟨.changed change :: es, .head (.changed w change) ?_⟩
      rw [← hchange]
      exact h
  | await drop ok rest ih =>
    simp only [Routine.run]
    split
    · exact ih _ (hp _) t w
    · exact ⟨[], .refl w⟩
  | lock rest ih => exact ih hp t w
  | clock rest ih => exact ih t (hp t) t w
  | ask q rest ih =>
    obtain ⟨es, h⟩ := ih _ (hp _) t (w.answer q).2
    exact ⟨_ :: es, .head (.asked w q) h⟩
  | call drop c rest ih =>
    simp only [Routine.run, World.outside, World.receive_world]
    split
    · obtain ⟨es, h⟩ := ih _ (hp _) _ _
      exact ⟨_ :: es, .head (.called w c w) h⟩
    · exact ⟨[], .refl w⟩
  | callBy drop deadline c rest ih =>
    simp only [Routine.run, World.outside, World.receive_world]
    split
    · split
      · obtain ⟨es, h⟩ := ih _ (hp _) _ _
        exact ⟨_ :: es, .head (.called w c w) h⟩
      · exact ih _ (hp _) _ _
    · exact ih _ (hp _) _ _

theorem cellPlace_set (handle : SessionId) (cell : Cell) (w : World) :
    ((cellPlace handle).set cell w).bridge = w.bridge ∧
      ((cellPlace handle).set cell w).clients = w.clients := ⟨rfl, rfl⟩

theorem flowPlace_set (name : String) (flow : Pairing.Flow) (w : World) :
    ((flowPlace name).set flow w).bridge = w.bridge ∧
      ((flowPlace name).set flow w).clients = w.clients := by
  unfold flowPlace
  dsimp only
  split <;> exact ⟨rfl, rfl⟩

theorem behaves_withFlow (name : String) (step : Pairing.Step Pairing.FlowResult) :
    Behaves (withFlow name step) := by
  refine behaves_read_bind fun w => ?_
  split
  · trivial
  · refine behaves_bind (behaves_modify fun _ => ⟨rfl, rfl⟩) fun _ => ?_
    exact behaves_bind (behaves_zoom (flowPlace_set name) step) fun _ =>
      behaves_read_bind fun _ => trivial

theorem behaves_withDecoded {γ : Type} (name : String) (record : Codec.Record γ) (info : Json)
    (step : γ → Pairing.Step Pairing.FlowResult) : Behaves (withDecoded name record info step) := by
  refine behaves_read_bind fun w => ?_
  split
  · trivial
  · split
    · trivial
    · exact behaves_withFlow name _

theorem behaves_withSession (name : String) (work : Session → Routine Cell SessionResult) :
    Behaves (withSession name work) := by
  refine behaves_read_bind fun w => ?_
  split
  · trivial
  · exact behaves_bind (behaves_zoom (cellPlace_set _) _) fun _ =>
      behaves_read_bind fun _ => trivial

theorem behaves_clientCall (c : Client) (call : ClientCall) : Behaves (call.work c) := by
  cases call <;> exact fun _ => trivial

theorem behaves_hostCall (call : HostCall) : Behaves call.work := by
  cases call with
  | locationName | configPath | startPairing => exact fun _ => trivial
  | forwardUnload platform =>
    refine behaves_read_bind fun _ => ?_
    exact behaves_bind (behaves_modify fun _ => ⟨rfl, rfl⟩) fun _ => trivial
  | view => exact behaves_read_bind fun _ => trivial
  | forwardSetup | addRegistration | addFlow | setUnloadResult | setConfigDirectory =>
    exact behaves_bind (behaves_modify fun _ => ⟨rfl, rfl⟩) fun _ => trivial

theorem behaves_serviceCall (domain name : String) (call : ServiceCall) :
    Behaves (call.work domain name) := by
  cases call with
  | has | handled => exact behaves_read_bind fun _ => trivial
  | remove =>
    refine behaves_read_bind fun _ => ?_
    exact behaves_bind (behaves_modify fun _ => ⟨rfl, rfl⟩) fun _ => trivial
  | call data =>
    refine behaves_read_bind fun w => ?_
    split
    · rename_i handler _
      refine behaves_bind ?_ fun _ => trivial
      cases handler with
      | scene handle => exact behaves_read_bind fun _ => behaves_zoom (cellPlace_set handle) _
      | recorder tag => exact behaves_bind (behaves_modify fun _ => ⟨rfl, rfl⟩) fun _ => trivial
    · trivial
  | register tag => exact behaves_bind (behaves_modify fun _ => ⟨rfl, rfl⟩) fun _ => trivial

/-- Whatever the step, it behaves. -/
theorem behaves_work (step : Step) : Behaves step.work := by
  cases step with
  | bridge change => exact ⟨fun w => Or.inr ⟨change, rfl⟩, fun _ => trivial⟩
  | bridgeView => exact behaves_read_bind fun _ => trivial
  | connect name address username =>
    refine behaves_bind (p := Routine.query (.connect address username)) (fun _ => trivial) ?_
    exact fun _ => behaves_bind (behaves_modify fun _ => ⟨rfl, rfl⟩) fun _ => trivial
  | client name call =>
    refine behaves_read_bind fun w => ?_
    split
    · exact behaves_clientCall _ call
    · trivial
  | host call => exact behaves_hostCall call
  | service domain name call => exact behaves_serviceCall domain name call
  | discover discovery limit =>
    exact behaves_bind (behaves_modify fun _ => ⟨rfl, rfl⟩) fun _ now a => by cases a <;> trivial
  | newFlow name source discovery usernames =>
    exact behaves_bind (behaves_modify fun _ => ⟨rfl, rfl⟩) fun _ => trivial
  | flow name call =>
    cases call with
    | user selection => exact behaves_withFlow name _
    | link submitted => exact behaves_withFlow name _
    | ssdp info | homekit info | known info => exact behaves_withDecoded name _ info _
  | session name call =>
    cases call with
    | new registration => exact behaves_bind (behaves_modify fun _ => ⟨rfl, rfl⟩) fun _ => trivial
    | setup | markUnauthorized | teardown | activate =>
      simp only [Step.work, SessionCall.work]
      exact behaves_withSession name _

/-- The world after steps that were run one after another. -/
def worldAfter (steps : List Step) (t : Nat) (w : World) : World :=
  match steps with
  | [] => w
  | step :: rest =>
    let outcome := step.work.run World.outside .whole t w
    worldAfter rest outcome.time outcome.world

/-- Steps run one after another are a course of happenings, whatever they are. -/
theorem exists_course_of_steps (steps : List Step) (t : Nat) (w : World) :
    ∃ es, Course w es (worldAfter steps t w) := by
  induction steps generalizing t w with
  | nil => exact ⟨[], .refl w⟩
  | cons step rest ih =>
    obtain ⟨es, h⟩ := exists_course_of_behaves (behaves_work step) t w
    obtain ⟨es', h'⟩ := ih (step.work.run World.outside .whole t w).time
      (step.work.run World.outside .whole t w).world
    exact ⟨es ++ es', course_append.mpr ⟨_, h, h'⟩⟩

end HueLink.InMemory
