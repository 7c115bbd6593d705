-- Running routines together. They take turns in a fixed order, each going on as far as it can; when
-- none can go on, time passes to the next moment at which one can. The runs end: each round in
-- which a routine goes on leaves less of it to be done.
import HueLink.Routine.Resumption

namespace HueLink.Resumption

variable {ω α : Type}

/-! ## Less to be done -/

/-- One turn further. -/
inductive Next : Resumption ω α → Resumption ω α → Prop where
  | resume {w : ω} {due : Option Nat} {drop : ω → ω} {ready : Nat → ω → Bool}
    {resume : Nat → ω → Resumption ω α} (t : Nat) (w' : ω) :
    Next (resume t w') (blocked w due drop ready resume)

theorem next_wf : WellFounded (@Next ω α) := by
  constructor
  intro r
  induction r with
  | finished w t a => exact ⟨_, fun _ h => nomatch h⟩
  | blocked w due drop ready resume ih =>
    refine ⟨_, fun _ h => ?_⟩
    cases h with
    | resume t w' => exact ih t w'

/-- Routines of which the first one that stands differently is one turn further. -/
inductive Ahead : List (Resumption ω α) → List (Resumption ω α) → Prop where
  | here {r' r : Resumption ω α} {rs' rs : List (Resumption ω α)} :
    Next r' r → rs'.length = rs.length → Ahead (r' :: rs') (r :: rs)
  | there {r : Resumption ω α} {rs' rs : List (Resumption ω α)} :
    Ahead rs' rs → Ahead (r :: rs') (r :: rs)

theorem Ahead.length_eq {rs' rs : List (Resumption ω α)} (h : Ahead rs' rs) :
    rs'.length = rs.length := by
  induction h with
  | here _ h => simp [h]
  | there _ ih => simp [ih]

theorem ahead_wf : WellFounded (@Ahead ω α) := by
  suffices ∀ n, ∀ rs : List (Resumption ω α), rs.length = n → Acc Ahead rs from
    ⟨fun rs => this rs.length rs rfl⟩
  intro n
  induction n with
  | zero =>
    intro rs h
    rw [List.length_eq_zero_iff.mp h]
    exact ⟨_, fun _ h => nomatch h⟩
  | succ n ih =>
    intro rs h
    obtain ⟨r, rs, rfl⟩ := List.exists_cons_of_length_eq_add_one h
    induction r using next_wf.induction generalizing rs with
    | _ r ihr =>
      have hrs : rs.length = n := by simpa using h
      induction ih rs hrs with
      | _ rs _ ihrs =>
        refine ⟨_, fun _ h' => ?_⟩
        cases h' with
        | here hn hl => exact ihr _ hn _ (by simp [hl, hrs])
        | there ha => exact ihrs _ ha (by simp [ha.length_eq, hrs]) (ha.length_eq.trans hrs)

instance : WellFoundedRelation (List (Resumption ω α)) := ⟨Ahead, ahead_wf⟩

/-! ## Rounds -/

/-- The routines after a round, the world they left, and if any of them went on. -/
structure Round (ω α : Type) where
  tasks : List (Resumption ω α)
  world : ω
  moved : Bool

/-- One turn for each routine, in order. -/
def round (t : Nat) : ω → List (Resumption ω α) → Round ω α
  | w, [] => ⟨[], w, false⟩
  | w, r :: rs =>
    if r.isReady t w then
      let r' := r.turn t w
      let next := round t r'.world rs
      ⟨r' :: next.tasks, next.world, true⟩
    else
      let next := round t w rs
      ⟨r :: next.tasks, next.world, next.moved⟩

theorem next_turn {r : Resumption ω α} {t : Nat} {w : ω} (h : r.isReady t w = true) :
    Next (r.turn t w) r := by
  cases r with
  | finished => simp [isReady] at h
  | blocked w' due drop ready resume =>
    have h : ready t w = true := h
    simp only [turn, h, if_true]
    exact .resume t w

theorem length_round (t : Nat) (w : ω) (rs : List (Resumption ω α)) :
    (round t w rs).tasks.length = rs.length := by
  induction rs generalizing w with
  | nil => rfl
  | cons r rs ih =>
    unfold round
    split <;> simp [ih]

theorem ahead_round {t : Nat} {w : ω} {rs : List (Resumption ω α)}
    (h : (round t w rs).moved = true) : Ahead (round t w rs).tasks rs := by
  induction rs generalizing w with
  | nil => simp [round] at h
  | cons r rs ih =>
    unfold round at h ⊢
    split
    · exact .here (next_turn ‹_›) (length_round ..)
    · simp only [*, if_false, Bool.false_eq_true] at h
      exact .there (ih h)

/-- The next moment at which time lets a routine go on. -/
def nextDue (rs : List (Resumption ω α)) : Option Nat := (rs.filterMap due?).min?

/-- Rounds until no routine can go on any more. Time passes only when none can go on without. -/
def finish (t : Nat) (w : ω) (rs : List (Resumption ω α)) : Nat × ω × List (Resumption ω α) :=
  let now := round t w rs
  if h : now.moved then
    have := ahead_round h
    finish t now.world now.tasks
  else
    match nextDue rs with
    | none => (t, w, rs)
    | some due =>
      let later := round (max t due) w rs
      if h : later.moved then
        have := ahead_round h
        finish (max t due) later.world later.tasks
      else (t, w, rs)
termination_by rs

/-- Starts routines in order and lets them take turns to their end. -/
def together (start : List (Nat → ω → Resumption ω α)) (t : Nat) (w : ω) :
    Nat × ω × List (Resumption ω α) :=
  let started := start.foldl
    (fun (rs, w) s => let r := s t w; (rs ++ [r], r.world)) (([] : List (Resumption ω α)), w)
  finish t started.2 started.1

end HueLink.Resumption
