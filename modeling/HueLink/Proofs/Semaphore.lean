-- The laws of a semaphore: no permit is lost or doubled, nobody waits while a permit is free, and
-- every ticket that was drawn and not yet given back either waits or holds a permit.
import HueLink.Semaphore
import Mathlib.Data.List.Nodup

namespace HueLink.Semaphore

/-- The tickets that wait or hold a permit. -/
def tickets (g : Semaphore) : List Nat := g.waiting ++ g.holders

/-- A semaphore of `n` permits that was never closed, with all it keeps in order. -/
structure Sound (g : Semaphore) (n : Nat) : Prop where
  unclosed : g.closed = false
  permits : g.free + g.holders.length = n
  busy : g.waiting ≠ [] → g.free = 0
  nodup : g.tickets.Nodup
  drawn : ∀ t ∈ g.tickets, t < g.next

variable {g : Semaphore} {n t : Nat}

theorem sound_ofPermits (n : Nat) : (ofPermits n).Sound n where
  unclosed := rfl
  permits := rfl
  busy h := absurd rfl h
  nodup := List.nodup_nil
  drawn _ h := nomatch h

theorem holds_iff : g.holds t = true ↔ t ∈ g.holders := by
  unfold holds
  rw [List.contains_eq_mem, decide_eq_true_iff]

/-! ## No move of a ticket closes it -/

@[simp] theorem closed_arrive (g : Semaphore) : g.arrive.closed = g.closed := by
  unfold arrive
  split
  · rfl
  · split <;> rfl

@[simp] theorem closed_giveBack (g : Semaphore) (t : Nat) :
    (g.giveBack t).closed = g.closed := by
  unfold giveBack
  split <;> rfl

@[simp] theorem closed_leave (g : Semaphore) (t : Nat) : (g.leave t).closed = g.closed := by
  unfold leave
  split
  · exact closed_giveBack g t
  · rfl

/-! ## Someone arrives -/

theorem tickets_arrive (h : g.closed = false) : g.arrive.tickets.Perm (g.next :: g.tickets) := by
  unfold arrive tickets
  rw [h, if_neg Bool.false_ne_true]
  split
  · simp
  · simpa using List.perm_append_singleton g.next (g.waiting ++ g.holders)

theorem subset_holders_arrive : g.holders ⊆ g.arrive.holders := by
  unfold arrive
  split
  · exact fun _ h => h
  split
  · exact fun _ h => h
  · exact List.subset_append_left _ _

theorem sound_arrive (h : g.Sound n) : g.arrive.Sound n := by
  have hperm := tickets_arrive h.unclosed
  have hnew : g.next ∉ g.tickets := fun hmem => Nat.lt_irrefl _ (h.drawn _ hmem)
  have hnext : g.arrive.next = g.next + 1 := by
    unfold arrive
    split
    · rfl
    split <;> rfl
  refine ⟨?_, ?_, ?_, hperm.nodup_iff.mpr (List.nodup_cons.mpr ⟨hnew, h.nodup⟩), ?_⟩
  · exact (closed_arrive g).trans h.unclosed
  · have hpermits := h.permits
    unfold arrive
    rw [h.unclosed, if_neg Bool.false_ne_true]
    split
    · exact hpermits
    · simp only [List.length_append, List.length_singleton]
      omega
  · unfold arrive
    rw [h.unclosed, if_neg Bool.false_ne_true]
    split
    · exact fun _ => ‹_›
    · rename_i hfree
      exact fun hw => absurd (h.busy hw) hfree
  · intro t ht
    rw [hnext]
    rcases List.mem_cons.mp (hperm.mem_iff.mp ht) with rfl | ht
    · omega
    · have := h.drawn t ht
      omega

/-! ## Someone leaves -/

theorem tickets_giveBack (hnodup : g.tickets.Nodup) (ht : t ∈ g.holders) :
    (g.giveBack t).tickets.Perm (g.tickets.erase t) := by
  have hw : t ∉ g.waiting := fun hw => (List.disjoint_of_nodup_append hnodup) hw ht
  unfold giveBack tickets
  rw [List.erase_append_right _ hw]
  rcases g.waiting with _ | ⟨first, rest⟩
  · exact List.Perm.refl _
  · have hmove : (rest ++ g.holders.erase t ++ [first]).Perm
        (first :: (rest ++ g.holders.erase t)) :=
      List.perm_append_singleton _ _
    simpa using hmove

theorem tickets_leave (hnodup : g.tickets.Nodup) :
    (g.leave t).tickets.Perm (g.tickets.erase t) := by
  unfold leave
  split
  · rename_i hholds
    exact tickets_giveBack hnodup (holds_iff.mp hholds)
  · rename_i hholds
    have ht : t ∉ g.holders := fun ht => hholds (holds_iff.mpr ht)
    unfold tickets
    by_cases hw : t ∈ g.waiting
    · rw [List.erase_append_left _ hw]
    · rw [List.erase_append_right _ hw, List.erase_of_not_mem hw, List.erase_of_not_mem ht]

/-- Nobody but the one who leaves loses a permit. -/
theorem mem_holders_leave {t' : Nat} (ht' : t' ∈ g.holders) (hne : t' ≠ t) :
    t' ∈ (g.leave t).holders := by
  have herase : t' ∈ g.holders.erase t := (List.mem_erase_of_ne hne).mpr ht'
  unfold leave
  split
  · unfold giveBack
    split
    · exact herase
    · exact List.mem_append_left _ herase
  · exact ht'

theorem sound_giveBack (h : g.Sound n) (ht : t ∈ g.holders) : (g.giveBack t).Sound n := by
  have hperm := tickets_giveBack h.nodup ht
  have hpermits := h.permits
  have hlength := List.length_erase_of_mem ht
  have hpos := List.length_pos_of_mem ht
  refine ⟨?_, ?_, ?_, hperm.nodup_iff.mpr (h.nodup.erase t), ?_⟩
  · exact (closed_giveBack g t).trans h.unclosed
  · unfold giveBack
    split
    · change g.free + 1 + (g.holders.erase t).length = n
      omega
    · change g.free + (g.holders.erase t ++ [_]).length = n
      rw [List.length_append, List.length_singleton]
      omega
  · unfold giveBack
    split
    · rename_i hw
      exact fun hw' => absurd hw hw'
    · rename_i hw
      exact fun _ => h.busy (by rw [hw]; exact List.cons_ne_nil _ _)
  · have hnext : (g.giveBack t).next = g.next := by
      unfold giveBack
      split <;> rfl
    intro t' ht'
    rw [hnext]
    exact h.drawn t' (List.mem_of_mem_erase (hperm.mem_iff.mp ht'))

theorem sound_leave (h : g.Sound n) : (g.leave t).Sound n := by
  unfold leave
  split
  · rename_i hholds
    exact sound_giveBack h (holds_iff.mp hholds)
  · have hsub : List.Sublist (g.waiting.erase t ++ g.holders) (g.waiting ++ g.holders) :=
      List.erase_sublist.append_right _
    refine ⟨h.unclosed, h.permits, fun hw => h.busy fun hnil => hw ?_, h.nodup.sublist hsub, ?_⟩
    · change g.waiting.erase t = []
      rw [hnil]
      rfl
    · exact fun t' ht' => h.drawn t' (hsub.subset ht')

/-! ## What a move of a semaphore comes to -/

end HueLink.Semaphore
