import Mathlib.Data.Nat.ModEq
import Turnstile.Queue.Ring

/-!
# A ring of slots holds a list

`Holds` says that a ring holds a list of items: read from the pop index on and
going round, the slots are the items in order and then empty ones. Putting an
item appends it, taking one removes the head, and neither breaks off.
-/

namespace Turnstile.Queue.Ring

set_option autoImplicit false

variable {α : Type} {ring : Ring α} {item : α} {items : List α}

structure Holds (ring : Ring α) (items : List α) : Prop where
  positive : 0 < ring.capacity
  popIndex : ring.popIndex < ring.capacity
  pushIndex : ring.pushIndex = (ring.popIndex + items.length) % ring.capacity
  count : ring.count = items.length
  fits : items.length ≤ ring.capacity
  slots : ∀ offset < ring.capacity,
    ring.slots[(ring.popIndex + offset) % ring.capacity]? = some items[offset]?

theorem offset_eq_of_mod_eq {capacity index first second : Nat} (firstBound : first < capacity)
    (secondBound : second < capacity)
    (same : (index + first) % capacity = (index + second) % capacity) : first = second := by
  have congruent : index + first ≡ index + second [MOD capacity] := same
  exact (Nat.ModEq.add_left_cancel' index congruent).eq_of_lt_of_lt firstBound secondBound

theorem exists_offset {capacity start index : Nat} (begins : start < capacity)
    (within : index < capacity) : ∃ offset < capacity, (start + offset) % capacity = index := by
  by_cases ahead : start ≤ index
  · refine ⟨index - start, by omega, ?_⟩
    rw [Nat.add_sub_cancel' ahead, Nat.mod_eq_of_lt within]
  · refine ⟨index + capacity - start, by omega, ?_⟩
    have sum : start + (index + capacity - start) = index + capacity := by omega
    rw [sum, Nat.add_mod_right, Nat.mod_eq_of_lt within]

theorem filterMap_range (items : List α) (slot : Nat → Option α)
    (same : ∀ offset < items.length, slot offset = items[offset]?) :
    (List.range items.length).filterMap slot = items := by
  induction items generalizing slot with
  | nil => rfl
  | cons first rest ih =>
      have here : slot 0 = some first := same 0 (Nat.zero_lt_succ _)
      rw [List.length_cons, List.range_succ_eq_map, List.filterMap_cons_some here,
        List.filterMap_map]
      congr 1
      apply ih
      intro offset bound
      exact same (offset + 1) (Nat.succ_lt_succ bound)

theorem capacity_ofCapacity (capacity : Nat) :
    (ofCapacity capacity : Ring α).capacity = capacity := by
  simp [Ring.capacity, ofCapacity]

theorem ofCapacity_holds {capacity : Nat} (positive : 0 < capacity) :
    (ofCapacity capacity : Ring α).Holds [] := by
  refine ⟨?_, ?_, ?_, rfl, ?_, ?_⟩
  · rwa [capacity_ofCapacity]
  · rwa [capacity_ofCapacity]
  · simp [ofCapacity]
  · simp
  · intro offset bound
    rw [capacity_ofCapacity] at bound ⊢
    simp [ofCapacity, Nat.mod_eq_of_lt bound, bound]

namespace Holds

theorem toList_eq (holds : ring.Holds items) : ring.toList = items := by
  unfold toList
  rw [holds.count]
  apply filterMap_range
  intro offset bound
  rw [holds.slots offset (Nat.lt_of_lt_of_le bound holds.fits)]
  rfl

theorem pushIndex_lt (holds : ring.Holds items) : ring.pushIndex < ring.capacity := by
  rw [holds.pushIndex]
  exact Nat.mod_lt _ holds.positive

theorem put (holds : ring.Holds items) (room : items.length < ring.capacity) (item : α) :
    ∃ later, ring.put item = .ok later ∧ later.Holds (items ++ [item]) ∧
      later.capacity = ring.capacity := by
  have vacant : ring.slots[ring.pushIndex]? = some none := by
    rw [holds.pushIndex, holds.slots _ room]
    simp
  have bound : ring.pushIndex < ring.slots.size := holds.pushIndex_lt
  have counted : ring.count < ring.capacity := holds.count ▸ room
  refine ⟨_, by simp only [Ring.put, counted, if_true, vacant]; rfl, ⟨?_, ?_, ?_, ?_, ?_, ?_⟩, ?_⟩
  · simpa [Ring.capacity] using holds.positive
  · simpa [Ring.capacity] using holds.popIndex
  · simp only [Ring.capacity, Array.size_setIfInBounds, after, List.length_append, List.length_cons,
      List.length_nil]
    rw [holds.pushIndex, Ring.capacity, Nat.mod_add_mod]
    rfl
  · simp [holds.count]
  · simpa [Ring.capacity, Nat.succ_le_iff] using room
  · intro offset within
    simp only [Ring.capacity, Array.size_setIfInBounds] at within ⊢
    by_cases last : offset = items.length
    · subst last
      rw [← Ring.capacity, ← holds.pushIndex, Array.getElem?_setIfInBounds_self_of_lt bound]
      simp
    · have different : ring.pushIndex ≠ (ring.popIndex + offset) % ring.slots.size := by
        rw [holds.pushIndex]
        intro same
        exact last (offset_eq_of_mod_eq within room same.symm)
      rw [Array.getElem?_setIfInBounds_ne different, ← Ring.capacity, holds.slots offset within]
      rcases Nat.lt_or_gt_of_ne last with before | beyond
      · rw [List.getElem?_append_left before]
      · rw [List.getElem?_eq_none (by omega), List.getElem?_eq_none (by simp; omega)]
  · simp [Ring.capacity]

theorem take_nil (holds : ring.Holds []) : ring.take = .ok none := by
  simp [Ring.take, holds.count]

theorem take_cons (holds : ring.Holds (item :: items)) :
    ∃ later, ring.take = .ok (some (item, later)) ∧ later.Holds items ∧
      later.capacity = ring.capacity := by
  have oldest : ring.slots[ring.popIndex]? = some (some item) := by
    have first := holds.slots 0 holds.positive
    rw [Nat.add_zero, Nat.mod_eq_of_lt holds.popIndex] at first
    exact first
  have some : ring.count ≠ 0 := by
    rw [holds.count]
    simp
  have fits : items.length < ring.capacity := holds.fits
  refine ⟨_, by simp only [Ring.take, some, if_false, oldest]; rfl, ⟨?_, ?_, ?_, ?_, ?_, ?_⟩, ?_⟩
  · simpa [Ring.capacity] using holds.positive
  · simp only [Ring.capacity, Array.size_setIfInBounds, after]
    exact Nat.mod_lt _ holds.positive
  · simp only [Ring.capacity, Array.size_setIfInBounds, after]
    rw [holds.pushIndex, Ring.capacity, Nat.mod_add_mod, List.length_cons]
    congr 1
    omega
  · simp [holds.count]
  · simpa [Ring.capacity] using Nat.le_of_lt fits
  · intro offset within
    simp only [Ring.capacity, Array.size_setIfInBounds, after] at within ⊢
    rw [Nat.mod_add_mod, Nat.add_assoc, Nat.add_comm 1 offset]
    by_cases round : offset + 1 = ring.slots.size
    · have here : (ring.popIndex + (offset + 1)) % ring.slots.size = ring.popIndex := by
        rw [round, Nat.add_mod_right]
        exact Nat.mod_eq_of_lt holds.popIndex
      rw [here, Array.getElem?_setIfInBounds_self_of_lt holds.popIndex]
      rw [List.getElem?_eq_none]
      have size : ring.capacity = ring.slots.size := rfl
      omega
    · have next : offset + 1 < ring.slots.size := by omega
      have different : ring.popIndex ≠ (ring.popIndex + (offset + 1)) % ring.slots.size := by
        intro same
        have same : (ring.popIndex + 0) % ring.slots.size =
            (ring.popIndex + (offset + 1)) % ring.slots.size := by
          rw [← same, Nat.add_zero]
          exact Nat.mod_eq_of_lt holds.popIndex
        have equal := offset_eq_of_mod_eq holds.positive next same
        omega
      rw [Array.getElem?_setIfInBounds_ne different, ← Ring.capacity, holds.slots _ next]
      rfl
  · simp [Ring.capacity]

theorem of_put (holds : ring.Holds items) {later : Ring α} (put : ring.put item = .ok later) :
    later.Holds (items ++ [item]) ∧ later.capacity = ring.capacity := by
  have room : items.length < ring.capacity := by
    rw [← holds.count]
    by_contra full
    simp only [Ring.put, full, if_false] at put
    cases put
  obtain ⟨_, result, after, same⟩ := holds.put room item
  rw [result] at put
  cases put
  exact ⟨after, same⟩

theorem of_take (holds : ring.Holds items) {later : Ring α}
    (took : ring.take = .ok (some (item, later))) :
    ∃ rest, items = item :: rest ∧ later.Holds rest ∧ later.capacity = ring.capacity := by
  cases items with
  | nil =>
      rw [holds.take_nil] at took
      cases took
  | cons first rest =>
      obtain ⟨_, result, after, same⟩ := holds.take_cons
      rw [result] at took
      cases took
      exact ⟨rest, rfl, after, same⟩

theorem eq_nil_of_take (holds : ring.Holds items) (took : ring.take = .ok none) : items = [] := by
  cases items with
  | nil => rfl
  | cons first rest =>
      obtain ⟨_, result, _⟩ := holds.take_cons
      rw [result] at took
      cases took

end Holds

end Turnstile.Queue.Ring
