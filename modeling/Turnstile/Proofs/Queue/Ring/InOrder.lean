import Mathlib.Data.List.ReduceOption
import Mathlib.Data.List.Rotate
import Turnstile.Proofs.Queue.Ring

/-!
# A ring of slots hands its items out in order

Items are put into a ring and taken out of it, in any number and in any order, as long as none is
put where the count of items is the capacity. However often the indices go round, no check fails,
each operation returns what it returns on a list to which items are appended and of which the head
is removed, and that list lies in the ring from the pop index on with every other slot empty
(`first_in_first_out`). So what has been taken, followed by what is still inside, is what was put
(`put_eq_taken_append_inside`), and the slots hold the items inside and no others
(`Holds.occupied_perm`). An item that is put where there is no room fails the check for room, and
no operations whatever fail another one (`Holds.performAll_eq_error_iff`).
-/

namespace Turnstile.Queue.Ring

set_option autoImplicit false

inductive Operation (α : Type) where
  | put (item : α)
  | take

variable {α : Type} {ring : Ring α} {items : List α} {operation : Operation α}

namespace Operation

def item? : Operation α → Option α
  | .put item => some item
  | .take => none

def onList : Operation α → List α → Option α × List α
  | .put item, items => (none, items ++ [item])
  | .take, items => (items.head?, items.tail)

/-- Operations in a row on a list, with what each of them returns. -/
def replay : List (Operation α) → List α → List (Option α) × List α
  | [], items => ([], items)
  | operation :: rest, items =>
    let (answer, mid) := operation.onList items
    let (answers, last) := replay rest mid
    (answer :: answers, last)

end Operation

/-! ## Operations on a ring -/

def perform (ring : Ring α) : Operation α → Except Fault (Option α × Ring α)
  | .put item => return (none, ← ring.put item)
  | .take => do
    match ← ring.take with
    | some (item, later) => return (some item, later)
    | none => return (none, ring)

def performAll (ring : Ring α) : List (Operation α) → Except Fault (List (Option α) × Ring α)
  | [] => return ([], ring)
  | operation :: rest => do
    let (answer, mid) ← ring.perform operation
    let (answers, last) ← mid.performAll rest
    return (answer :: answers, last)

/-- An item may be put as long as the count of items is not the capacity. -/
def admits (ring : Ring α) : Operation α → Bool
  | .put _ => ring.count < ring.capacity
  | .take => true

/-- Each operation of a row comes where it may. After one that breaks off there is no other. -/
def admitsAll (ring : Ring α) : List (Operation α) → Bool
  | [] => true
  | operation :: rest =>
    ring.admits operation &&
      match ring.perform operation with
      | .ok (_, mid) => mid.admitsAll rest
      | .error _ => true

theorem perform_refused (refused : ring.admits operation = false) :
    ring.perform operation = .error .ringFull := by
  cases operation with
  | put item =>
      have full : ¬ring.count < ring.capacity := of_decide_eq_false refused
      rw [Ring.perform, Ring.put, if_neg full]
      rfl
  | take => cases refused

namespace Holds

theorem perform (holds : ring.Holds items) (admitted : ring.admits operation = true) :
    ∃ later, ring.perform operation = .ok ((operation.onList items).1, later) ∧
      later.Holds (operation.onList items).2 ∧ later.capacity = ring.capacity := by
  cases operation with
  | put item =>
      have room : items.length < ring.capacity := by
        rw [← holds.count]
        exact of_decide_eq_true admitted
      obtain ⟨later, put, after⟩ := holds.put room item
      exact ⟨later, by rw [Ring.perform, put]; rfl, after⟩
  | take =>
      cases items with
      | nil => exact ⟨ring, by rw [Ring.perform, holds.take_nil]; rfl, holds, rfl⟩
      | cons item rest =>
          obtain ⟨later, took, after⟩ := holds.take_cons
          exact ⟨later, by rw [Ring.perform, took]; rfl, after⟩

theorem performAll {operations : List (Operation α)} (holds : ring.Holds items)
    (admitted : ring.admitsAll operations = true) :
    ∃ later, ring.performAll operations = .ok ((Operation.replay operations items).1, later) ∧
      later.Holds (Operation.replay operations items).2 ∧ later.capacity = ring.capacity := by
  induction operations generalizing ring items with
  | nil => exact ⟨ring, rfl, holds, rfl⟩
  | cons operation rest ih =>
      rw [admitsAll, Bool.and_eq_true] at admitted
      obtain ⟨here, beyond⟩ := admitted
      obtain ⟨mid, done, between, same⟩ := holds.perform here
      rw [done] at beyond
      obtain ⟨last, finished, after, kept⟩ := ih between beyond
      refine ⟨last, ?_, after, kept.trans same⟩
      simp only [Ring.performAll, done, finished, bind, Except.bind]
      rfl

/-- Of the three checks only the one for room can fail, whatever the operations are, and it does
so exactly if one of them puts an item into a full ring. -/
theorem performAll_eq_error_iff {operations : List (Operation α)} {fault : Fault}
    (holds : ring.Holds items) : ring.performAll operations = .error fault ↔
      ring.admitsAll operations = false ∧ fault = .ringFull := by
  induction operations generalizing ring items with
  | nil => simp [Ring.performAll, admitsAll, pure, Except.pure]
  | cons operation rest ih =>
      cases here : ring.admits operation with
      | false =>
          simp [Ring.performAll, admitsAll, here, perform_refused here, bind, Except.bind,
            eq_comm]
      | true =>
          obtain ⟨mid, done, between, _⟩ := holds.perform here
          have beyond := ih between
          rw [admitsAll, here, done, Bool.true_and, ← beyond]
          simp only [Ring.performAll, done, bind, Except.bind]
          cases mid.performAll rest <;> simp [pure, Except.pure]

end Holds

/-! ## Where the items lie -/

/-- A list lies in a ring of so many slots, from the pop index on and going round. -/
structure Layout (capacity : Nat) (items : List α) (ring : Ring α) : Prop where
  size : ring.capacity = capacity
  count : ring.count = items.length
  fits : ring.count ≤ capacity
  toList : ring.toList = items
  occupied : ∀ offset (bound : offset < items.length),
    ring.slots[(ring.popIndex + offset) % capacity]? = some (some items[offset])
  vacant : ∀ index < capacity,
    (∀ offset < ring.count, (ring.popIndex + offset) % capacity ≠ index) →
      ring.slots[index]? = some none
  distance : ring.pushIndex = (ring.popIndex + ring.count) % capacity
  pushIndex : ring.pushIndex < capacity
  popIndex : ring.popIndex < capacity
  take_eq_none_iff : ring.take = .ok none ↔ items = []

namespace Holds

theorem take_eq_none_iff (holds : ring.Holds items) : ring.take = .ok none ↔ items = [] := by
  refine ⟨holds.eq_nil_of_take, ?_⟩
  rintro rfl
  exact holds.take_nil

theorem layout (holds : ring.Holds items) : Layout ring.capacity items ring where
  size := rfl
  count := holds.count
  fits := holds.count ▸ holds.fits
  toList := holds.toList_eq
  occupied := by
    intro offset bound
    rw [holds.slots offset (Nat.lt_of_lt_of_le bound holds.fits), List.getElem?_eq_getElem bound]
  vacant := by
    intro index within outside
    -- The place is some way from the pop index, and the ways shorter than the count are excluded.
    obtain ⟨offset, bound, rfl⟩ := exists_offset holds.popIndex within
    have beyond : items.length ≤ offset := by
      by_contra inside
      exact outside offset (by rw [holds.count]; omega) rfl
    rw [holds.slots offset bound, List.getElem?_eq_none beyond]
  distance := by rw [holds.count, holds.pushIndex]
  pushIndex := holds.pushIndex_lt
  popIndex := holds.popIndex
  take_eq_none_iff := holds.take_eq_none_iff

theorem indices_eq_iff (holds : ring.Holds items) :
    ring.pushIndex = ring.popIndex ↔ items = [] ∨ items.length = ring.capacity := by
  have start : (ring.popIndex + 0) % ring.capacity = ring.popIndex :=
    Nat.mod_eq_of_lt holds.popIndex
  rw [holds.pushIndex]
  constructor
  · intro same
    rcases Nat.lt_or_eq_of_le holds.fits with room | full
    · have none := offset_eq_of_mod_eq room holds.positive (same.trans start.symm)
      exact .inl (List.eq_nil_of_length_eq_zero none)
    · exact .inr full
  · rintro (rfl | full)
    · exact start
    · rw [full, Nat.add_mod_right]
      exact start

theorem rotate_slots (holds : ring.Holds items) : ring.slots.toList.rotate ring.popIndex =
    items.map some ++ List.replicate (ring.capacity - items.length) none := by
  have fits := holds.fits
  apply List.ext_getElem?
  intro offset
  by_cases within : offset < ring.capacity
  · rw [List.getElem?_rotate within, Nat.add_comm, Array.getElem?_toList]
    refine (holds.slots offset within).trans ?_
    by_cases inside : offset < items.length
    · rw [List.getElem?_append_left (by rwa [List.length_map]), List.getElem?_map,
        List.getElem?_eq_getElem inside]
      rfl
    · rw [List.getElem?_append_right (by rw [List.length_map]; omega), List.length_map,
        List.getElem?_replicate, if_pos (by omega), List.getElem?_eq_none (by omega)]
  · rw [List.getElem?_eq_none, List.getElem?_eq_none]
    · simp
      omega
    · rw [List.length_rotate]
      exact Nat.not_lt.mp within

/-- The slots, wherever the ring begins, hold the items of the list and no others: these are the
ones that go when the ring goes. -/
theorem occupied_perm (holds : ring.Holds items) : ring.slots.toList.reduceOption.Perm items := by
  have turned := (ring.slots.toList.rotate_perm ring.popIndex).filterMap id
  have inOrder : (ring.slots.toList.rotate ring.popIndex).reduceOption = items := by
    rw [holds.rotate_slots, List.reduceOption_append, List.reduceOption_replicate_none,
      List.append_nil, List.reduceOption, List.filterMap_map]
    exact List.filterMap_some
  rw [← inOrder]
  exact turned.symm

end Holds

/-- For every capacity, and however many items have gone through: the ring breaks off in no
operation, answers each as the list does, and ends with the list laid out in it. -/
theorem first_in_first_out (capacity : Nat) (positive : 0 < capacity)
    (operations : List (Operation α))
    (admitted : (ofCapacity capacity : Ring α).admitsAll operations = true) :
    ∃ later, (ofCapacity capacity).performAll operations =
        .ok ((Operation.replay operations []).1, later) ∧
      Layout capacity (Operation.replay operations []).2 later := by
  obtain ⟨later, done, holds, same⟩ := (ofCapacity_holds positive).performAll admitted
  refine ⟨later, done, ?_⟩
  rw [capacity_ofCapacity] at same
  exact same ▸ holds.layout

/-- A ring of two slots is filled, has an item taken, and is filled again across its end. -/
theorem first_in_first_out_round_the_end :
    0 < 2 ∧
      (ofCapacity 2 : Ring Nat).admitsAll [.put 7, .put 8, .take, .put 9] = true ∧
      ∃ later, (ofCapacity 2 : Ring Nat).performAll [.put 7, .put 8, .take, .put 9] =
          .ok ([none, none, some 7, none], later) ∧ Layout 2 [8, 9] later :=
  ⟨by decide, by decide, first_in_first_out 2 (by decide) _ (by decide)⟩

theorem Operation.replay_conserves (operations : List (Operation α)) (items : List α) :
    items ++ operations.filterMap Operation.item? =
      (replay operations items).1.reduceOption ++ (replay operations items).2 := by
  induction operations generalizing items with
  | nil => simp [replay]
  | cons operation rest ih =>
      cases operation with
      | put item =>
          have step := ih (items ++ [item])
          rw [List.append_assoc] at step
          exact step
      | take =>
          cases items with
          | nil => exact ih []
          | cons first others => exact congrArg (first :: ·) (ih others)

theorem put_eq_taken_append_inside {capacity : Nat} (positive : 0 < capacity)
    {operations : List (Operation α)}
    (admitted : (ofCapacity capacity : Ring α).admitsAll operations = true) :
    ∃ answers later, (ofCapacity capacity).performAll operations = .ok (answers, later) ∧
      operations.filterMap Operation.item? = answers.reduceOption ++ later.toList := by
  obtain ⟨later, done, holds, _⟩ := (ofCapacity_holds positive).performAll admitted
  refine ⟨_, later, done, ?_⟩
  rw [holds.toList_eq]
  exact Operation.replay_conserves operations []

end Turnstile.Queue.Ring
