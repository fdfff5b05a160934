import Turnstile.Proofs.Queue.Ring
import Turnstile.Proofs.Semaphore
import Turnstile.Queue.Basic

/-!
# What permits of a queue stand for

`Balanced slots items queue` says that the permits for slots are as many as there
are free slots and the permits for items as many as there are items, each with
one more once the queue is closed, where callers have `slots` and `items` of them
in hand. Each section of an operation trades one permit for another, and so a
whole operation, which begins and ends with no permit in hand, does not break off:
it stores its item, takes the oldest one, or leaves the items as they are.
-/

namespace Turnstile.Queue

set_option autoImplicit false

variable {α : Type} {queue : Queue α} {item : α} {slots items : Nat} {me : ThreadId}

/-- The extra permit of a closed queue. -/
def closing (queue : Queue α) : Nat := if queue.closed then 1 else 0

@[simp] theorem closing_postOpen (queue : Queue α) : closing queue.postOpen = closing queue := rfl

@[simp] theorem closing_postFull (queue : Queue α) : closing queue.postFull = closing queue := rfl

@[simp] theorem toList_postOpen (queue : Queue α) : queue.postOpen.toList = queue.toList := rfl

@[simp] theorem toList_postFull (queue : Queue α) : queue.postFull.toList = queue.toList := rfl

@[simp] theorem openSlots_postOpen (queue : Queue α) :
    queue.postOpen.openSlots = queue.openSlots.post := rfl

@[simp] theorem fullSlots_postOpen (queue : Queue α) :
    queue.postOpen.fullSlots = queue.fullSlots := rfl

@[simp] theorem openSlots_postFull (queue : Queue α) :
    queue.postFull.openSlots = queue.openSlots := rfl

@[simp] theorem fullSlots_postFull (queue : Queue α) :
    queue.postFull.fullSlots = queue.fullSlots.post := rfl

theorem eq_of_made {capacity : Nat} (made : ofCapacity capacity = .ok queue) :
    0 < capacity ∧ capacity ≤ greatestCapacity ∧
      queue = ⟨.ofCapacity capacity, false, .ofPermits (UInt64.ofNat capacity), .empty⟩ := by
  unfold ofCapacity capacityFault? at made
  by_cases zero : capacity = 0
  · simp [zero] at made
  · by_cases large : greatestCapacity < capacity
    · simp [zero, large] at made
    · simp only [zero, large, if_false, Except.ok.injEq] at made
      exact ⟨Nat.pos_of_ne_zero zero, Nat.not_lt.mp large, made.symm⟩

theorem closing_le (queue : Queue α) : closing queue ≤ 1 := by
  unfold closing
  split <;> omega

structure Balanced (slots items : Nat) (queue : Queue α) : Prop where
  holds : queue.ring.Holds queue.toList
  small : queue.capacity ≤ greatestCapacity
  slots : queue.openSlots.permits.toNat + slots + queue.toList.length =
    queue.capacity + closing queue
  items : queue.fullSlots.permits.toNat + items = queue.toList.length + closing queue

namespace Balanced

theorem ofCapacity {capacity : Nat} (made : ofCapacity capacity = .ok queue) :
    Balanced 0 0 queue ∧ queue.toList = [] := by
  obtain ⟨positive, moderate, rfl⟩ := eq_of_made made
  have holds : (Ring.ofCapacity capacity : Ring α).Holds [] := Ring.ofCapacity_holds positive
  have empty : (Ring.ofCapacity capacity : Ring α).toList = [] := holds.toList_eq
  refine ⟨⟨?_, ?_, ?_, ?_⟩, empty⟩
  · simp only [toList, empty]
    exact holds
  · simp only [Queue.capacity, Ring.capacity_ofCapacity]
    exact moderate
  · have small : capacity < UInt64.size := by
      have bound : greatestCapacity < UInt64.size := by decide
      omega
    simp only [toList, Queue.capacity, Ring.capacity_ofCapacity, empty, closing,
      Semaphore.ofPermits, UInt64.toNat_ofNat', Nat.mod_eq_of_lt small]
    simp
  · simp [toList, empty, closing, Semaphore.empty, Semaphore.ofPermits]

theorem length_le (balanced : Balanced slots items queue) :
    queue.toList.length ≤ queue.capacity :=
  balanced.holds.fits

theorem isEmpty_iff (balanced : Balanced slots items queue) :
    queue.isEmpty = true ↔ queue.toList = [] := by
  rw [isEmpty, len, balanced.holds.count]
  simp

theorem room (balanced : Balanced (slots + 1) items queue) (isOpen : queue.closed = false) :
    queue.toList.length < queue.capacity := by
  have total := balanced.slots
  simp only [closing, isOpen, Bool.false_eq_true, if_false] at total
  omega

theorem closed_of_nothing (balanced : Balanced slots (items + 1) queue)
    (nothing : queue.toList = []) : queue.closed = true := by
  have total := balanced.items
  by_contra notClosed
  simp [closing, notClosed, nothing] at total

theorem full_of_none (balanced : Balanced 0 items queue) (none : queue.openSlots.permits = 0) :
    queue.closed = false ∧ queue.toList.length = queue.capacity := by
  have total := balanced.slots
  have short := balanced.length_le
  rw [none, UInt64.toNat_zero] at total
  cases closed : queue.closed with
  | true => simp only [closing, closed, if_true] at total; omega
  | false =>
      simp only [closing, closed, Bool.false_eq_true, if_false] at total
      exact ⟨rfl, by omega⟩

theorem empty_of_none (balanced : Balanced slots 0 queue) (none : queue.fullSlots.permits = 0) :
    queue.closed = false ∧ queue.toList = [] := by
  have total := balanced.items
  rw [none, UInt64.toNat_zero] at total
  cases closed : queue.closed with
  | true => simp only [closing, closed, if_true] at total; omega
  | false =>
      simp only [closing, closed, Bool.false_eq_true, if_false] at total
      exact ⟨rfl, List.eq_nil_of_length_eq_zero (by omega)⟩

theorem takeSlot (balanced : Balanced slots items queue) {openSlots : Semaphore}
    (fewer : openSlots.permits.toNat + 1 = queue.openSlots.permits.toNat) :
    Balanced (slots + 1) items { queue with openSlots } := by
  refine ⟨balanced.holds, balanced.small, ?_, balanced.items⟩
  have total := balanced.slots
  simp only [toList, Queue.capacity, closing] at total ⊢
  omega

theorem takeItem (balanced : Balanced slots items queue) {fullSlots : Semaphore}
    (fewer : fullSlots.permits.toNat + 1 = queue.fullSlots.permits.toNat) :
    Balanced slots (items + 1) { queue with fullSlots } := by
  refine ⟨balanced.holds, balanced.small, balanced.slots, ?_⟩
  have total := balanced.items
  simp only [toList, closing] at total ⊢
  omega

theorem reline (balanced : Balanced slots items queue) {openSlots fullSlots : Semaphore}
    (sameSlots : openSlots.permits = queue.openSlots.permits)
    (sameItems : fullSlots.permits = queue.fullSlots.permits) :
    Balanced slots items { queue with openSlots, fullSlots } := by
  refine ⟨balanced.holds, balanced.small, ?_, ?_⟩
  · rw [sameSlots]
    exact balanced.slots
  · rw [sameItems]
    exact balanced.items

theorem put (balanced : Balanced (slots + 1) items queue) {ring : Ring α}
    (put : queue.ring.put item = .ok ring) :
    Balanced slots (items + 1) { queue with ring } ∧ ring.toList = queue.toList ++ [item] := by
  obtain ⟨after, same⟩ := balanced.holds.of_put put
  refine ⟨⟨?_, ?_, ?_, ?_⟩, after.toList_eq⟩
  · simp only [toList, after.toList_eq]
    exact after
  · simp only [Queue.capacity, same]
    exact balanced.small
  · have total := balanced.slots
    simp only [toList, Queue.capacity, closing, same, after.toList_eq, List.length_append,
      List.length_singleton] at total ⊢
    omega
  · have total := balanced.items
    simp only [toList, closing, after.toList_eq, List.length_append,
      List.length_singleton] at total ⊢
    omega

theorem take (balanced : Balanced slots (items + 1) queue) {ring : Ring α}
    (took : queue.ring.take = .ok (some (item, ring))) :
    Balanced (slots + 1) items { queue with ring } ∧ queue.toList = item :: ring.toList := by
  obtain ⟨rest, split, after, same⟩ := balanced.holds.of_take took
  have total := balanced.slots
  have counted := balanced.items
  rw [split, List.length_cons] at total counted
  refine ⟨⟨?_, ?_, ?_, ?_⟩, ?_⟩
  · simp only [toList, after.toList_eq]
    exact after
  · simp only [Queue.capacity, same]
    exact balanced.small
  · simp only [toList, Queue.capacity, closing, same, after.toList_eq] at total ⊢
    omega
  · simp only [toList, closing, after.toList_eq] at counted ⊢
    omega
  · rw [split, after.toList_eq]

theorem postOpen (balanced : Balanced (slots + 1) items queue) :
    Balanced slots items queue.postOpen := by
  refine ⟨balanced.holds, balanced.small, ?_, balanced.items⟩
  have total := balanced.slots
  have small := balanced.small
  have extra := closing_le queue
  have bound : greatestCapacity + 1 < UInt64.size := by decide
  have more : queue.openSlots.post.permits.toNat = queue.openSlots.permits.toNat + 1 :=
    Semaphore.toNat_permits_post (by omega)
  simp only [openSlots_postOpen, more, toList_postOpen, closing_postOpen]
  simp only [Queue.capacity, Queue.postOpen] at total ⊢
  omega

theorem postFull (balanced : Balanced slots (items + 1) queue) :
    Balanced slots items queue.postFull := by
  refine ⟨balanced.holds, balanced.small, balanced.slots, ?_⟩
  have total := balanced.items
  have small := balanced.small
  have short := balanced.length_le
  have extra := closing_le queue
  have bound : greatestCapacity + 1 < UInt64.size := by decide
  have more : queue.fullSlots.post.permits.toNat = queue.fullSlots.permits.toNat + 1 :=
    Semaphore.toNat_permits_post (by omega)
  simp only [fullSlots_postFull, more, toList_postFull, closing_postFull]
  omega

theorem shut (balanced : Balanced slots items queue) (isOpen : queue.closed = false) :
    Balanced (slots + 1) (items + 1) { queue with closed := true } := by
  have total := balanced.slots
  have counted := balanced.items
  refine ⟨balanced.holds, balanced.small, ?_, ?_⟩
  · simp only [closing, isOpen, Bool.false_eq_true, if_false, if_true, toList,
      Queue.capacity] at total ⊢
    omega
  · simp only [closing, isOpen, Bool.false_eq_true, if_false, if_true, toList] at counted ⊢
    omega

end Balanced

end Turnstile.Queue
