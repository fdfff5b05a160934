import Turnstile.Proofs.Queue.Balance

/-!
# A whole operation of a queue

An operation of a queue on which nobody has a permit in hand does one of four
things to the items and to the flag that says whether the queue is closed. None
of them breaks off, and none brings an item to a queue that is closed.
-/

namespace Turnstile.Queue

set_option autoImplicit false

variable {α : Type} {queue later last : Queue α} {item : α} {me : ThreadId}

/-- A queue of which all permits are on the semaphores. -/
abbrev Idle (queue : Queue α) : Prop := Balanced 0 0 queue

structure Retains (queue later : Queue α) : Prop where
  idle : Idle later
  closed : later.closed = queue.closed
  items : later.toList = queue.toList

structure Stores (item : α) (queue later : Queue α) : Prop where
  idle : Idle later
  isOpen : queue.closed = false
  closed : later.closed = queue.closed
  items : later.toList = queue.toList ++ [item]

structure Loads (item : α) (queue later : Queue α) : Prop where
  idle : Idle later
  closed : later.closed = queue.closed
  items : queue.toList = item :: later.toList

structure Shuts (queue later : Queue α) : Prop where
  idle : Idle later
  closed : later.closed = true
  items : later.toList = queue.toList

/-- What an operation that brings an item comes to. -/
inductive Pushed (item : α) (queue : Queue α) : PushAnswer α → Queue α → Prop where
  | stored {later : Queue α} (stores : Stores item queue later) :
      Pushed item queue .stored later
  | refused {later : Queue α} (refusal : Refusal α) (retains : Retains queue later) :
      Pushed item queue (.refused refusal) later

/-- What an operation that wants an item comes to. -/
inductive Popped (queue : Queue α) : PopAnswer α → Queue α → Prop where
  | item {item : α} {later : Queue α} (loads : Loads item queue later) :
      Popped queue (.item item) later
  | nothing {later : Queue α} (retains : Retains queue later) : Popped queue .nothing later

theorem Pushed.of_same {answer : PushAnswer α} (pushed : Pushed item queue answer last)
    (closed : queue.closed = later.closed) (items : queue.toList = later.toList) :
    Pushed item later answer last := by
  cases pushed with
  | stored stores =>
      exact .stored
        ⟨stores.idle, closed ▸ stores.isOpen, closed ▸ stores.closed, items ▸ stores.items⟩
  | refused refusal retains =>
      exact .refused refusal ⟨retains.idle, closed ▸ retains.closed, items ▸ retains.items⟩

theorem Popped.of_same {answer : PopAnswer α} (popped : Popped queue answer last)
    (closed : queue.closed = later.closed) (items : queue.toList = later.toList) :
    Popped later answer last := by
  cases popped with
  | item loads => exact .item ⟨loads.idle, closed ▸ loads.closed, items ▸ loads.items⟩
  | nothing retains => exact .nothing ⟨retains.idle, closed ▸ retains.closed, items ▸ retains.items⟩

namespace Balanced

theorem storeAll (balanced : Balanced 1 0 queue) {answer : PushAnswer α}
    (result : queue.storeAll item = (answer, later)) : Pushed item queue answer later := by
  cases closed : queue.closed with
  | true =>
      simp only [Queue.storeAll, Queue.store, closed, if_true] at result
      cases result
      exact .refused _ ⟨balanced.postOpen, rfl, rfl⟩
  | false =>
      obtain ⟨ring, put, _⟩ := balanced.holds.put (balanced.room closed) item
      obtain ⟨after, items⟩ := balanced.put put
      simp only [Queue.storeAll, Queue.store, closed, put, Bool.false_eq_true, if_false] at result
      cases result
      rw [closed] at after
      exact .stored ⟨after.postFull, closed, closed.symm, items⟩

theorem loadAll (balanced : Balanced 0 1 queue) {answer : PopAnswer α}
    (result : queue.loadAll = (answer, later)) : Popped queue answer later := by
  have holds := balanced.holds
  cases items : queue.toList with
  | nil =>
      rw [items] at holds
      have closed := balanced.closed_of_nothing items
      simp only [Queue.loadAll, Queue.load, holds.take_nil, closed, if_true] at result
      cases result
      exact .nothing ⟨balanced.postFull, rfl, rfl⟩
  | cons item rest =>
      rw [items] at holds
      obtain ⟨ring, took, _⟩ := holds.take_cons
      obtain ⟨after, split⟩ := balanced.take took
      simp only [Queue.loadAll, Queue.load, took] at result
      cases result
      exact .item ⟨after.postOpen, rfl, split⟩

end Balanced

namespace Idle

theorem retains (idle : Idle queue) : Retains queue queue := ⟨idle, rfl, rfl⟩

theorem tryPush (idle : Idle queue) {answer : PushAnswer α}
    (result : queue.tryPush item = (answer, later)) : Pushed item queue answer later := by
  unfold Queue.tryPush at result
  split at result
  · cases result
    exact .refused _ idle.retains
  · next openSlots taken =>
    have paid := idle.takeSlot (Semaphore.toNat_permits_take taken)
    exact (paid.storeAll result).of_same rfl rfl

theorem push (idle : Idle queue) {answer : PushAnswer α}
    (result : queue.push me item = .finished answer later) : Pushed item queue answer later := by
  unfold Queue.push at result
  split at result
  · next openSlots taken =>
    have paid := idle.takeSlot (Semaphore.toNat_permits_taken taken)
    cases result
    exact (paid.storeAll rfl).of_same rfl rfl
  · cases result
  · cases result

theorem push_joined (idle : Idle queue) (result : queue.push me item = .joined later) :
    Retains queue later := by
  unfold Queue.push at result
  split at result
  · cases result
  · next openSlots joined =>
    cases result
    exact ⟨idle.reline (Semaphore.permits_joined joined) rfl, rfl, rfl⟩
  · cases result

theorem tryPop (idle : Idle queue) {answer : PopAnswer α}
    (result : queue.tryPop = (answer, later)) : Popped queue answer later := by
  unfold Queue.tryPop at result
  split at result
  · cases result
    exact .nothing idle.retains
  · next fullSlots taken =>
    have paid := idle.takeItem (Semaphore.toNat_permits_take taken)
    exact (paid.loadAll result).of_same rfl rfl

theorem pop (idle : Idle queue) {answer : PopAnswer α}
    (result : queue.pop me = .finished answer later) : Popped queue answer later := by
  unfold Queue.pop at result
  split at result
  · next fullSlots taken =>
    have paid := idle.takeItem (Semaphore.toNat_permits_taken taken)
    cases result
    exact (paid.loadAll rfl).of_same rfl rfl
  · cases result
  · cases result

theorem pop_joined (idle : Idle queue) (result : queue.pop me = .joined later) :
    Retains queue later := by
  unfold Queue.pop at result
  split at result
  · cases result
  · next fullSlots joined =>
    cases result
    exact ⟨idle.reline rfl (Semaphore.permits_joined joined), rfl, rfl⟩
  · cases result

theorem popExpired (idle : Idle queue) {answer : PopAnswer α}
    (result : queue.popExpired? me = some (answer, later)) : Popped queue answer later := by
  rw [popExpired?, Option.map_eq_some_iff] at result
  obtain ⟨fullSlots, withdrawn, result⟩ := result
  have awake : Idle { queue with fullSlots } :=
    idle.reline rfl (Semaphore.permits_withdraw withdrawn)
  exact (awake.tryPop result).of_same rfl rfl

theorem close (idle : Idle queue) : Shuts queue queue.close := by
  unfold Queue.close
  split
  · next closed => exact ⟨idle, closed, rfl⟩
  · next isOpen =>
    have shut := idle.shut (by simpa using isOpen)
    exact ⟨shut.postFull.postOpen, rfl, rfl⟩

theorem clear (idle : Idle queue) (empty : queue.toList = []) : Retains queue queue.clear := by
  have fresh : (Ring.ofCapacity queue.capacity : Ring α).Holds [] :=
    Ring.ofCapacity_holds idle.holds.positive
  have size := Ring.capacity_ofCapacity (α := α) queue.capacity
  have same : queue.clear.toList = queue.toList := by
    rw [empty]
    exact fresh.toList_eq
  refine ⟨⟨?_, ?_, ?_, ?_⟩, rfl, same⟩
  · rw [same, empty]
    exact fresh
  · rw [Queue.capacity, Queue.clear, size]
    exact idle.small
  · rw [same, Queue.capacity, Queue.clear, size]
    exact idle.slots
  · rw [same]
    exact idle.items

end Idle

end Turnstile.Queue
