import Turnstile.Proofs.Pool.Milestones

/-!
# Who is parked at a queue

In a pool one thread alone sleeps until a queue has an item, its owner, while any
number of threads sleep until it has a slot. A `Visit` is one whole operation of a
thread on a queue, and `Tended` says what every visit keeps: the line for slots is
`Attended`, the line for items is `Reserved` for the owner, and the queue is idle, or
it was closed and what was left in it has been thrown away. So whoever is parked in
the line for items is parked at an open and empty queue, and where everybody who waits
for a slot is parked, the queue is open and full.
-/

namespace Turnstile

set_option autoImplicit false

namespace Semaphore

variable {π : Type} {sleeps : π → Nat} {threads : List π} {semaphore later : Semaphore}
  {owner me : ThreadId}

theorem permits_post_take (taken : semaphore.take? = some later) :
    later.post.permits = semaphore.permits := by
  obtain ⟨_, rfl⟩ := take_eq_some taken
  exact UInt64.sub_add_cancel semaphore.permits 1

theorem permits_post_taken (taken : semaphore.wait me = .taken later) :
    later.post.permits = semaphore.permits := by
  obtain ⟨_, _, rfl⟩ := wait_taken taken
  exact UInt64.sub_add_cancel semaphore.permits 1

/-- A semaphore that is left alone, or posted once. -/
inductive Nudged (semaphore : Semaphore) : Semaphore → Prop where
  | alone : Nudged semaphore semaphore
  | post : Nudged semaphore semaphore.post

theorem Attended.nudged (attended : Attended sleeps threads semaphore)
    (nudged : semaphore.Nudged later) : Attended sleeps threads later := by
  cases nudged with
  | alone => exact attended
  | post => exact attended.post

/-- Nobody but the owner stands in the line, and not beside a permit. -/
def Reserved (owner : ThreadId) (semaphore : Semaphore) : Prop :=
  semaphore.line = [] ∨ semaphore.line = [owner] ∧ semaphore.permits = 0

namespace Reserved

theorem nudged (reserved : Reserved owner semaphore) (nudged : semaphore.Nudged later) :
    Reserved owner later := by
  cases nudged with
  | alone => exact reserved
  | post =>
      refine .inl ?_
      rcases reserved with empty | ⟨alone, _⟩
      · rw [Semaphore.post, empty, List.tail_nil]
      · rw [Semaphore.post, alone, List.tail_cons]

theorem line_of_some (reserved : Reserved owner semaphore) (some : semaphore.permits ≠ 0) :
    semaphore.line = [] :=
  reserved.resolve_right fun parked => some parked.2

theorem take (reserved : Reserved owner semaphore) (taken : semaphore.take? = some later) :
    Reserved owner later := by
  obtain ⟨some, rfl⟩ := take_eq_some taken
  exact .inl (reserved.line_of_some some)

theorem taken (reserved : Reserved owner semaphore) (taken : semaphore.wait me = .taken later) :
    Reserved owner later := by
  obtain ⟨_, some, rfl⟩ := wait_taken taken
  exact .inl (reserved.line_of_some some)

theorem joined (reserved : Reserved owner semaphore)
    (joined : semaphore.wait owner = .joined later) : Reserved owner later := by
  obtain ⟨outside, none, rfl⟩ := wait_joined joined
  refine .inr ⟨?_, none⟩
  rcases reserved with empty | ⟨alone, _⟩
  · rw [empty, List.nil_append]
  · exact absurd (alone ▸ List.mem_singleton_self owner) outside

theorem withdraw (reserved : Reserved owner semaphore)
    (withdrawn : semaphore.withdraw? owner = some later) : Reserved owner later := by
  obtain ⟨member, rfl⟩ := withdraw_eq_some withdrawn
  refine .inl ?_
  rcases reserved with empty | ⟨alone, _⟩
  · rw [empty] at member
    cases member
  · simp [alone]

end Reserved

end Semaphore

namespace Queue

open Pool (isFor)

variable {α π : Type} {queue later : Queue α} {item : α} {me index : Nat}
  {before after : Option Nat} {awaits : π → Option Nat} {threads : List π} {old new : π}

theorem nudged_of_storeAll {answer : PushAnswer α}
    (result : queue.storeAll item = (answer, later)) :
    queue.openSlots.Nudged later.openSlots ∧ queue.fullSlots.Nudged later.fullSlots := by
  unfold storeAll at result
  split at result
  · cases result
    exact ⟨.post, .alone⟩
  · next stored result' =>
    cases result
    unfold store at result'
    split at result'
    · cases result'
    · split at result'
      · cases result'
        exact ⟨.alone, .post⟩
      · cases result'
  · cases result
    exact ⟨.alone, .alone⟩

theorem nudged_of_loadAll {answer : PopAnswer α} (result : queue.loadAll = (answer, later)) :
    queue.openSlots.Nudged later.openSlots ∧ queue.fullSlots.Nudged later.fullSlots := by
  unfold loadAll at result
  split at result
  · next result' =>
    cases result
    unfold load at result'
    split at result'
    · cases result'
    · cases result'
      exact ⟨.post, .alone⟩
    · cases result'
  · split at result
    · cases result
      exact ⟨.alone, .post⟩
    · cases result
      exact ⟨.alone, .alone⟩
  · cases result
    exact ⟨.alone, .alone⟩

/-- What one whole operation of thread `me` makes of queue `index`. The thread waits
for a slot of the queue `before` it, and of the queue `after` it. Only the owner of a
queue sleeps until there is an item. -/
inductive Visit (me index : Nat) (queue : Queue α) : Option Nat → Option Nat → Queue α → Prop where
  | tryPush {item : α} {answer : PushAnswer α} {later : Queue α}
      (result : queue.tryPush item = (answer, later)) : Visit me index queue none none later
  | push {item : α} {answer : PushAnswer α} {later : Queue α}
      (result : queue.push me item = .finished answer later) :
      Visit me index queue (some index) none later
  | park {item : α} {later : Queue α} (result : queue.push me item = .joined later) :
      Visit me index queue (some index) (some index) later
  | tryPop {answer : PopAnswer α} {later : Queue α} (result : queue.tryPop = (answer, later)) :
      Visit me index queue none none later
  | pop {answer : PopAnswer α} {later : Queue α} (own : me = index)
      (result : queue.pop me = .finished answer later) : Visit me index queue none none later
  | sleep {later : Queue α} (own : me = index) (result : queue.pop me = .joined later) :
      Visit me index queue none none later
  | expire {answer : PopAnswer α} {later : Queue α} (own : me = index)
      (result : queue.popExpired? me = some (answer, later)) : Visit me index queue none none later
  | close : Visit me index queue none none queue.close

theorem listed_of_push (asleep : queue.push me item = .asleep) : me ∈ queue.openSlots.line := by
  unfold push at asleep
  split at asleep
  · cases asleep
  · cases asleep
  · next waits => exact Semaphore.wait_asleep_iff.mp waits

theorem listed_of_pop (asleep : queue.pop me = .asleep) : me ∈ queue.fullSlots.line := by
  unfold pop at asleep
  split at asleep
  · cases asleep
  · cases asleep
  · next waits => exact Semaphore.wait_asleep_iff.mp waits

theorem closed_close (queue : Queue α) : queue.close.closed = true := by
  unfold close
  split
  · next closed => exact closed
  · rfl

theorem Visit.index_of_waits {other : Nat} (visit : Visit me index queue before after later)
    (waits : before = some other) : other = index := by
  cases visit with
  | push | park => exact (Option.some.inj waits).symm
  | _ => cases waits

theorem Visit.index_of_goes_on {other : Nat} (visit : Visit me index queue before after later)
    (waits : after = some other) : other = index := by
  cases visit with
  | park => exact (Option.some.inj waits).symm
  | _ => cases waits

theorem Pushed.onward {answer : PushAnswer α} (pushed : Pushed item queue answer later) :
    Onward queue later := by
  cases pushed with
  | stored stores => exact stores.onward
  | refused refusal retains => exact retains.onward

theorem Popped.onward {answer : PopAnswer α} (popped : Popped queue answer later) :
    Onward queue later := by
  cases popped with
  | item loads => exact loads.onward
  | nothing retains => exact retains.onward

theorem Idle.visit (idle : Idle queue) (visit : Visit me index queue before after later) :
    Onward queue later := by
  cases visit with
  | tryPush result => exact (idle.tryPush result).onward
  | push result => exact (idle.push result).onward
  | park result => exact (idle.push_joined result).onward
  | tryPop result => exact (idle.tryPop result).onward
  | pop own result => exact (idle.pop result).onward
  | sleep own result => exact (idle.pop_joined result).onward
  | expire own result => exact (idle.popExpired result).onward
  | close => exact idle.close.onward

/-- A closed queue from which everything has been thrown away. It still has the permits
that were there for what it held. -/
structure Spent (queue : Queue α) : Prop where
  closed : queue.closed = true
  empty : queue.ring.Holds []
  slots : queue.openSlots.permits ≠ 0
  items : queue.fullSlots.permits ≠ 0

namespace Spent

theorem reline (spent : Spent queue) {openSlots fullSlots : Semaphore}
    (sameSlots : openSlots.permits = queue.openSlots.permits)
    (sameItems : fullSlots.permits = queue.fullSlots.permits) :
    Spent { queue with openSlots, fullSlots } :=
  ⟨spent.closed, spent.empty, sameSlots ▸ spent.slots, sameItems ▸ spent.items⟩

theorem storeAll (spent : Spent queue) {openSlots : Semaphore} {answer : PushAnswer α}
    (turns : openSlots.post.permits = queue.openSlots.permits)
    (result : Queue.storeAll item { queue with openSlots } = (answer, later)) : Spent later := by
  simp only [Queue.storeAll, store, spent.closed, if_true] at result
  cases result
  exact ⟨rfl, spent.empty, turns ▸ spent.slots, spent.items⟩

theorem loadAll (spent : Spent queue) {fullSlots : Semaphore} {answer : PopAnswer α}
    (turns : fullSlots.post.permits = queue.fullSlots.permits)
    (result : Queue.loadAll { queue with fullSlots } = (answer, later)) : Spent later := by
  simp only [Queue.loadAll, load, spent.empty.take_nil, spent.closed, if_true] at result
  cases result
  exact ⟨rfl, spent.empty, spent.slots, turns ▸ spent.items⟩

theorem tryPop (spent : Spent queue) {answer : PopAnswer α}
    (result : queue.tryPop = (answer, later)) : Spent later := by
  unfold Queue.tryPop at result
  split at result
  · cases result
    exact spent
  · next fullSlots taken => exact spent.loadAll (Semaphore.permits_post_take taken) result

theorem visit (spent : Spent queue) (visit : Visit me index queue before after later) :
    Spent later := by
  cases visit with
  | tryPush result =>
      unfold Queue.tryPush at result
      split at result
      · cases result
        exact spent
      · next openSlots taken => exact spent.storeAll (Semaphore.permits_post_take taken) result
  | push result =>
      unfold Queue.push at result
      split at result
      · next openSlots taken =>
        cases result
        exact spent.storeAll (Semaphore.permits_post_taken taken) rfl
      · cases result
      · cases result
  | park result =>
      unfold Queue.push at result
      split at result
      · cases result
      · next openSlots joined =>
        cases result
        exact spent.reline (Semaphore.permits_joined joined) rfl
      · cases result
  | tryPop result => exact spent.tryPop result
  | pop own result =>
      unfold Queue.pop at result
      split at result
      · next fullSlots taken =>
        cases result
        exact spent.loadAll (Semaphore.permits_post_taken taken) rfl
      · cases result
      · cases result
  | sleep own result =>
      unfold Queue.pop at result
      split at result
      · cases result
      · next fullSlots joined =>
        cases result
        exact spent.reline rfl (Semaphore.permits_joined joined)
      · cases result
  | expire own result =>
      rw [popExpired?, Option.map_eq_some_iff] at result
      obtain ⟨fullSlots, withdrawn, result⟩ := result
      exact (spent.reline rfl (Semaphore.permits_withdraw withdrawn)).tryPop result
  | close =>
      rw [Queue.close, if_pos spent.closed]
      exact spent

end Spent

/-- Nobody has a permit of the queue in hand, unless it was closed and cleared. -/
def Sound (queue : Queue α) : Prop := queue.Idle ∨ queue.Spent

/-- A queue that is closed stays closed, and empty if it is. -/
structure Lasting (queue later : Queue α) : Prop where
  closed : queue.closed = true → later.closed = true
  empty : queue.closed = true → queue.toList = [] → later.toList = []

namespace Sound

theorem visit (sound : Sound queue) (visit : Visit me index queue before after later) :
    Sound later ∧ Lasting queue later := by
  rcases sound with idle | spent
  · have onward := idle.visit visit
    exact ⟨.inl onward.idle, onward.closed, onward.empty⟩
  · have still := spent.visit visit
    exact ⟨.inr still, fun _ => still.closed, fun _ _ => still.empty.toList_eq⟩

theorem isEmpty_iff (sound : Sound queue) : queue.isEmpty = true ↔ queue.toList = [] := by
  rcases sound with idle | spent
  · exact Balanced.isEmpty_iff idle
  · rw [isEmpty, len, spent.empty.count, toList, spent.empty.toList_eq]
    simp

theorem clear (sound : Sound queue) (closed : queue.closed = true) : Spent queue.clear := by
  rcases sound with idle | spent
  · refine ⟨closed, Ring.ofCapacity_holds idle.holds.positive, ?_, ?_⟩
    · intro none
      have isOpen := (Balanced.full_of_none idle none).1
      rw [closed] at isOpen
      cases isOpen
    · intro none
      have isOpen := (Balanced.empty_of_none idle none).1
      rw [closed] at isOpen
      cases isOpen
  · exact ⟨closed, Ring.ofCapacity_holds spent.empty.positive, spent.slots, spent.items⟩

theorem full_of_none (sound : Sound queue) (none : queue.openSlots.permits = 0) :
    queue.closed = false ∧ queue.toList.length = queue.capacity := by
  rcases sound with idle | spent
  · exact Balanced.full_of_none idle none
  · exact absurd none spent.slots

theorem empty_of_none (sound : Sound queue) (none : queue.fullSlots.permits = 0) :
    queue.closed = false ∧ queue.toList = [] := by
  rcases sound with idle | spent
  · exact Balanced.empty_of_none idle none
  · exact absurd none spent.items

theorem capacity_pos (sound : Sound queue) : 0 < queue.capacity := by
  rcases sound with idle | spent
  · exact idle.holds.positive
  · exact spent.empty.positive

end Sound

/-- The lines of queue `index`, where `awaits` tells for a slot of which queue a thread
waits, if it waits for one. -/
structure Lined (awaits : π → Option Nat) (threads : List π) (index : Nat) (queue : Queue α) :
    Prop where
  pushers : Semaphore.Attended (fun point => isFor index (awaits point)) threads queue.openSlots
  owner : queue.fullSlots.Reserved index

namespace Lined

theorem ofCapacity {capacity : Nat} (made : ofCapacity capacity = .ok queue) :
    Lined awaits threads index queue := by
  obtain ⟨_, _, rfl⟩ := eq_of_made made
  exact ⟨.ofPermits _, .inl rfl⟩

theorem storeAll (lined : Lined awaits threads index queue) {answer : PushAnswer α}
    (result : queue.storeAll item = (answer, later)) : Lined awaits threads index later := by
  obtain ⟨slots, items⟩ := nudged_of_storeAll result
  exact ⟨lined.pushers.nudged slots, lined.owner.nudged items⟩

theorem loadAll (lined : Lined awaits threads index queue) {answer : PopAnswer α}
    (result : queue.loadAll = (answer, later)) : Lined awaits threads index later := by
  obtain ⟨slots, items⟩ := nudged_of_loadAll result
  exact ⟨lined.pushers.nudged slots, lined.owner.nudged items⟩

theorem tryPop (lined : Lined awaits threads index queue) {answer : PopAnswer α}
    (result : queue.tryPop = (answer, later)) : Lined awaits threads index later := by
  unfold Queue.tryPop at result
  split at result
  · cases result
    exact lined
  · next fullSlots taken =>
    have paid : Lined awaits threads index { queue with fullSlots } :=
      ⟨lined.pushers, lined.owner.take taken⟩
    exact paid.loadAll result

theorem set (lined : Lined awaits threads index queue) (found : threads[me]? = some old)
    (stays : awaits old = some index → awaits new = some index) :
    Lined awaits (threads.set me new) index queue := by
  refine ⟨lined.pushers.set found ?_, lined.owner⟩
  by_cases waits : awaits old = some index
  · rw [waits, stays waits]
  · simp [isFor, waits]

theorem visit (lined : Lined awaits threads index queue) (found : threads[me]? = some old)
    (visit : Visit me index queue (awaits old) (awaits new) later) :
    Lined awaits (threads.set me new) index later := by
  generalize waited : awaits old = before at visit
  generalize waits : awaits new = after at visit
  -- Only a push that comes to its end takes a thread away from where it waits.
  have settled (same : before = after) (kept : Lined awaits threads index later) :
      Lined awaits (threads.set me new) index later :=
    kept.set found fun standing => by rw [waits, ← same, ← waited, standing]
  cases visit with
  | tryPush result =>
      refine settled rfl ?_
      unfold Queue.tryPush at result
      split at result
      · cases result
        exact lined
      · next openSlots taken =>
        have paid : Lined awaits threads index { queue with openSlots } :=
          ⟨lined.pushers.take taken, lined.owner⟩
        exact paid.storeAll result
  | push result =>
      unfold Queue.push at result
      split at result
      · next openSlots taken =>
        have slept : isFor index (awaits old) = 1 := by simp [isFor, waited]
        have paid : Lined awaits (threads.set me new) index { queue with openSlots } :=
          ⟨lined.pushers.taken found slept taken, lined.owner⟩
        cases result
        exact paid.storeAll rfl
      · cases result
      · cases result
  | park result =>
      refine settled rfl ?_
      unfold Queue.push at result
      split at result
      · cases result
      · next openSlots joined =>
        cases result
        have sleeps : 0 < isFor index (awaits old) := by simp [isFor, waited]
        exact ⟨lined.pushers.joined found sleeps joined, lined.owner⟩
      · cases result
  | tryPop result => exact settled rfl (lined.tryPop result)
  | pop own result =>
      refine settled rfl ?_
      unfold Queue.pop at result
      split at result
      · next fullSlots taken =>
        have paid : Lined awaits threads index { queue with fullSlots } :=
          ⟨lined.pushers, lined.owner.taken taken⟩
        cases result
        exact paid.loadAll rfl
      · cases result
      · cases result
  | sleep own result =>
      refine settled rfl ?_
      unfold Queue.pop at result
      split at result
      · cases result
      · next fullSlots joined =>
        cases result
        exact ⟨lined.pushers, lined.owner.joined (own ▸ joined)⟩
      · cases result
  | expire own result =>
      refine settled rfl ?_
      rw [popExpired?, Option.map_eq_some_iff] at result
      obtain ⟨fullSlots, withdrawn, result⟩ := result
      have awake : Lined awaits threads index { queue with fullSlots } :=
        ⟨lined.pushers, lined.owner.withdraw (own ▸ withdrawn)⟩
      exact awake.tryPop result
  | close =>
      refine settled rfl ?_
      unfold Queue.close
      split
      · exact lined
      · exact ⟨lined.pushers.post, lined.owner.nudged .post⟩

end Lined

/-- Nobody is parked beside a permit of queue `index`. -/
structure Tended (awaits : π → Option Nat) (threads : List π) (index : Nat) (queue : Queue α) :
    Prop where
  sound : queue.Sound
  lined : Lined awaits threads index queue

namespace Tended

theorem set (tended : Tended awaits threads index queue) (found : threads[me]? = some old)
    (stays : awaits old = some index → awaits new = some index) :
    Tended awaits (threads.set me new) index queue :=
  ⟨tended.sound, tended.lined.set found stays⟩

theorem append (tended : Tended awaits threads index queue) (point : π) :
    Tended awaits (threads ++ [point]) index queue :=
  ⟨tended.sound, tended.lined.pushers.append point, tended.lined.owner⟩

theorem visit (tended : Tended awaits threads index queue) (found : threads[me]? = some old)
    (visit : Visit me index queue (awaits old) (awaits new) later) :
    Tended awaits (threads.set me new) index later :=
  ⟨(tended.sound.visit visit).1, tended.lined.visit found visit⟩

theorem clear (tended : Tended awaits threads index queue) (closed : queue.closed = true) :
    Tended awaits threads index queue.clear :=
  ⟨.inr (tended.sound.clear closed), tended.lined.pushers, tended.lined.owner⟩

theorem empty_of_parked (tended : Tended awaits threads index queue)
    (parked : queue.fullSlots.line ≠ []) : queue.closed = false ∧ queue.toList = [] :=
  tended.sound.empty_of_none (tended.lined.owner.resolve_left parked).2

theorem full_of_parked (tended : Tended awaits threads index queue)
    (listed : ∀ me point, threads[me]? = some point → awaits point = some index →
      me ∈ queue.openSlots.line)
    (parked : queue.openSlots.line ≠ []) :
    queue.closed = false ∧ queue.toList.length = queue.capacity := by
  refine tended.sound.full_of_none (tended.lined.pushers.permits_eq_zero ?_ ?_ parked)
  · intro point
    unfold isFor
    split <;> omega
  · intro me point found heavy
    refine listed me point found ?_
    by_contra elsewhere
    simp [isFor, elsewhere] at heavy

end Tended

end Queue

end Turnstile
