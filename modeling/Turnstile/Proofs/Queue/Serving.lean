import Turnstile.Proofs.Queue.Fifo
import Turnstile.Proofs.Queue.Whole
import Turnstile.Proofs.Queue.Traffic

/-!
# A call of a queue where everybody else rests

Every action of a caller brings down `pending`, the actions that the callers have ahead
together with the callers that are awake before a line. So whatever a call sets off
comes to an end, in any order.

Where one caller acts and all others have returned or are in a line, its actions in a
row are one whole operation, and what a whole operation does to the items and to the
two lines is what `Fifo` does.
-/

namespace Turnstile.Queue

set_option autoImplicit false

open World (total)

variable {α : Type} {queue changed last : Queue α} {callers : List (Point α)}
  {me other : ThreadId} {old new : Point α} {item : α} {fifo : Fifo α}

/-! ## Everything comes to rest -/

/-- How many actions a caller has ahead, if a caller that it wakes counts as one. -/
def ahead : Point α → Nat
  | .popWait _ => 6
  | .tryPop | .close => 5
  | .pushWait _ | .tryPush _ | .load | .closeFull => 4
  | .store _ | .passOn => 3
  | .postStored | .postClosed _ | .postLoaded _ | .postNothing | .closeOpen => 2
  | .refuse _ => 1
  | .done _ => 0

def pending (world : World (Queue α) (Point α)) : Nat :=
  total ahead world.threads +
    (total awaitsSlot world.threads - world.shared.openSlots.line.length) +
    (total awaitsItem world.threads - world.shared.fullSlots.line.length)

theorem Change.falls (change : Change me old queue new changed) (counted : Counted queue callers)
    (found : callers[me]? = some old) :
    pending ⟨changed, callers.set me new⟩ < pending ⟨queue, callers⟩ := by
  have later := counted.change found change
  have slots := counted.pushers.length_le
  have items := counted.poppers.length_le
  have slotsLater := later.pushers.length_le
  have itemsLater := later.poppers.length_le
  have fewer := World.total_set ahead found new
  have pushers := World.total_set awaitsSlot found new
  have poppers := World.total_set awaitsItem found new
  simp only [pending]
  cases change with
  | getSlot item taken =>
      obtain ⟨_, _, rfl⟩ := Semaphore.wait_taken taken
      simp only [ahead, awaitsSlot, awaitsItem] at *
      omega
  | awaitSlot item joined =>
      obtain ⟨_, _, rfl⟩ := Semaphore.wait_joined joined
      simp only [List.length_append, List.length_singleton] at *
      omega
  | getItem timed taken =>
      obtain ⟨_, _, rfl⟩ := Semaphore.wait_taken taken
      simp only [ahead, awaitsSlot, awaitsItem] at *
      omega
  | awaitItem timed joined =>
      obtain ⟨_, _, rfl⟩ := Semaphore.wait_joined joined
      simp only [List.length_append, List.length_singleton] at *
      omega
  | expire withdrawn =>
      obtain ⟨member, rfl⟩ := Semaphore.withdraw_eq_some withdrawn
      have shorter := List.length_erase_of_mem member
      simp only [ahead, awaitsSlot, awaitsItem] at *
      omega
  | grabSlot item taken =>
      obtain ⟨_, rfl⟩ := Semaphore.take_eq_some taken
      simp only [ahead, awaitsSlot, awaitsItem] at *
      omega
  | grabItem taken =>
      obtain ⟨_, rfl⟩ := Semaphore.take_eq_some taken
      simp only [ahead, awaitsSlot, awaitsItem] at *
      omega
  | announce | handBack | vacate | leave | closeFull | closeOpen =>
      simp only [ahead, awaitsSlot, awaitsItem, postFull, postOpen, Semaphore.post,
        List.length_tail] at *
      omega
  | _ =>
      simp only [ahead, awaitsSlot, awaitsItem] at *
      omega

theorem settle_settles {world : World (Queue α) (Point α)}
    (counted : Counted world.shared world.threads) :
    world.Settles (machine α) (world.settle (machine α)) := by
  have falls : ∀ world later : World (Queue α) (Point α), Counted world.shared world.threads →
      world.Acts (machine α) later →
      Counted later.shared later.threads ∧ pending later < pending world := by
    rintro world later counted ⟨me, moved⟩
    obtain ⟨old, new, changed, found, acted, rfl⟩ := World.act_eq_some_iff.mp moved
    have change := change_of_act counted found acted
    exact ⟨counted.change found change, change.falls counted found⟩
  have acts : total ahead world.threads ≤ world.threads.length * 6 :=
    World.total_le_mul fun point => by cases point <;> simp [ahead]
  have pushers : total awaitsSlot world.threads ≤ world.threads.length * 1 :=
    World.total_le_mul fun point => by cases point <;> simp
  have poppers : total awaitsItem world.threads ≤ world.threads.length * 1 :=
    World.total_le_mul fun point => by cases point <;> simp
  have comes : World.Comes (machine α) (fun _ => True) (pending world) world :=
    .of_measure falls (fun _ _ _ => trivial) counted (Nat.le_refl _)
  refine comes.settle ?_
  simp only [pending]
  omega

/-! ## One caller acts, the others rest -/

abbrev Alone (me : ThreadId) (world : World (Queue α) (Point α)) : Prop :=
  world.Alone (machine α) me

theorem Alone.keep (alone : Alone me ⟨queue, callers⟩)
    (pushers : ∀ other, other ≠ me → other ∈ queue.openSlots.line → other ∈ changed.openSlots.line)
    (poppers : ∀ other, other ≠ me → other ∈ queue.fullSlots.line → other ∈ changed.fullSlots.line)
    (new : Point α) : Alone me ⟨changed, callers.set me new⟩ := by
  intro other different
  have still := alone other different
  rw [World.act?, List.getElem?_set_ne (Ne.symm different)]
  cases found : callers[other]? with
  | none => rfl
  | some point =>
      rw [World.act?, found] at still
      rcases rests_of_still (by simpa [machine] using still) with
        ⟨answer, rfl⟩ | ⟨item, rfl, member⟩ | ⟨timed, rfl, member⟩
      · rfl
      · have asleep := Semaphore.wait_asleep_iff.mpr (pushers other different member)
        simp [machine, act, asleep]
      · have asleep := Semaphore.wait_asleep_iff.mpr (poppers other different member)
        simp [machine, act, asleep]

variable {goal : World (Queue α) (Point α) → Prop} {point : Point α}

theorem Alone.act (alone : Alone me ⟨queue, callers⟩) (found : callers[me]? = some old)
    (acted : act me old queue = some (new, changed))
    (surely : World.Surely (machine α) goal ⟨changed, callers.set me new⟩) :
    World.Surely (machine α) goal ⟨queue, callers⟩ :=
  World.Alone.surely alone found acted surely

theorem Alone.actAgain (alone : Alone me ⟨queue, callers.set me old⟩)
    (found : callers[me]? = some point) (acted : Queue.act me old queue = some (new, changed))
    (surely : World.Surely (machine α) goal ⟨changed, callers.set me new⟩) :
    World.Surely (machine α) goal ⟨queue, callers.set me old⟩ := by
  refine alone.act (World.found_set found) acted ?_
  rwa [List.set_set]

theorem Alone.storeAll {answer : PushAnswer α} (alone : Alone me ⟨queue, callers⟩)
    (found : callers[me]? = some (.store item)) (whole : queue.storeAll item = (answer, last))
    (surely : World.Surely (machine α) goal ⟨last, callers.set me (.done (.push answer))⟩) :
    World.Surely (machine α) goal ⟨queue, callers⟩ := by
  cases stored : queue.store item with
  | closed =>
      simp only [Queue.storeAll, stored] at whole
      cases whole
      have acted : Queue.act me (.store item) queue = some (.postClosed item, queue) := by
        simp [Queue.act, stored, afterStore]
      refine alone.act found acted ?_
      exact (alone.keep (fun _ _ => id) (fun _ _ => id) _).actAgain found rfl surely
  | stored after =>
      simp only [Queue.storeAll, stored] at whole
      cases whole
      have lines : after.openSlots = queue.openSlots ∧ after.fullSlots = queue.fullSlots := by
        unfold store at stored
        split at stored
        · cases stored
        · split at stored
          · cases stored
            exact ⟨rfl, rfl⟩
          · cases stored
      have acted : Queue.act me (.store item) queue = some (.postStored, after) := by
        simp [Queue.act, stored, afterStore]
      have stays : Alone me ⟨after, callers.set me .postStored⟩ :=
        alone.keep (fun _ _ => by simp [lines.1]) (fun _ _ => by simp [lines.2]) _
      exact alone.act found acted (stays.actAgain found rfl surely)
  | fault fault =>
      simp only [Queue.storeAll, stored] at whole
      cases whole
      exact alone.act found (by simp [Queue.act, stored, afterStore]) surely

theorem Alone.loadAll {answer : PopAnswer α} (alone : Alone me ⟨queue, callers⟩)
    (found : callers[me]? = some .load) (whole : queue.loadAll = (answer, last))
    (surely : World.Surely (machine α) goal ⟨last, callers.set me (.done (.pop answer))⟩) :
    World.Surely (machine α) goal ⟨queue, callers⟩ := by
  cases loaded : queue.load with
  | nothing =>
      have acted : Queue.act me .load queue = some (.passOn, queue) := by
        simp [Queue.act, loaded, afterLoad]
      have stays : ∀ new, Alone me ⟨queue, callers.set me new⟩ :=
        alone.keep (fun _ _ => id) (fun _ _ => id)
      refine alone.act found acted ?_
      cases closed : queue.closed with
      | true =>
          simp only [Queue.loadAll, loaded, closed, if_true] at whole
          cases whole
          have passed : Queue.act me .passOn queue = some (.postNothing, queue) := by
            simp [Queue.act, closed]
          refine (stays _).actAgain found passed ?_
          exact (stays _).actAgain found rfl surely
      | false =>
          simp only [Queue.loadAll, loaded, closed, Bool.false_eq_true, if_false] at whole
          cases whole
          exact (stays _).actAgain found (by simp [Queue.act, closed]) surely
  | loaded item after =>
      simp only [Queue.loadAll, loaded] at whole
      cases whole
      have lines : after.openSlots = queue.openSlots ∧ after.fullSlots = queue.fullSlots := by
        unfold load at loaded
        split at loaded
        · cases loaded
        · cases loaded
          exact ⟨rfl, rfl⟩
        · cases loaded
      have acted : Queue.act me .load queue = some (.postLoaded item, after) := by
        simp [Queue.act, loaded, afterLoad]
      have stays : Alone me ⟨after, callers.set me (.postLoaded item)⟩ :=
        alone.keep (fun _ _ => by simp [lines.1]) (fun _ _ => by simp [lines.2]) _
      exact alone.act found acted (stays.actAgain found rfl surely)
  | fault fault =>
      simp only [Queue.loadAll, loaded] at whole
      cases whole
      exact alone.act found (by simp [Queue.act, loaded, afterLoad]) surely

/-! ## What a whole operation does to the list and the lines -/

/-- The queue looks like `fifo`, and all its permits are on the semaphores. -/
structure Shows (fifo : Fifo α) (queue : Queue α) : Prop where
  idle : Idle queue
  items : queue.toList = fifo.items
  closed : queue.closed = fifo.closed
  capacity : queue.capacity = fifo.capacity
  pushers : queue.openSlots.line = fifo.pushers.map Prod.fst
  poppers : queue.fullSlots.line = fifo.poppers

namespace Shows

theorem no_slot (shows : Shows fifo queue) (isOpen : fifo.closed = false)
    (full : ¬ fifo.items.length < fifo.capacity) : queue.openSlots.permits = 0 := by
  have slots := shows.idle.slots
  simp only [closing, shows.closed, isOpen, shows.items, shows.capacity, Bool.false_eq_true,
    if_false] at slots
  apply UInt64.toNat_inj.mp
  rw [UInt64.toNat_zero]
  omega

theorem no_item (shows : Shows fifo queue) (isOpen : fifo.closed = false)
    (empty : fifo.items = []) : queue.fullSlots.permits = 0 := by
  have items := shows.idle.items
  simp only [closing, shows.closed, isOpen, shows.items, empty, Bool.false_eq_true, if_false,
    List.length_nil] at items
  apply UInt64.toNat_inj.mp
  rw [UInt64.toNat_zero]
  omega

end Shows

inductive SeeksSlot (me : ThreadId) (queue : Queue α) (item : α) : Point α → Prop where
  | push (outside : me ∉ queue.openSlots.line) : SeeksSlot me queue item (.pushWait item)
  | tryPush : SeeksSlot me queue item (.tryPush item)

inductive SeeksItem (me : ThreadId) (queue : Queue α) : Point α → Prop where
  | pop (timed : Bool) (outside : me ∉ queue.fullSlots.line) : SeeksItem me queue (.popWait timed)
  | tryPop : SeeksItem me queue .tryPop

def slotPaid (queue : Queue α) : Queue α :=
  { queue with openSlots.permits := queue.openSlots.permits - 1 }

def itemPaid (queue : Queue α) : Queue α :=
  { queue with fullSlots.permits := queue.fullSlots.permits - 1 }

namespace Alone

theorem paySlot (alone : Alone me ⟨queue, callers⟩) (found : callers[me]? = some old)
    (seeks : SeeksSlot me queue item old) (some : queue.openSlots.permits ≠ 0)
    (surely : Alone me ⟨slotPaid queue, callers.set me (.store item)⟩ →
      World.Surely (machine α) goal ⟨slotPaid queue, callers.set me (.store item)⟩) :
    World.Surely (machine α) goal ⟨queue, callers⟩ := by
  have acted : Queue.act me old queue = .some (.store item, slotPaid queue) := by
    cases seeks with
    | push outside => simp [Queue.act, Semaphore.wait_of_some outside some, slotPaid]
    | tryPush => simp [Queue.act, Semaphore.take?, some, slotPaid]
  refine alone.act found acted (surely (alone.keep ?_ ?_ _))
  · exact fun _ _ member => member
  · exact fun _ _ member => member

theorem payItem (alone : Alone me ⟨queue, callers⟩) (found : callers[me]? = some old)
    (seeks : SeeksItem me queue old) (some : queue.fullSlots.permits ≠ 0)
    (surely : Alone me ⟨itemPaid queue, callers.set me .load⟩ →
      World.Surely (machine α) goal ⟨itemPaid queue, callers.set me .load⟩) :
    World.Surely (machine α) goal ⟨queue, callers⟩ := by
  have acted : Queue.act me old queue = .some (.load, itemPaid queue) := by
    cases seeks with
    | pop timed outside => simp [Queue.act, Semaphore.wait_of_some outside some, itemPaid]
    | tryPop => simp [Queue.act, Semaphore.take?, some, itemPaid]
  refine alone.act found acted (surely (alone.keep ?_ ?_ _))
  · exact fun _ _ member => member
  · exact fun _ _ member => member

theorem stored (alone : Alone me ⟨queue, callers⟩) (found : callers[me]? = some old)
    (seeks : SeeksSlot me queue item old) (shows : Shows fifo queue)
    (isOpen : fifo.closed = false) (room : fifo.items.length < fifo.capacity)
    (surely : ∀ last,
      Shows { fifo with items := fifo.items ++ [item], poppers := fifo.poppers.tail } last →
        World.Surely (machine α) goal ⟨last, callers.set me (.done (.push .stored))⟩) :
    World.Surely (machine α) goal ⟨queue, callers⟩ := by
  have closed : (slotPaid queue).closed = false := shows.closed.trans isOpen
  have some : queue.openSlots.permits ≠ 0 := by
    intro none
    have full := (shows.idle.full_of_none none).2
    rw [shows.items, shows.capacity] at full
    omega
  have paid : Balanced 1 0 (slotPaid queue) :=
    shows.idle.takeSlot (Semaphore.toNat_permits_sub_one some)
  obtain ⟨ring, put, _, same⟩ := paid.holds.put (paid.room closed) item
  obtain ⟨after, items⟩ := paid.put put
  have whole : (slotPaid queue).storeAll item = (.stored, postFull { slotPaid queue with ring }) := by
    simp [Queue.storeAll, Queue.store, closed, put]
  refine alone.paySlot found seeks some fun stays => ?_
  refine stays.storeAll (World.found_set found) whole ?_
  rw [List.set_set]
  refine surely _ ⟨after.postFull, ?_, shows.closed, ?_, shows.pushers, ?_⟩
  · exact items.trans (congrArg (· ++ [item]) shows.items)
  · exact same.trans shows.capacity
  · exact congrArg List.tail shows.poppers

theorem turnedAway (alone : Alone me ⟨queue, callers⟩) (found : callers[me]? = some old)
    (seeks : SeeksSlot me queue item old) (shows : Shows fifo queue)
    (isClosed : fifo.closed = true)
    (surely : ∀ last, Shows { fifo with pushers := fifo.pushers.tail } last →
      World.Surely (machine α) goal
        ⟨last, callers.set me (.done (.push (.refused (.closed item))))⟩) :
    World.Surely (machine α) goal ⟨queue, callers⟩ := by
  have closed : (slotPaid queue).closed = true := shows.closed.trans isClosed
  have some : queue.openSlots.permits ≠ 0 := by
    intro none
    have isOpen := shows.closed.symm.trans (shows.idle.full_of_none none).1
    rw [isClosed] at isOpen
    cases isOpen
  have paid : Balanced 1 0 (slotPaid queue) :=
    shows.idle.takeSlot (Semaphore.toNat_permits_sub_one some)
  have whole : (slotPaid queue).storeAll item =
      (.refused (.closed item), (slotPaid queue).postOpen) := by
    simp [Queue.storeAll, Queue.store, closed]
  refine alone.paySlot found seeks some fun stays => ?_
  refine stays.storeAll (World.found_set found) whole ?_
  rw [List.set_set]
  refine surely _ ⟨paid.postOpen, shows.items, shows.closed, shows.capacity, ?_, shows.poppers⟩
  rw [List.map_tail]
  exact congrArg List.tail shows.pushers

theorem loaded {rest : List α} (alone : Alone me ⟨queue, callers⟩)
    (found : callers[me]? = some old) (seeks : SeeksItem me queue old) (shows : Shows fifo queue)
    (items : fifo.items = item :: rest)
    (surely : ∀ last, Shows { fifo with items := rest, pushers := fifo.pushers.tail } last →
      World.Surely (machine α) goal ⟨last, callers.set me (.done (.pop (.item item)))⟩) :
    World.Surely (machine α) goal ⟨queue, callers⟩ := by
  have holding : queue.toList = item :: rest := shows.items.trans items
  have some : queue.fullSlots.permits ≠ 0 := by
    intro none
    have empty := (shows.idle.empty_of_none none).2
    rw [holding] at empty
    cases empty
  have paid : Balanced 0 1 (itemPaid queue) :=
    shows.idle.takeItem (Semaphore.toNat_permits_sub_one some)
  have holds : (itemPaid queue).ring.Holds (item :: rest) := holding ▸ paid.holds
  obtain ⟨ring, took, remains, same⟩ := holds.take_cons
  have whole : (itemPaid queue).loadAll = (.item item, postOpen { itemPaid queue with ring }) := by
    simp [Queue.loadAll, Queue.load, took]
  refine alone.payItem found seeks some fun stays => ?_
  refine stays.loadAll (World.found_set found) whole ?_
  rw [List.set_set]
  refine surely _ ⟨(paid.take took).1.postOpen, remains.toList_eq, shows.closed,
    same.trans shows.capacity, ?_, shows.poppers⟩
  rw [List.map_tail]
  exact congrArg List.tail shows.pushers

/-- A closed queue has a permit for everybody who comes, and an empty one sends a
popper away with nothing. -/
theorem sentAway (alone : Alone me ⟨queue, callers⟩) (found : callers[me]? = some old)
    (seeks : SeeksItem me queue old) (shows : Shows fifo queue) (isClosed : fifo.closed = true)
    (empty : fifo.items = [])
    (surely : ∀ last, Shows { fifo with poppers := fifo.poppers.tail } last →
      World.Surely (machine α) goal ⟨last, callers.set me (.done (.pop .nothing))⟩) :
    World.Surely (machine α) goal ⟨queue, callers⟩ := by
  have closed : (itemPaid queue).closed = true := shows.closed.trans isClosed
  have some : queue.fullSlots.permits ≠ 0 := by
    intro none
    have isOpen := shows.closed.symm.trans (shows.idle.empty_of_none none).1
    rw [isClosed] at isOpen
    cases isOpen
  have paid : Balanced 0 1 (itemPaid queue) :=
    shows.idle.takeItem (Semaphore.toNat_permits_sub_one some)
  have holds : (itemPaid queue).ring.Holds [] := (shows.items.trans empty) ▸ paid.holds
  have whole : (itemPaid queue).loadAll = (.nothing, (itemPaid queue).postFull) := by
    simp [Queue.loadAll, Queue.load, holds.take_nil, closed]
  refine alone.payItem found seeks some fun stays => ?_
  refine stays.loadAll (World.found_set found) whole ?_
  rw [List.set_set]
  exact surely _ ⟨paid.postFull, shows.items, shows.closed, shows.capacity, shows.pushers,
    congrArg List.tail shows.poppers⟩

end Alone

end Turnstile.Queue
