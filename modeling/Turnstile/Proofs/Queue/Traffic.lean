import Turnstile.Proofs.Queue.Balance
import Turnstile.Proofs.Schedule
import Turnstile.Queue.Calls

/-!
# Every permit of a queue is somewhere

A permit is on its semaphore or in the hands of one caller. `Counted` says that
the permits for slots, wherever they are, are as many as there are free slots,
and the permits for items as many as there are items, each with one more once
the queue is closed. So whoever comes to the ring with a permit finds what the
permit stands for, and nobody sleeps for a permit that will not come.
-/

namespace Turnstile.Queue

set_option autoImplicit false

open World (total)

variable {α : Type}

@[simp] def slotPermits : Point α → Nat
  | .store _ | .postClosed _ | .postLoaded _ | .closeFull | .closeOpen => 1
  | _ => 0

@[simp] def itemPermits : Point α → Nat
  | .load | .postStored | .passOn | .postNothing | .closeFull => 1
  | _ => 0

/-- The caller had a permit for an item and found none. -/
@[simp] def passing : Point α → Nat
  | .passOn | .postNothing => 1
  | _ => 0

@[simp] def awaitsSlot : Point α → Nat
  | .pushWait _ => 1
  | _ => 0

@[simp] def awaitsItem : Point α → Nat
  | .popWait _ => 1
  | _ => 0

inductive Change (me : ThreadId) : Point α → Queue α → Point α → Queue α → Prop where
  | getSlot (item : α) {queue : Queue α} {openSlots : Semaphore}
      (taken : queue.openSlots.wait me = .taken openSlots) :
      Change me (.pushWait item) queue (.store item) { queue with openSlots }
  | awaitSlot (item : α) {queue : Queue α} {openSlots : Semaphore}
      (joined : queue.openSlots.wait me = .joined openSlots) :
      Change me (.pushWait item) queue (.pushWait item) { queue with openSlots }
  | grabSlot (item : α) {queue : Queue α} {openSlots : Semaphore}
      (taken : queue.openSlots.take? = some openSlots) :
      Change me (.tryPush item) queue (.store item) { queue with openSlots }
  | missSlot (item : α) {queue : Queue α} (none : queue.openSlots.take? = none) :
      Change me (.tryPush item) queue (.refuse item) queue
  | refuse (item : α) (queue : Queue α) : Change me (.refuse item) queue
      (.done (.push (.refused (if queue.closed then .closed item else .full item)))) queue
  | store (item : α) {queue : Queue α} {ring : Ring α} (isOpen : queue.closed = false)
      (put : queue.ring.put item = .ok ring) :
      Change me (.store item) queue .postStored { queue with ring }
  | turnAway (item : α) {queue : Queue α} (closed : queue.closed = true) :
      Change me (.store item) queue (.postClosed item) queue
  | announce (queue : Queue α) : Change me .postStored queue (.done (.push .stored)) queue.postFull
  | handBack (item : α) (queue : Queue α) :
      Change me (.postClosed item) queue (.done (.push (.refused (.closed item)))) queue.postOpen
  | getItem (timed : Bool) {queue : Queue α} {fullSlots : Semaphore}
      (taken : queue.fullSlots.wait me = .taken fullSlots) :
      Change me (.popWait timed) queue .load { queue with fullSlots }
  | awaitItem (timed : Bool) {queue : Queue α} {fullSlots : Semaphore}
      (joined : queue.fullSlots.wait me = .joined fullSlots) :
      Change me (.popWait timed) queue (.popWait timed) { queue with fullSlots }
  | expire {queue : Queue α} {fullSlots : Semaphore}
      (withdrawn : queue.fullSlots.withdraw? me = some fullSlots) :
      Change me (.popWait true) queue .tryPop { queue with fullSlots }
  | grabItem {queue : Queue α} {fullSlots : Semaphore}
      (taken : queue.fullSlots.take? = some fullSlots) :
      Change me .tryPop queue .load { queue with fullSlots }
  | missItem {queue : Queue α} (none : queue.fullSlots.take? = none) :
      Change me .tryPop queue (.done (.pop .nothing)) queue
  | load (item : α) {queue : Queue α} {ring : Ring α}
      (took : queue.ring.take = .ok (some (item, ring))) :
      Change me .load queue (.postLoaded item) { queue with ring }
  | findNothing {queue : Queue α} (took : queue.ring.take = .ok none)
      (closed : queue.closed = true) : Change me .load queue .passOn queue
  | vacate (item : α) (queue : Queue α) :
      Change me (.postLoaded item) queue (.done (.pop (.item item))) queue.postOpen
  | pass (queue : Queue α) : Change me .passOn queue .postNothing queue
  | leave (queue : Queue α) : Change me .postNothing queue (.done (.pop .nothing)) queue.postFull
  | close {queue : Queue α} (isOpen : queue.closed = false) :
      Change me .close queue .closeFull { queue with closed := true }
  | closeAgain {queue : Queue α} (closed : queue.closed = true) :
      Change me .close queue (.done .closed) queue
  | closeFull (queue : Queue α) : Change me .closeFull queue .closeOpen queue.postFull
  | closeOpen (queue : Queue α) : Change me .closeOpen queue (.done .closed) queue.postOpen

structure Counted (queue : Queue α) (callers : List (Point α)) : Prop where
  holds : queue.ring.Holds queue.toList
  small : queue.capacity ≤ greatestCapacity
  slots : queue.openSlots.permits.toNat + total slotPermits callers + queue.toList.length =
    queue.capacity + closing queue
  items : queue.fullSlots.permits.toNat + total itemPermits callers =
    queue.toList.length + closing queue
  /-- A permit for an item that was found missing is the one of a closed queue. -/
  settled : 0 < total passing callers → queue.closed = true ∧ queue.toList = []
  pushers : queue.openSlots.Attended awaitsSlot callers
  poppers : queue.fullSlots.Attended awaitsItem callers

variable {me : ThreadId} {old new : Point α} {queue changed : Queue α} {callers : List (Point α)}

namespace Counted

theorem balanced (counted : Counted queue callers) :
    Balanced (total slotPermits callers) (total itemPermits callers) queue :=
  ⟨counted.holds, counted.small, counted.slots, counted.items⟩

theorem start {capacity : Nat} (made : ofCapacity capacity = .ok queue) : Counted queue [] := by
  obtain ⟨⟨holds, small, slots, items⟩, _⟩ := Balanced.ofCapacity made
  obtain ⟨_, _, rfl⟩ := eq_of_made made
  refine ⟨holds, small, slots, items, ?_, .ofPermits _, .ofPermits _⟩
  intro passes
  cases passes

theorem spawn (counted : Counted queue callers) (call : Call α) :
    Counted queue (callers ++ [Queue.start call]) := by
  have slots : slotPermits (Queue.start call) = 0 := by cases call <;> rfl
  have items : itemPermits (Queue.start call) = 0 := by cases call <;> rfl
  have passes : passing (Queue.start call) = 0 := by cases call <;> rfl
  refine ⟨counted.holds, counted.small, ?_, ?_, ?_, counted.pushers.append _,
    counted.poppers.append _⟩
  · rw [World.total_append, slots]
    exact counted.slots
  · rw [World.total_append, items]
    exact counted.items
  · rw [World.total_append, passes]
    exact counted.settled

theorem length_le (counted : Counted queue callers) : queue.toList.length ≤ queue.capacity :=
  counted.holds.fits

theorem len_eq (counted : Counted queue callers) : queue.len = queue.toList.length :=
  counted.holds.count

theorem balanced_apart (counted : Counted queue callers) (found : callers[me]? = some old) :
    ∃ slots items, total slotPermits callers = slots + slotPermits old ∧
      total itemPermits callers = items + itemPermits old ∧
      Balanced (slots + slotPermits old) (items + itemPermits old) queue := by
  obtain ⟨slots, apart⟩ := Nat.exists_eq_add_of_le' (World.weight_le_total slotPermits found)
  obtain ⟨items, apartItems⟩ := Nat.exists_eq_add_of_le' (World.weight_le_total itemPermits found)
  refine ⟨slots, items, apart, apartItems, ?_⟩
  rw [← apart, ← apartItems]
  exact counted.balanced

end Counted

theorem change_of_pushWait {item : α}
    (acted : act me (.pushWait item) queue = some (new, changed)) :
    Change me (.pushWait item) queue new changed := by
  cases waited : queue.openSlots.wait me with
  | taken openSlots =>
      simp only [act, waited] at acted
      cases acted
      exact .getSlot item waited
  | joined openSlots =>
      simp only [act, waited] at acted
      cases acted
      exact .awaitSlot item waited
  | asleep => simp [act, waited] at acted

theorem change_of_tryPush {item : α} (acted : act me (.tryPush item) queue = some (new, changed)) :
    Change me (.tryPush item) queue new changed := by
  cases taken : queue.openSlots.take? with
  | some openSlots =>
      simp only [act, taken] at acted
      cases acted
      exact .grabSlot item taken
  | none =>
      simp only [act, taken] at acted
      cases acted
      exact .missSlot item taken

theorem change_of_store {item : α} (counted : Counted queue callers)
    (found : callers[me]? = some (.store item))
    (acted : act me (.store item) queue = some (new, changed)) :
    Change me (.store item) queue new changed := by
  cases closed : queue.closed with
  | true =>
      simp only [act, Queue.store, closed, if_true, afterStore] at acted
      cases acted
      exact .turnAway item closed
  | false =>
      obtain ⟨slots, items, _, _, balanced⟩ := counted.balanced_apart found
      obtain ⟨ring, put, _⟩ := counted.holds.put (balanced.room closed) item
      simp only [act, Queue.store, closed, put, Bool.false_eq_true, if_false, afterStore] at acted
      cases acted
      rw [← closed]
      exact .store item closed put

theorem change_of_popWait {timed : Bool}
    (acted : act me (.popWait timed) queue = some (new, changed)) :
    Change me (.popWait timed) queue new changed := by
  cases waited : queue.fullSlots.wait me with
  | taken fullSlots =>
      simp only [act, waited] at acted
      cases acted
      exact .getItem timed waited
  | joined fullSlots =>
      simp only [act, waited] at acted
      cases acted
      exact .awaitItem timed waited
  | asleep => simp [act, waited] at acted

theorem change_of_tryPop (acted : act me .tryPop queue = some (new, changed)) :
    Change me .tryPop queue new changed := by
  cases taken : queue.fullSlots.take? with
  | some fullSlots =>
      simp only [act, taken] at acted
      cases acted
      exact .grabItem taken
  | none =>
      simp only [act, taken] at acted
      cases acted
      exact .missItem taken

theorem change_of_load (counted : Counted queue callers) (found : callers[me]? = some .load)
    (acted : act me .load queue = some (new, changed)) : Change me .load queue new changed := by
  have holds := counted.holds
  cases items : queue.toList with
  | nil =>
      rw [items] at holds
      have took := holds.take_nil
      simp only [act, Queue.load, took, afterLoad] at acted
      cases acted
      obtain ⟨_, _, _, _, balanced⟩ := counted.balanced_apart found
      exact .findNothing took (balanced.closed_of_nothing items)
  | cons item rest =>
      rw [items] at holds
      obtain ⟨ring, took, _⟩ := holds.take_cons
      simp only [act, Queue.load, took, afterLoad] at acted
      cases acted
      exact .load item took

theorem change_of_close (acted : act me .close queue = some (new, changed)) :
    Change me .close queue new changed := by
  cases closed : queue.closed with
  | true =>
      simp only [act, closed, if_true] at acted
      cases acted
      exact .closeAgain closed
  | false =>
      simp only [act, closed, Bool.false_eq_true, if_false] at acted
      cases acted
      exact .close closed

theorem change_of_act (counted : Counted queue callers) (found : callers[me]? = some old)
    (acted : act me old queue = some (new, changed)) : Change me old queue new changed := by
  cases old with
  | pushWait item => exact change_of_pushWait acted
  | tryPush item => exact change_of_tryPush acted
  | refuse item =>
      cases acted
      exact .refuse item queue
  | store item => exact change_of_store counted found acted
  | postStored =>
      cases acted
      exact .announce queue
  | postClosed item =>
      cases acted
      exact .handBack item queue
  | popWait timed => exact change_of_popWait acted
  | tryPop => exact change_of_tryPop acted
  | load => exact change_of_load counted found acted
  | postLoaded item =>
      cases acted
      exact .vacate item queue
  | passOn =>
      obtain ⟨closed, _⟩ := counted.settled (World.weight_le_total passing found)
      simp only [act, closed, if_true] at acted
      cases acted
      exact .pass queue
  | postNothing =>
      cases acted
      exact .leave queue
  | close => exact change_of_close acted
  | closeFull =>
      cases acted
      exact .closeFull queue
  | closeOpen =>
      cases acted
      exact .closeOpen queue
  | done answer => cases acted

theorem change_of_expire (expired : expire me old queue = some (new, changed)) :
    Change me old queue new changed := by
  unfold Queue.expire at expired
  split at expired
  · rw [Option.map_eq_some_iff] at expired
    obtain ⟨fullSlots, withdrawn, same⟩ := expired
    cases same
    exact .expire withdrawn
  · cases expired

theorem Change.holds (change : Change me old queue new changed)
    (holds : queue.ring.Holds queue.toList) :
    changed.ring.Holds changed.toList ∧ changed.capacity = queue.capacity := by
  cases change with
  | store item isOpen put =>
      obtain ⟨after, same⟩ := holds.of_put put
      simp only [toList, after.toList_eq]
      exact ⟨after, same⟩
  | load item took =>
      obtain ⟨rest, _, after, same⟩ := holds.of_take took
      simp only [toList, after.toList_eq]
      exact ⟨after, same⟩
  | _ => exact ⟨holds, rfl⟩

/-- A permit goes from a semaphore to the caller and back, and from the one kind to the
other where an item comes or goes. -/
theorem Change.balanced (change : Change me old queue new changed) {slots items : Nat}
    (balanced : Balanced (slots + slotPermits old) (items + itemPermits old) queue) :
    Balanced (slots + slotPermits new) (items + itemPermits new) changed := by
  cases change with
  | getSlot item taken => exact balanced.takeSlot (Semaphore.toNat_permits_taken taken)
  | awaitSlot item joined => exact balanced.reline (Semaphore.permits_joined joined) rfl
  | grabSlot item taken => exact balanced.takeSlot (Semaphore.toNat_permits_take taken)
  | store item isOpen put => exact (Balanced.put balanced put).1
  | getItem timed taken => exact balanced.takeItem (Semaphore.toNat_permits_taken taken)
  | awaitItem timed joined => exact balanced.reline rfl (Semaphore.permits_joined joined)
  | expire withdrawn => exact balanced.reline rfl (Semaphore.permits_withdraw withdrawn)
  | grabItem taken => exact balanced.takeItem (Semaphore.toNat_permits_take taken)
  | load item took => exact (Balanced.take balanced took).1
  | announce | leave | closeFull => exact Balanced.postFull balanced
  | handBack | vacate | closeOpen => exact Balanced.postOpen balanced
  | close isOpen => exact balanced.shut isOpen
  | _ => exact balanced

theorem Change.stays_settled (change : Change me old queue new changed)
    (holds : queue.ring.Holds queue.toList)
    (settled : queue.closed = true ∧ queue.toList = []) :
    changed.closed = true ∧ changed.toList = [] := by
  obtain ⟨closed, empty⟩ := settled
  cases change with
  | store item isOpen put =>
      rw [closed] at isOpen
      cases isOpen
  | load item took =>
      obtain ⟨rest, split, _⟩ := holds.of_take took
      rw [empty] at split
      cases split
  | close isOpen =>
      rw [closed] at isOpen
      cases isOpen
  | _ => exact ⟨closed, empty⟩

theorem Change.pushers (change : Change me old queue new changed)
    (found : callers[me]? = some old) (attended : queue.openSlots.Attended awaitsSlot callers) :
    changed.openSlots.Attended awaitsSlot (callers.set me new) := by
  cases change with
  | getSlot item taken => exact attended.taken found rfl taken
  | awaitSlot item joined =>
      exact (attended.joined found Nat.one_pos joined).set found (Nat.le_refl _)
  | grabSlot item taken => exact (attended.set found (Nat.zero_le _)).take taken
  | handBack | vacate | closeOpen => exact (attended.set found (Nat.zero_le _)).post
  | _ => exact attended.set found (Nat.zero_le _)

theorem Change.poppers (change : Change me old queue new changed)
    (found : callers[me]? = some old) (attended : queue.fullSlots.Attended awaitsItem callers) :
    changed.fullSlots.Attended awaitsItem (callers.set me new) := by
  cases change with
  | getItem timed taken => exact attended.taken found rfl taken
  | awaitItem timed joined =>
      exact (attended.joined found Nat.one_pos joined).set found (Nat.le_refl _)
  | expire withdrawn => exact attended.withdraw found rfl withdrawn
  | grabItem taken => exact (attended.set found (Nat.zero_le _)).take taken
  | announce | leave | closeFull => exact (attended.set found (Nat.zero_le _)).post
  | _ => exact attended.set found (Nat.zero_le _)

theorem Counted.change (counted : Counted queue callers) (found : callers[me]? = some old)
    (change : Change me old queue new changed) : Counted changed (callers.set me new) := by
  obtain ⟨slots, items, apart, apartItems, before⟩ := counted.balanced_apart found
  have after := change.balanced before
  refine ⟨after.holds, after.small, ?_, ?_, ?_, change.pushers found counted.pushers,
    change.poppers found counted.poppers⟩
  · have slots := after.slots
    have callers := World.total_set slotPermits found new
    omega
  · have items := after.items
    have callers := World.total_set itemPermits found new
    omega
  · intro passes
    by_cases before : 0 < total passing callers
    · exact change.stays_settled counted.holds (counted.settled before)
    · have callers := World.total_set passing found new
      cases change with
      | findNothing took closed => exact ⟨closed, counted.holds.eq_nil_of_take took⟩
      | _ => simp at callers; omega

theorem rests_of_still {point : Point α} (still : act me point queue = none) :
    (∃ answer, point = .done answer) ∨
      (∃ item, point = .pushWait item ∧ me ∈ queue.openSlots.line) ∨
      ∃ timed, point = .popWait timed ∧ me ∈ queue.fullSlots.line := by
  cases point with
  | done answer => exact .inl ⟨answer, rfl⟩
  | pushWait item =>
      cases waited : queue.openSlots.wait me with
      | taken | joined => simp [act, waited] at still
      | asleep => exact .inr (.inl ⟨item, rfl, Semaphore.wait_asleep_iff.mp waited⟩)
  | popWait timed =>
      cases waited : queue.fullSlots.wait me with
      | taken | joined => simp [act, waited] at still
      | asleep => exact .inr (.inr ⟨timed, rfl, Semaphore.wait_asleep_iff.mp waited⟩)
  | tryPush item => cases taken : queue.openSlots.take? <;> simp [act, taken] at still
  | tryPop => cases taken : queue.fullSlots.take? <;> simp [act, taken] at still
  | close => cases closed : queue.closed <;> simp [act, closed] at still
  | _ => simp [act] at still

namespace Counted

variable {world : World (Queue α) (Point α)} {item : α}

theorem total_eq_zero_of_quiet (quiet : world.Quiet (machine α)) (weight : Point α → Nat)
    (done : ∀ answer, weight (.done answer) = 0) (pushes : ∀ item, weight (.pushWait item) = 0)
    (pops : ∀ timed, weight (.popWait timed) = 0) : total weight world.threads = 0 := by
  apply World.total_eq_zero
  intro me point found
  rcases rests_of_still (World.still_of_quiet quiet found) with
    ⟨answer, rfl⟩ | ⟨item, rfl, _⟩ | ⟨timed, rfl, _⟩
  · exact done answer
  · exact pushes item
  · exact pops timed

theorem settles {last : World (Queue α) (Point α)}
    (counted : Counted world.shared world.threads) (settles : world.Settles (machine α) last) :
    Counted last.shared last.threads := by
  have kept : World.Surely (machine α) (fun last => Counted last.shared last.threads) world := by
    refine .of_kept ?_ counted fun _ holds _ => holds
    rintro world later holds ⟨me, moved⟩
    obtain ⟨old, new, changed, found, acted, rfl⟩ := World.act_eq_some_iff.mp moved
    exact holds.change found (change_of_act holds found acted)
  exact kept last settles

theorem idle_of_quiet (counted : Counted world.shared world.threads)
    (quiet : world.Quiet (machine α)) : Balanced 0 0 world.shared := by
  have slots := total_eq_zero_of_quiet quiet slotPermits (fun _ => rfl) (fun _ => rfl) (fun _ => rfl)
  have items := total_eq_zero_of_quiet quiet itemPermits (fun _ => rfl) (fun _ => rfl) (fun _ => rfl)
  have balanced := counted.balanced
  rwa [slots, items] at balanced

theorem full_of_parked (counted : Counted world.shared world.threads)
    (quiet : world.Quiet (machine α)) (found : world.threads[me]? = some (.pushWait item)) :
    me ∈ world.shared.openSlots.line ∧ world.shared.closed = false ∧
      world.shared.toList.length = world.shared.capacity := by
  have listed : ∀ (me : ThreadId) (point : Point α), world.threads[me]? = some point →
      0 < awaitsSlot point → me ∈ world.shared.openSlots.line := by
    intro me point found awaits
    rcases rests_of_still (World.still_of_quiet quiet found) with
      ⟨answer, rfl⟩ | ⟨item, rfl, member⟩ | ⟨timed, rfl, _⟩
    · simp at awaits
    · exact member
    · simp at awaits
  have light : ∀ point : Point α, awaitsSlot point ≤ 1 := by
    intro point
    cases point <;> simp
  have member := listed me _ found Nat.one_pos
  have none := counted.pushers.permits_eq_zero light listed (List.ne_nil_of_mem member)
  exact ⟨member, (counted.idle_of_quiet quiet).full_of_none none⟩

theorem empty_of_parked (counted : Counted world.shared world.threads)
    (quiet : world.Quiet (machine α)) {timed : Bool}
    (found : world.threads[me]? = some (.popWait timed)) :
    me ∈ world.shared.fullSlots.line ∧ world.shared.closed = false ∧
      world.shared.toList = [] := by
  have listed : ∀ (me : ThreadId) (point : Point α), world.threads[me]? = some point →
      0 < awaitsItem point → me ∈ world.shared.fullSlots.line := by
    intro me point found awaits
    rcases rests_of_still (World.still_of_quiet quiet found) with
      ⟨answer, rfl⟩ | ⟨item, rfl, _⟩ | ⟨timed, rfl, member⟩
    · simp at awaits
    · simp at awaits
    · exact member
  have light : ∀ point : Point α, awaitsItem point ≤ 1 := by
    intro point
    cases point <;> simp
  have member := listed me _ found Nat.one_pos
  have none := counted.poppers.permits_eq_zero light listed (List.ne_nil_of_mem member)
  exact ⟨member, (counted.idle_of_quiet quiet).empty_of_none none⟩

end Counted

end Turnstile.Queue
