import Turnstile.Proofs.Queue.Arrivals

/-!
# A queue refines a bounded list with two lines

Requests come one at a time, and after each the callers act, in an order that nobody
chooses, until none of them can. Whatever the order, what is seen of the request is what
the `Fifo` says of it, and the `Fifo` goes along with the queue from request to request.
The schedule that is run for a request is one of these.
-/

namespace Turnstile.Queue

set_option autoImplicit false

open World (total)

variable {α : Type} {fifo : Fifo α} {before world last : World (Queue α) (Point α)}
  {request : Request α} {requests : List (Request α)}

/-- What a request may leave behind, in whatever order the callers act. -/
inductive Served (before : World (Queue α) (Point α)) :
    Request α → World (Queue α) (Point α) → Prop where
  | call (call : Call α) {last : World (Queue α) (Point α)}
      (settles : (before.spawn (start call)).Settles (machine α) last) :
      Served before (.call call) last
  /-- The pop returned before its wait could end. -/
  | inTime {last : World (Queue α) (Point α)}
      (settles : (before.spawn (start .popFor)).Settles (machine α) last)
      (returned : last.expire? (machine α) before.threads.length = none) :
      Served before .popBriefly last
  | expired {parked late last : World (Queue α) (Point α)}
      (settles : (before.spawn (start .popFor)).Settles (machine α) parked)
      (expired : parked.expire? (machine α) before.threads.length = some late)
      (again : late.Settles (machine α) last) : Served before .popBriefly last

inductive ServedAll (start : World (Queue α) (Point α)) :
    List (Request α) → World (Queue α) (Point α) → Prop where
  | none : ServedAll start [] start
  | next {requests : List (Request α)} {request : Request α}
      {before last : World (Queue α) (Point α)} (earlier : ServedAll start requests before)
      (served : Served before request last) : ServedAll start (requests ++ [request]) last

def Request.perform (request : Request α) (world : World (Queue α) (Point α)) :
    World (Queue α) (Point α) × Report (Answer α) :=
  match request with
  | .call asked => world.issue (machine α) (start asked)
  | .popBriefly => world.issueBriefly (machine α) (start .popFor)

structure Agrees (outcome : Outcome α) (report : Report (Answer α))
    (last : World (Queue α) (Point α)) : Prop where
  answer : report.answer = outcome.answer
  released : report.released.Perm outcome.released
  waiting : report.waiting.Perm outcome.fifo.waiting
  snapshot : snapshot last = outcome.fifo.snapshot

namespace Resting

theorem live_eq (resting : Resting fifo world) :
    live world = fifo.items.length + fifo.pushers.length := by
  have inHand : (world.threads.filterMap Point.inHand?).length = total awaitsSlot world.threads := by
    have seats : ∀ point ∈ world.threads, (point.inHand?).toList.length = awaitsSlot point := by
      intro point member
      obtain ⟨me, found⟩ := List.mem_iff_getElem?.mp member
      cases resting.seated me point found <;> rfl
    generalize world.threads = threads at seats
    induction threads with
    | nil => rfl
    | cons first rest ih =>
        have here := seats first List.mem_cons_self
        have later := ih fun point member => seats point (List.mem_cons_of_mem _ member)
        simp only [total, List.map_cons, List.sum_cons] at later ⊢
        rw [← here, ← later, List.filterMap_cons]
        cases first.inHand? <;> simp [Nat.add_comm]
  have listed : ∀ me point, world.threads[me]? = some point → 0 < awaitsSlot point →
      awaitsSlot point = 1 ∧ me ∈ world.shared.openSlots.line := by
    intro me point found awaits
    cases resting.seated me point found with
    | done | popper => cases awaits
    | pusher member =>
        exact ⟨rfl, resting.shows.pushers ▸ List.mem_map_of_mem (f := Prod.fst) member⟩
  have exactly := Nat.le_antisymm (World.total_le_length listed) resting.counted.pushers.length_le
  rw [live, inHand, exactly, resting.shows.pushers, List.length_map, resting.counted.len_eq,
    resting.shows.items]

theorem snapshot_eq (resting : Resting fifo world) : snapshot world = fifo.snapshot := by
  have len : world.shared.len = fifo.items.length := by
    rw [resting.counted.len_eq, resting.shows.items]
  simp only [snapshot, Fifo.snapshot, Snapshot.mk.injEq]
  refine ⟨len, ?_, ?_, resting.shows.closed, resting.live_eq, resting.shows.items⟩
  · rw [isEmpty, len]
    cases fifo.items <;> rfl
  · rw [isFull, len, resting.shows.capacity]

end Resting

theorem Yields.agrees {outcome : Outcome α} (yields : Yields before outcome last) :
    Agrees outcome (before.report (machine α) last before.threads.length) last := by
  obtain ⟨resting, ends⟩ := yields
  refine ⟨ends.report_answer, ends.report_released, ?_, resting.snapshot_eq⟩
  exact World.report_waiting_perm resting.waiting_nodup fun _ => resting.mem_waiting_iff

namespace Resting

theorem serve_yields (resting : Resting fifo before)
    (arrives : World.Surely (machine α) (Arrives before (fifo.handle request)) world)
    (counted : Counted world.shared world.threads)
    (settles : world.Settles (machine α) last) : Yields before (fifo.serve request) last := by
  obtain ⟨waited, once, pushers, poppers⟩ := fifo.handle_follows request resting.waiting_nodup
  obtain ⟨⟨idle, items, closed, capacity, slots, line⟩, point, answered, threads, seat⟩ :=
    arrives last settles
  refine resting.yields ⟨waited, once, pushers, poppers⟩ rfl
    ⟨⟨idle, items, closed, capacity, slots, line⟩, point, answered, threads, ?_⟩ (counted.settles settles)
  cases seat with
  | done answer => exact .done answer
  | pusher member => exact .pusher member
  | popper timed member => exact .popper timed member

theorem call_arrives (resting : Resting fifo before) (call : Call α) :
    World.Surely (machine α) (Arrives before (fifo.handle (.call call)))
      (before.spawn (start call)) := by
  cases call with
  | push item => exact resting.push_arrives item
  | tryPush item => exact resting.tryPush_arrives item
  | pop => exact resting.pop_arrives false
  | popFor => exact resting.pop_arrives true
  | tryPop => exact resting.tryPop_arrives
  | close => exact resting.close_arrives

/-- A timed pop on an open empty queue stands at the end of the line, and the end of its
wait leaves the others as they were. -/
theorem popFor_expires (resting : Resting fifo before) (isOpen : fifo.closed = false)
    (empty : fifo.items = []) {parked : World (Queue α) (Point α)}
    (settles : (before.spawn (start .popFor)).Settles (machine α) parked) :
    parked.expire? (machine α) before.threads.length = some (before.spawn .tryPop) := by
  obtain rfl := resting.pop_joins true isOpen empty parked settles
  have outside := resting.newcomer_pops
  have withdrawn : (lined before).fullSlots.withdraw? before.threads.length =
      some before.shared.fullSlots := by
    simp [Semaphore.withdraw?, lined, List.erase_append_right _ outside]
  have expired : expire before.threads.length (.popWait true) (lined before) =
      some (.tryPop, before.shared) := by
    rw [expire, withdrawn]
    rfl
  rw [World.expire?, found_new, Option.bind_some]
  simp [machine, expired, World.put, World.spawn]

theorem popFor_returns (resting : Resting fifo before)
    (goes : fifo.items ≠ [] ∨ fifo.closed = true) {parked : World (Queue α) (Point α)}
    (settles : (before.spawn (start .popFor)).Settles (machine α) parked) :
    parked.expire? (machine α) before.threads.length = none := by
  obtain ⟨_, point, answered, threads, _⟩ := resting.call_arrives .popFor parked settles
  have found : parked.threads[before.threads.length]? = some point := by
    rw [threads, List.getElem?_append_right (by simp [World.length_settled]),
      World.length_settled, Nat.sub_self]
    rfl
  have some : (fifo.handle (.call .popFor)).answer.isSome := by
    simp only [Fifo.handle, Fifo.pop]
    cases items : fifo.items with
    | nil => simp [goes.resolve_left (not_not.mpr items)]
    | cons item rest =>
        simp only [Fifo.emit]
        cases fifo.pushers <;> rfl
  rw [← answered] at some
  cases point with
  | done answer => simp [World.expire?, found, machine, expire]
  | _ => cases some

theorem handle_popFor (goes : fifo.items ≠ [] ∨ fifo.closed = true) :
    fifo.handle (.call .popFor) = fifo.handle .popBriefly := by
  simp only [Fifo.handle, Fifo.pop, Fifo.tryPop]
  cases items : fifo.items with
  | nil => simp [goes.resolve_left (not_not.mpr items)]
  | cons item rest => rfl

theorem brief_or_goes (fifo : Fifo α) :
    (fifo.closed = false ∧ fifo.items = []) ∨ (fifo.items ≠ [] ∨ fifo.closed = true) := by
  cases fifo.closed <;> by_cases empty : fifo.items = [] <;> simp [empty]

theorem served_yields (resting : Resting fifo before) (served : Served before request last) :
    Yields before (fifo.serve request) last := by
  have counted : ∀ call, Counted before.shared (before.threads ++ [start call]) :=
    resting.counted.spawn
  cases served with
  | call call settles =>
      exact resting.serve_yields (resting.call_arrives call) (counted call) settles
  | inTime settles returned =>
      rcases brief_or_goes fifo with ⟨isOpen, empty⟩ | goes
      · rw [resting.popFor_expires isOpen empty settles] at returned
        cases returned
      · refine resting.serve_yields ?_ (counted .popFor) settles
        rw [← handle_popFor goes]
        exact resting.call_arrives .popFor
  | expired settles expired again =>
      rcases brief_or_goes fifo with ⟨isOpen, empty⟩ | goes
      · rw [resting.popFor_expires isOpen empty settles] at expired
        cases expired
        exact resting.serve_yields resting.tryPop_arrives (counted .tryPop) again
      · rw [resting.popFor_returns goes settles] at expired
        cases expired

theorem perform_served (resting : Resting fifo before) (request : Request α) :
    Served before request (request.perform before).1 := by
  cases request with
  | call call =>
      rw [Request.perform, World.issue_fst]
      exact .call call (settle_settles (resting.counted.spawn call))
  | popBriefly =>
      have settles : (before.spawn (start .popFor)).Settles (machine α)
          ((before.spawn (start .popFor)).settle (machine α)) :=
        settle_settles (resting.counted.spawn .popFor)
      rw [Request.perform, World.issueBriefly_fst]
      generalize (before.spawn (start .popFor)).settle (machine α) = parked at settles ⊢
      rcases brief_or_goes fifo with ⟨isOpen, empty⟩ | goes
      · have expired := resting.popFor_expires isOpen empty settles
        rw [expired, Option.map_some, Option.getD_some]
        exact .expired settles expired (settle_settles (resting.counted.spawn .tryPop))
      · have returned := resting.popFor_returns goes settles
        rw [returned, Option.map_none, Option.getD_none]
        exact .inTime settles returned

theorem opened {capacity : Nat} {queue : Queue α} (made : ofCapacity capacity = .ok queue) :
    Resting (.opened capacity) ⟨queue, []⟩ := by
  obtain ⟨idle, empty⟩ := Balanced.ofCapacity made
  have counted := Counted.start made
  obtain ⟨_, _, rfl⟩ := eq_of_made made
  refine ⟨counted, ⟨idle, empty, rfl, Ring.capacity_ofCapacity capacity, rfl, rfl⟩, rfl, ?_⟩
  intro me point found
  cases found

theorem servedAll (resting : Resting fifo before) (served : ServedAll before requests last) :
    Resting (fifo.serveAll requests) last := by
  induction served with
  | none => exact resting
  | next earlier served ih =>
      rw [Fifo.serveAll, List.foldl_append]
      exact (ih.served_yields served).resting

end Resting

/-- After any requests, and in whatever order the callers acted on them, what is read off
the queue is what the bounded list shows, and of any request that follows: in whatever
order the callers act on it, its answer, the callers that it releases with their answers,
the callers that wait after it and what is then read off the queue are those of the
bounded list. The schedule that is run is such an order, and it comes to its end. -/
theorem refines_bounded_fifo (capacity : Nat) (queue : Queue α)
    (made : ofCapacity capacity = .ok queue) (requests : List (Request α))
    (world : World (Queue α) (Point α)) (served : ServedAll ⟨queue, []⟩ requests world) :
    snapshot world = ((Fifo.opened capacity).serveAll requests).snapshot ∧
    ∀ request : Request α,
      (∀ last, Served world request last →
        Agrees (((Fifo.opened capacity).serveAll requests).serve request)
          (world.report (machine α) last world.threads.length) last) ∧
      Served world request (request.perform world).1 ∧
      Agrees (((Fifo.opened capacity).serveAll requests).serve request)
        (request.perform world).2 (request.perform world).1 := by
  have resting := (Resting.opened made).servedAll served
  refine ⟨resting.snapshot_eq, fun request => ?_⟩
  have agrees : ∀ last, Served world request last →
      Agrees (((Fifo.opened capacity).serveAll requests).serve request)
        (world.report (machine α) last world.threads.length) last :=
    fun last served => (resting.served_yields served).agrees
  have performed := resting.perform_served request
  have reported : (request.perform world).2 =
      world.report (machine α) (request.perform world).1 world.threads.length := by
    cases request <;> rfl
  refine ⟨agrees, performed, ?_⟩
  rw [reported]
  exact agrees _ performed

def narrow : Queue Nat := ⟨.ofCapacity 1, false, .ofPermits 1, .empty⟩

/-- Its slot is taken, and a second pusher waits. -/
def squeezed : World (Queue Nat) (Point Nat) :=
  (Request.perform (.call (.push 8)) (Request.perform (.call (.push 7)) ⟨narrow, []⟩).1).1

private theorem served_to_squeezed :
    ServedAll ⟨narrow, []⟩ [.call (.push 7), .call (.push 8)] squeezed := by
  have resting : Resting (.opened 1) ⟨narrow, []⟩ := .opened rfl
  have first : ServedAll _ ([] ++ [.call (.push 7)]) _ :=
    .next .none (resting.perform_served (.call (.push 7)))
  exact .next first ((resting.servedAll first).perform_served (.call (.push 8)))

theorem squeezed_lets_the_pusher_in :
    ((Request.call .pop).perform squeezed).2.answer = some (.pop (.item 7)) ∧
      ((Request.call .pop).perform squeezed).2.released.Perm [(1, .push .stored)] ∧
      ((Request.call .pop).perform squeezed).2.waiting.Perm [] := by
  obtain ⟨_, refines⟩ := refines_bounded_fifo 1 narrow rfl _ squeezed served_to_squeezed
  obtain ⟨_, _, answer, released, waiting, _⟩ := refines (.call .pop)
  exact ⟨answer, released, waiting⟩

end Turnstile.Queue
