import Turnstile.Proofs.Queue.Serving
import Turnstile.Proofs.Report

/-!
# A queue between two calls

Between two calls everybody has returned or stands in a line, and `Resting` says that
the queue then looks like a `Fifo` and that its lines are the lines of the `Fifo`. A
line for slots stands beside a full list only, a line for items beside an empty one, and
neither beside a closed queue. `Yields` says what a request has to come to.
-/

namespace Turnstile.Queue

set_option autoImplicit false

open World (total)

variable {α : Type} {fifo : Fifo α} {outcome : Outcome α} {queue : Queue α}
  {callers : List (Point α)} {before start last : World (Queue α) (Point α)}
  {me : ThreadId} {item : α} {point : Point α}

/-- A caller has returned, or stands where its line says. -/
inductive Seated (fifo : Fifo α) (me : ThreadId) : Point α → Prop where
  | done (answer : Answer α) : Seated fifo me (.done answer)
  | pusher {item : α} (member : (me, item) ∈ fifo.pushers) : Seated fifo me (.pushWait item)
  | popper (timed : Bool) (member : me ∈ fifo.poppers) : Seated fifo me (.popWait timed)

theorem Seated.still (seated : Seated fifo me point) (shows : Shows fifo queue) :
    act me point queue = none := by
  cases seated with
  | done answer => rfl
  | @pusher item member =>
      have listed : me ∈ queue.openSlots.line :=
        shows.pushers ▸ List.mem_map_of_mem (f := Prod.fst) member
      simp [act, Semaphore.wait_asleep_iff.mpr listed]
  | popper timed member =>
      have listed : me ∈ queue.fullSlots.line := shows.poppers ▸ member
      simp [act, Semaphore.wait_asleep_iff.mpr listed]

theorem quiet_of_seated (shows : Shows fifo queue)
    (seated : ∀ me point, callers[me]? = some point → Seated fifo me point) :
    World.Quiet (machine α) ⟨queue, callers⟩ :=
  World.quiet_of_still fun me point found => (seated me point found).still shows

theorem alone_of_seated (shows : Shows fifo queue)
    (seated : ∀ other point, other ≠ me → callers[other]? = some point →
      Seated fifo other point) : Alone me ⟨queue, callers⟩ :=
  World.Alone.of_still fun other point different found =>
    (seated other point different found).still shows

/-- Everybody has returned or waits in line. -/
structure Resting (fifo : Fifo α) (world : World (Queue α) (Point α)) : Prop where
  counted : Counted world.shared world.threads
  shows : Shows fifo world.shared
  calls : world.threads.length = fifo.calls
  seated : ∀ me point, world.threads[me]? = some point → Seated fifo me point

namespace Resting

theorem quiet (resting : Resting fifo before) : before.Quiet (machine α) :=
  quiet_of_seated resting.shows resting.seated

theorem pushers_nodup (resting : Resting fifo before) : (fifo.pushers.map Prod.fst).Nodup :=
  resting.shows.pushers ▸ resting.counted.pushers.distinct

theorem poppers_nodup (resting : Resting fifo before) : fifo.poppers.Nodup :=
  resting.shows.poppers ▸ resting.counted.poppers.distinct

theorem pusher_at (resting : Resting fifo before) (member : (me, item) ∈ fifo.pushers) :
    before.threads[me]? = some (.pushWait item) := by
  have listed : me ∈ before.shared.openSlots.line :=
    resting.shows.pushers ▸ List.mem_map_of_mem (f := Prod.fst) member
  obtain ⟨point, found, awaits⟩ := resting.counted.pushers.asleep me listed
  cases resting.seated me point found with
  | done | popper => cases awaits
  | @pusher other there =>
      have same := List.inj_on_of_nodup_map resting.pushers_nodup there member rfl
      cases same
      exact found

theorem popper_at (resting : Resting fifo before) (member : me ∈ fifo.poppers) :
    ∃ timed, before.threads[me]? = some (.popWait timed) := by
  have listed : me ∈ before.shared.fullSlots.line := resting.shows.poppers ▸ member
  obtain ⟨point, found, awaits⟩ := resting.counted.poppers.asleep me listed
  cases resting.seated me point found with
  | done | pusher => cases awaits
  | popper timed _ => exact ⟨timed, found⟩

theorem waiting_nodup (resting : Resting fifo before) : fifo.waiting.Nodup := by
  refine List.nodup_append.mpr ⟨resting.pushers_nodup, resting.poppers_nodup, ?_⟩
  rintro me pusher other popper rfl
  obtain ⟨⟨who, item⟩, member, same⟩ := List.mem_map.mp pusher
  obtain rfl : who = me := same
  obtain ⟨timed, found⟩ := resting.popper_at popper
  rw [resting.pusher_at member] at found
  cases found

theorem mem_waiting_iff (resting : Resting fifo before) : me ∈ fifo.waiting ↔
    ∃ point, before.threads[me]? = some point ∧ answer? point = none := by
  simp only [Fifo.waiting, List.mem_append, List.mem_map, Prod.exists, exists_and_right,
    exists_eq_right]
  constructor
  · rintro (⟨item, member⟩ | member)
    · exact ⟨_, resting.pusher_at member, rfl⟩
    · obtain ⟨timed, found⟩ := resting.popper_at member
      exact ⟨_, found, rfl⟩
  · rintro ⟨point, found, waits⟩
    cases resting.seated me point found with
    | done => cases waits
    | pusher member => exact .inl ⟨_, member⟩
    | popper timed member => exact .inr member

theorem full_of_pusher (resting : Resting fifo before) (member : (me, item) ∈ fifo.pushers) :
    fifo.closed = false ∧ fifo.items.length = fifo.capacity := by
  obtain ⟨_, isOpen, full⟩ :=
    resting.counted.full_of_parked resting.quiet (resting.pusher_at member)
  rw [resting.shows.closed] at isOpen
  rw [resting.shows.items, resting.shows.capacity] at full
  exact ⟨isOpen, full⟩

theorem empty_of_popper (resting : Resting fifo before) (member : me ∈ fifo.poppers) :
    fifo.closed = false ∧ fifo.items = [] := by
  obtain ⟨timed, found⟩ := resting.popper_at member
  obtain ⟨_, isOpen, empty⟩ := resting.counted.empty_of_parked resting.quiet found
  rw [resting.shows.closed] at isOpen
  rw [resting.shows.items] at empty
  exact ⟨isOpen, empty⟩

theorem pushers_of_room (resting : Resting fifo before)
    (room : fifo.items.length < fifo.capacity) : fifo.pushers = [] := by
  cases pushers : fifo.pushers with
  | nil => rfl
  | cons first _ =>
      have full := (resting.full_of_pusher (pushers ▸ List.mem_cons_self)).2
      omega

theorem pushers_of_closed (resting : Resting fifo before) (closed : fifo.closed = true) :
    fifo.pushers = [] := by
  cases pushers : fifo.pushers with
  | nil => rfl
  | cons first _ =>
      have isOpen := (resting.full_of_pusher (pushers ▸ List.mem_cons_self)).1
      rw [closed] at isOpen
      cases isOpen

theorem poppers_of_some (resting : Resting fifo before) (some : fifo.items ≠ []) :
    fifo.poppers = [] := by
  cases poppers : fifo.poppers with
  | nil => rfl
  | cons first _ =>
      exact absurd (resting.empty_of_popper (poppers ▸ List.mem_cons_self)).2 some

theorem poppers_of_closed (resting : Resting fifo before) (closed : fifo.closed = true) :
    fifo.poppers = [] := by
  cases poppers : fifo.poppers with
  | nil => rfl
  | cons first _ =>
      have isOpen := (resting.empty_of_popper (poppers ▸ List.mem_cons_self)).1
      rw [closed] at isOpen
      cases isOpen

theorem alone (resting : Resting fifo before) (point : Point α) :
    Alone before.threads.length ⟨before.shared, before.threads ++ [point]⟩ :=
  World.Alone.newest (fun other there found => (resting.seated other there found).still resting.shows)
    point

end Resting

/-- What a request releases has waited, and everybody else goes on to wait. -/
structure Follows (fifo : Fifo α) (outcome : Outcome α) : Prop where
  waited : ∀ me answer, (me, answer) ∈ outcome.released → me ∈ fifo.waiting
  once : (outcome.released.map Prod.fst).Nodup
  pushers : ∀ me item, (me, item) ∈ fifo.pushers → me ∉ outcome.released.map Prod.fst →
    (me, item) ∈ outcome.fifo.pushers
  poppers : ∀ me, me ∈ fifo.poppers → me ∉ outcome.released.map Prod.fst →
    me ∈ outcome.fifo.poppers

structure Yields (before : World (Queue α) (Point α)) (outcome : Outcome α)
    (last : World (Queue α) (Point α)) : Prop where
  resting : Resting outcome.fifo last
  ends : World.Ends (machine α) outcome.released outcome.answer before last

structure Arrives (before : World (Queue α) (Point α)) (outcome : Outcome α)
    (last : World (Queue α) (Point α)) : Prop where
  shows : Shows outcome.fifo last.shared
  threads : ∃ point, answer? point = outcome.answer ∧
    last.threads = World.settled .done outcome.released before.threads ++ [point] ∧
      Seated outcome.fifo before.threads.length point

theorem Resting.seated_of_threads (resting : Resting fifo before) (follows : Follows fifo outcome)
    (threads : callers = World.settled .done outcome.released before.threads ++ [point])
    (seat : Seated outcome.fifo before.threads.length point) :
    ∀ me there, callers[me]? = some there → Seated outcome.fifo me there := by
  intro me there found
  rw [threads] at found
  rcases World.found_or_last_of_append found with earlier | ⟨newest, rfl⟩
  · obtain ⟨within, _⟩ := List.getElem?_eq_some_iff.mp earlier
    rw [World.length_settled] at within
    have old := List.getElem?_eq_getElem within
    by_cases member : me ∈ outcome.released.map Prod.fst
    · obtain ⟨⟨who, answer⟩, listed, same⟩ := List.mem_map.mp member
      obtain rfl : who = me := same
      rw [World.found_settled_of_released follows.once listed old] at earlier
      cases earlier
      exact .done answer
    · rw [World.found_settled_of_not_released member] at earlier
      cases resting.seated me there earlier with
      | done answer => exact .done answer
      | pusher listed => exact .pusher (follows.pushers me _ listed member)
      | popper timed listed => exact .popper timed (follows.poppers me listed member)
  · rw [newest, World.length_settled]
    exact seat

theorem Resting.yields (resting : Resting fifo before) (follows : Follows fifo outcome)
    (calls : outcome.fifo.calls = fifo.calls + 1) (arrives : Arrives before outcome last)
    (counted : Counted last.shared last.threads) : Yields before outcome last := by
  obtain ⟨shows, point, answered, threads, seat⟩ := arrives
  have ends : World.Ends (machine α) outcome.released (answer? point) before last := by
    refine .of_threads (fun _ => rfl) threads ?_ follows.once
    intro me answer member
    exact resting.mem_waiting_iff.mp (follows.waited me answer member)
  refine ⟨⟨counted, shows, ?_, resting.seated_of_threads follows threads seat⟩, answered ▸ ends⟩
  rw [ends.length, resting.calls, calls]

theorem Resting.arrived_quiet (resting : Resting fifo before) (follows : Follows fifo outcome)
    (shows : Shows outcome.fifo queue)
    (threads : callers = World.settled .done outcome.released before.threads ++ [point])
    (seat : Seated outcome.fifo before.threads.length point) :
    World.Quiet (machine α) ⟨queue, callers⟩ :=
  quiet_of_seated shows (resting.seated_of_threads follows threads seat)

theorem Resting.arrived (resting : Resting fifo before) (follows : Follows fifo outcome)
    (shows : Shows outcome.fifo queue)
    (threads : callers = World.settled .done outcome.released before.threads ++ [point])
    (answered : answer? point = outcome.answer)
    (seat : Seated outcome.fifo before.threads.length point) :
    World.Surely (machine α) (Arrives before outcome) ⟨queue, callers⟩ :=
  .of_quiet (resting.arrived_quiet follows shows threads seat)
    ⟨shows, point, answered, threads, seat⟩

end Turnstile.Queue
