import Mathlib.Logic.Relation
import Turnstile.Proofs.Pool.Turns

/-!
# The service of workers that may die

What holds in every run of a pool, whatever the bodies throw: each worker has a queue
and a fate, and one that has left found its queue closed and empty; no line of a queue
stands beside a permit; a submission waits at a queue that there is; and a closer has
closed every queue that it has passed. A queue that was closed stays closed, and empty
if it is, also when the pool is taken down over the jobs of a worker that has died.
-/

namespace Turnstile.Pool

set_option autoImplicit false

open Turnstile.Task (Ticket Job)

variable {α : Type} {me : ThreadId} {pool later : Pool α} {queue after : Queue (Job α)}
  {fate : Fate} {threads : List (Point α)}

/-- What a worker that has come so far has seen of its own queue, and its fate. -/
def Serves (queue : Queue (Job α)) (fate : Fate) : Worker α → Prop
  | .checkEmpty => fate = .alive ∧ queue.closed = true
  | .leave => fate = .alive ∧ queue.closed = true ∧ queue.toList = []
  | .gone => fate = .died ∨ fate = .left ∧ queue.closed = true ∧ queue.toList = []
  | _ => fate = .alive

namespace Serves

variable {worker : Worker α}

theorem lasting (serves : Serves queue fate worker) (lasting : queue.Lasting after) :
    Serves after fate worker := by
  cases worker with
  | checkEmpty => exact ⟨serves.1, lasting.closed serves.2⟩
  | leave => exact ⟨serves.1, lasting.closed serves.2.1, lasting.empty serves.2.1 serves.2.2⟩
  | gone =>
      refine serves.imp id ?_
      rintro ⟨left, closed, empty⟩
      exact ⟨left, lasting.closed closed, lasting.empty closed empty⟩
  | _ => exact serves

theorem alive (serves : Serves queue fate worker) (here : worker ≠ .gone) : fate = .alive := by
  cases worker with
  | checkEmpty | leave => exact serves.1
  | gone => exact absurd rfl here
  | _ => exact serves

theorem of_engaged (engaged : worker.Engaged) (alive : fate = .alive) :
    Serves queue fate worker := by
  cases worker with
  | checkEmpty | leave | gone => cases engaged
  | _ => exact alive

end Serves

def Closing.Shut (queues : List (Queue (Job α))) : Closing → Prop
  | .begin => True
  | .close index => ∀ (other : Nat) (queue : Queue (Job α)), other < index →
      queues[other]? = some queue → queue.closed = true
  | .await _ | .report | .dismantle | .done => ∀ queue ∈ queues, queue.closed = true

/-- Each queue that is closed stays closed, and empty if it is. -/
structure Lasting (pool later : Pool α) : Prop where
  length : later.queues.length = pool.queues.length
  queues : ∀ (index : Nat) (queue : Queue (Job α)), pool.queues[index]? = some queue →
    ∃ after, later.queues[index]? = some after ∧ queue.Lasting after

namespace Lasting

theorem of_eq (same : later.queues = pool.queues) : Lasting pool later := by
  refine ⟨congrArg List.length same, ?_⟩
  intro index queue found
  exact ⟨queue, same ▸ found, id, fun _ => id⟩

theorem of_set {index : Nat} (found : pool.queues[index]? = some queue)
    (lasting : queue.Lasting after) (changed : later.queues = pool.queues.set index after) :
    Lasting pool later := by
  refine ⟨by rw [changed, List.length_set], ?_⟩
  intro other before foundOther
  by_cases same : index = other
  · subst same
    rw [found] at foundOther
    cases foundOther
    exact ⟨after, changed ▸ World.found_set found, lasting⟩
  · refine ⟨before, ?_, id, fun _ => id⟩
    rw [changed, List.getElem?_set_ne same]
    exact foundOther

theorem closed (lasting : Lasting pool later) {index : Nat}
    (before : ∀ queue, pool.queues[index]? = some queue → queue.closed = true)
    (found : later.queues[index]? = some after) : after.closed = true := by
  obtain ⟨bound, _⟩ := List.getElem?_eq_some_iff.mp found
  rw [lasting.length] at bound
  have foundBefore := List.getElem?_eq_getElem bound
  obtain ⟨same, foundAfter, step⟩ := lasting.queues index _ foundBefore
  rw [found] at foundAfter
  cases foundAfter
  exact step.closed (before _ foundBefore)

theorem all_closed (lasting : Lasting pool later)
    (before : ∀ queue ∈ pool.queues, queue.closed = true) :
    ∀ queue ∈ later.queues, queue.closed = true := by
  intro after member
  obtain ⟨index, found⟩ := List.mem_iff_getElem?.mp member
  exact lasting.closed (fun queue foundBefore =>
    before queue (List.mem_of_getElem? foundBefore)) found

end Lasting

theorem Closing.Shut.lasting {closing : Closing} (shut : closing.Shut pool.queues)
    (lasting : Lasting pool later) : closing.Shut later.queues := by
  cases closing with
  | begin => exact trivial
  | close index =>
      intro other queue before found
      exact lasting.closed (fun queue => shut other queue before) found
  | await _ | report | dismantle | done => exact lasting.all_closed shut

/-- Nobody is parked beside a permit of any queue. -/
def Tidy (threads : List (Point α)) (pool : Pool α) : Prop :=
  ∀ (index : Nat) (queue : Queue (Job α)), pool.queues[index]? = some queue →
    Queue.Tended Point.awaits? threads index queue

section Turn

variable {old new : Point α} {before next : Option Nat}

theorem Tidy.sound (tidy : Tidy threads pool) {index : Nat}
    (found : pool.queues[index]? = some queue) : queue.Sound :=
  (tidy index queue found).sound

theorem Tidy.aside (tidy : Tidy threads pool) (found : threads[me]? = some old)
    (apart : old.awaits? = none) (queues : later.queues = pool.queues) :
    Tidy (threads.set me new) later := by
  intro index queue foundQueue
  rw [queues] at foundQueue
  refine (tidy index queue foundQueue).set found ?_
  intro waits
  rw [apart] at waits
  cases waits

theorem Dealing.tidy (dealing : Dealing me pool before next later) (tidy : Tidy threads pool)
    (found : threads[me]? = some old) (waited : old.awaits? = before)
    (waits : new.awaits? = next) : Tidy (threads.set me new) later := by
  cases dealing with
  | aside queues fates seated => exact tidy.aside found waited queues
  | @visit index queue visited _ _ _ foundQueue visit queues fates =>
      subst waited waits
      intro other after foundOther
      rw [queues] at foundOther
      by_cases same : index = other
      · subst same
        rw [World.found_set foundQueue] at foundOther
        cases foundOther
        exact (tidy index queue foundQueue).visit found visit
      · rw [List.getElem?_set_ne same] at foundOther
        refine (tidy other after foundOther).set found ?_
        intro elsewhere
        exact absurd (visit.index_of_waits elsewhere).symm same

theorem Dealing.lasting (dealing : Dealing me pool before next later) (tidy : Tidy threads pool) :
    Lasting pool later := by
  cases dealing with
  | aside queues fates seated => exact .of_eq queues
  | visit found visit queues fates =>
      exact .of_set found ((tidy.sound found).visit visit).2 queues

theorem Dealing.seated (dealing : Dealing me pool before next later) {index : Nat}
    (waits : next = some index) : index < pool.queues.length := by
  cases dealing with
  | aside queues fates seated => exact seated index waits
  | visit found visit queues fates =>
      obtain rfl := visit.index_of_goes_on waits
      exact (List.getElem?_eq_some_iff.mp found).1

theorem Closing.Change.lasting {old new : Closing} (change : Change pool old new later)
    (tidy : Tidy threads pool) (shut : old.Shut pool.queues) : Lasting pool later := by
  cases change with
  | @shut index queue found =>
      have visit : Queue.Visit 0 index queue none none queue.close := .close
      exact .of_set found ((tidy.sound found).visit visit).2 rfl
  | dismantle =>
      refine ⟨List.length_map _, ?_⟩
      intro index queue found
      have spent := (tidy.sound found).clear (shut queue (List.mem_of_getElem? found))
      refine ⟨queue.clear, ?_, fun _ => spent.closed, fun _ _ => spent.empty.toList_eq⟩
      rw [Pool.dismantle, List.getElem?_map, found]
      rfl
  | _ => exact .of_eq rfl

theorem Closing.Change.tidy {old new : Closing} (change : Change pool old new later)
    (tidy : Tidy threads pool) (found : threads[me]? = some (.closing old))
    (shut : old.Shut pool.queues) : Tidy (threads.set me (.closing new)) later := by
  cases change with
  | shut foundQueue =>
      have dealing : Dealing me pool none none (pool.setQueue _ _) :=
        .visit foundQueue .close rfl rfl
      exact dealing.tidy tidy found rfl rfl
  | dismantle =>
      intro index after foundAfter
      rw [Pool.dismantle, List.getElem?_map, Option.map_eq_some_iff] at foundAfter
      obtain ⟨queue, foundQueue, rfl⟩ := foundAfter
      have closed := shut queue (List.mem_of_getElem? foundQueue)
      exact ((tidy index queue foundQueue).set found fun waits => by cases waits).clear closed
  | _ => exact tidy.aside found rfl rfl

theorem Closing.shut_of_act {closing next : Closing} (shut : closing.Shut pool.queues)
    (acted : closing.act pool = some (next, later)) (lasting : Lasting pool later) :
    next.Shut later.queues := by
  cases closing with
  | begin =>
      cases acted
      intro other queue before
      cases before
  | close index =>
      simp only [act] at acted
      split at acted
      · next queue found =>
        cases acted
        intro other after before foundAfter
        rcases Nat.lt_succ_iff_lt_or_eq.mp before with before | rfl
        · exact lasting.closed (fun queue => shut other queue before) foundAfter
        · rw [setQueue, World.found_set found] at foundAfter
          cases foundAfter
          exact queue.closed_close
      · next beyond =>
        cases acted
        intro queue member
        obtain ⟨other, found⟩ := List.mem_iff_getElem?.mp member
        obtain ⟨bound, _⟩ := List.getElem?_eq_some_iff.mp found
        exact shut other queue (Nat.lt_of_lt_of_le bound (List.getElem?_eq_none_iff.mp beyond)) found
  | await worker =>
      have kept := lasting.all_closed shut
      simp only [act] at acted
      split at acted <;> cases acted <;> exact kept
  | report | dismantle =>
      have kept := lasting.all_closed shut
      cases acted
      exact kept
  | done => cases acted

theorem Point.Turn.lasting (turn : Point.Turn me pool old new later) (tidy : Tidy threads pool)
    (shut : ∀ closing, old = .closing closing → closing.Shut pool.queues) :
    Lasting pool later := by
  cases turn with
  | worker turn =>
      cases turn with
      | deal before engaged dealing => exact dealing.lasting tidy
      | leave queues fates => exact .of_eq queues
      | perish ticket queues fates => exact .of_eq queues
      | findClosed | findEmpty => exact .of_eq rfl
  | submission dealing => exact dealing.lasting tidy
  | inquiry dealing => exact dealing.lasting tidy
  | closing acted => exact (Closing.change_of_act acted).lasting tidy (shut _ rfl)

theorem Point.Turn.tidy (turn : Point.Turn me pool old new later) (tidy : Tidy threads pool)
    (found : threads[me]? = some old)
    (shut : ∀ closing, old = .closing closing → closing.Shut pool.queues) :
    Tidy (threads.set me new) later := by
  cases turn with
  | worker turn =>
      cases turn with
      | deal before engaged dealing => exact dealing.tidy tidy found rfl rfl
      | leave queues fates => exact tidy.aside found rfl queues
      | perish ticket queues fates => exact tidy.aside found rfl queues
      | findClosed | findEmpty => exact tidy.aside found rfl rfl
  | submission dealing => exact dealing.tidy tidy found rfl rfl
  | inquiry dealing => exact dealing.tidy tidy found rfl rfl
  | closing acted => exact (Closing.change_of_act acted).tidy tidy found (shut _ rfl)

theorem Point.Turn.seated (turn : Point.Turn me pool old new later) {index : Nat}
    (waits : new.awaits? = some index) : index < pool.queues.length := by
  cases turn with
  | worker turn =>
      cases turn with
      | deal before engaged dealing => exact dealing.seated waits
      | _ => cases waits
  | submission dealing => exact dealing.seated waits
  | inquiry dealing => cases waits
  | closing acted => cases waits

theorem Dealing.fates_eq (dealing : Dealing me pool before next later) :
    later.fates = pool.fates := by
  cases dealing with
  | aside queues fates seated => exact fates
  | visit found visit queues fates => exact fates

theorem Point.Turn.fates_eq (turn : Point.Turn me pool old new later) :
    later.fates = pool.fates ∨ ∃ fate, later.fates = pool.fates.set me fate := by
  cases turn with
  | worker turn =>
      cases turn with
      | deal before engaged dealing => exact .inl dealing.fates_eq
      | leave queues fates => exact .inr ⟨.left, fates⟩
      | perish ticket queues fates => exact .inr ⟨.died, fates⟩
      | findClosed | findEmpty => exact .inl rfl
  | submission dealing => exact .inl dealing.fates_eq
  | inquiry dealing => exact .inl dealing.fates_eq
  | closing acted => cases Closing.change_of_act acted <;> exact .inl rfl

theorem Worker.Turn.serves {old new : Worker α} (turn : Worker.Turn me pool old new later)
    (serves : Serves queue fate old) (sound : queue.Sound) (found : pool.queues[me]? = some queue)
    (foundFate : pool.fates[me]? = some fate) (lasting : Lasting pool later) :
    ∃ after fate, later.queues[me]? = some after ∧ later.fates[me]? = some fate ∧
      Serves after fate new := by
  obtain ⟨after, foundAfter, step⟩ := lasting.queues me queue found
  cases turn with
  | deal before engaged dealing =>
      exact ⟨after, fate, foundAfter, dealing.fates_eq ▸ foundFate,
        .of_engaged engaged (serves.alive before)⟩
  | findClosed foundQueue closed =>
      rw [found] at foundQueue
      cases foundQueue
      exact ⟨after, fate, foundAfter, foundFate, serves, step.closed closed⟩
  | findEmpty foundQueue empty =>
      rw [found] at foundQueue
      cases foundQueue
      exact ⟨after, fate, foundAfter, foundFate, serves.1, step.closed serves.2,
        step.empty serves.2 (sound.isEmpty_iff.mp empty)⟩
  | leave queues fates =>
      exact ⟨after, .left, foundAfter, fates ▸ World.found_set foundFate,
        .inr ⟨rfl, step.closed serves.2.1, step.empty serves.2.1 serves.2.2⟩⟩
  | perish ticket queues fates =>
      exact ⟨after, .died, foundAfter, fates ▸ World.found_set foundFate, .inl rfl⟩

end Turn

theorem Config.workers_pos {config : Config} (accepted : config.rejection? = none) : 0 < config.workers := by
  rw [rejection?, Option.or_eq_none_iff, Option.map_eq_none_iff] at accepted
  by_contra zero
  have flawed := accepted.1
  simp [flaw?, Nat.eq_zero_of_not_pos zero] at flawed

/-- The invariant of every run. -/
structure Upheld (config : Config) (world : Running α) : Prop where
  positive : 0 < config.workers
  queues : world.shared.queues.length = config.workers
  fates : world.shared.fates.length = config.workers
  hired : ∀ me < config.workers, ∃ worker, world.threads[me]? = some (.worker worker)
  serves : ∀ (me : ThreadId) (worker : Worker α), world.threads[me]? = some (.worker worker) →
    ∃ queue fate, world.shared.queues[me]? = some queue ∧
      world.shared.fates[me]? = some fate ∧ Serves queue fate worker
  tidy : Tidy world.threads world.shared
  seated : ∀ (me : ThreadId) (point : Point α) (index : Nat), world.threads[me]? = some point →
    point.awaits? = some index → index < config.workers
  shut : ∀ (me : ThreadId) (closing : Closing), world.threads[me]? = some (.closing closing) →
    closing.Shut world.shared.queues

namespace Upheld

variable {config : Config} {world first last : Running α} {old new : Point α}

theorem start {first : Running α} (opened : start config = .ok first) : Upheld config first := by
  unfold Pool.start at opened
  split at opened
  · cases opened
  · next accepted =>
    split at opened
    · next queue made =>
      cases opened
      obtain ⟨idle, _⟩ := Queue.Balanced.ofCapacity made
      have starts : ∀ (me : ThreadId) (point : Point α),
          (List.replicate config.workers (Point.worker (Worker.start : Worker α)))[me]? =
            some point → point = .worker .start :=
        fun _ _ found => List.eq_of_mem_replicate (List.mem_of_getElem? found)
      refine ⟨Config.workers_pos accepted, List.length_replicate, List.length_replicate, ?_, ?_, ?_, ?_, ?_⟩
      · intro me hired
        exact ⟨.start, List.getElem?_replicate_of_lt hired⟩
      · intro me worker found
        cases starts me _ found
        obtain ⟨hired, _⟩ := List.getElem?_eq_some_iff.mp found
        rw [List.length_replicate] at hired
        exact ⟨queue, .alive, List.getElem?_replicate_of_lt hired,
          List.getElem?_replicate_of_lt hired, rfl⟩
      · intro index other found
        obtain rfl := List.eq_of_mem_replicate (List.mem_of_getElem? found)
        exact ⟨.inl idle, .ofCapacity made⟩
      · intro me point index found waits
        rw [starts me point found] at waits
        cases waits
      · intro me closing found
        cases starts me _ found
    · cases opened

theorem put (upheld : Upheld config world) (found : world.threads[me]? = some old)
    (turn : Point.Turn me world.shared old new later) :
    Upheld config (world.put me (new, later)) := by
  have shut : ∀ closing, old = .closing closing → closing.Shut world.shared.queues :=
    fun closing same => upheld.shut me closing (same ▸ found)
  have lasting := turn.lasting upheld.tidy shut
  have sameLength : later.fates.length = world.shared.fates.length := by
    rcases turn.fates_eq with same | ⟨fate, same⟩
    · rw [same]
    · rw [same, List.length_set]
  have sameFate : ∀ other, me ≠ other → later.fates[other]? = world.shared.fates[other]? := by
    intro other different
    rcases turn.fates_eq with same | ⟨fate, same⟩
    · rw [same]
    · rw [same, List.getElem?_set_ne different]
  refine ⟨upheld.positive, lasting.length.trans upheld.queues, sameLength.trans upheld.fates,
    ?_, ?_, turn.tidy upheld.tidy found shut, ?_, ?_⟩
  · intro other hired
    obtain ⟨worker, foundOther⟩ := upheld.hired other hired
    by_cases same : me = other
    · subst same
      rw [found] at foundOther
      cases foundOther
      cases turn with
      | worker turn => exact ⟨_, World.found_set found⟩
    · exact ⟨worker, by rwa [World.put, List.getElem?_set_ne same]⟩
  · intro other worker foundOther
    by_cases same : me = other
    · subst same
      rw [World.put, World.found_set found] at foundOther
      cases foundOther
      cases turn with
      | worker turn =>
          obtain ⟨queue, fate, foundQueue, foundFate, serves⟩ := upheld.serves me _ found
          exact turn.serves serves (upheld.tidy.sound foundQueue) foundQueue foundFate lasting
    · rw [World.put, List.getElem?_set_ne same] at foundOther
      obtain ⟨queue, fate, foundQueue, foundFate, serves⟩ := upheld.serves other worker foundOther
      obtain ⟨after, foundAfter, step⟩ := lasting.queues other queue foundQueue
      exact ⟨after, fate, foundAfter, (sameFate other same).trans foundFate, serves.lasting step⟩
  · intro other point index foundOther waits
    by_cases same : me = other
    · subst same
      rw [World.put, World.found_set found] at foundOther
      cases foundOther
      rw [← upheld.queues]
      exact turn.seated waits
    · rw [World.put, List.getElem?_set_ne same] at foundOther
      exact upheld.seated other point index foundOther waits
  · intro other closing foundOther
    by_cases same : me = other
    · subst same
      rw [World.put, World.found_set found] at foundOther
      cases foundOther
      cases turn with
      | closing acted => exact Closing.shut_of_act (shut _ rfl) acted lasting
    · rw [World.put, List.getElem?_set_ne same] at foundOther
      exact (upheld.shut other closing foundOther).lasting lasting

theorem call (upheld : Upheld config world) (made : Call α) :
    Upheld config (world.spawn (begin made)) := by
  refine ⟨upheld.positive, upheld.queues, upheld.fates, ?_, ?_, ?_, ?_, ?_⟩
  · intro me hired
    obtain ⟨worker, found⟩ := upheld.hired me hired
    exact ⟨worker, World.found_append found⟩
  · intro me worker found
    rcases World.found_or_eq_of_append found with found | same
    · exact upheld.serves me worker found
    · cases made <;> cases same
  · exact fun index queue found => (upheld.tidy index queue found).append (begin made)
  · intro me point index found waits
    rcases World.found_or_eq_of_append found with found | rfl
    · exact upheld.seated me point index found waits
    · cases made <;> cases waits
  · intro me closing found
    rcases World.found_or_eq_of_append found with found | same
    · exact upheld.shut me closing found
    · cases made with
      | close =>
          cases same
          exact trivial
      | _ => cases same

theorem step (upheld : Upheld config world) (step : Step world last) : Upheld config last := by
  have staffed : 0 < world.shared.queues.length := upheld.queues ▸ upheld.positive
  rcases step.cases_on_turn staffed with
    ⟨me, old, new, pool, found, turn, rfl⟩ | ⟨made, rfl⟩ | ⟨signal, rfl⟩
  · exact upheld.put found turn
  · exact upheld.call made
  · exact ⟨upheld.positive, upheld.queues, upheld.fates, upheld.hired, upheld.serves, upheld.tidy,
      upheld.seated, upheld.shut⟩

theorem run (upheld : Upheld config first) (run : Relation.ReflTransGen Step first last) :
    Upheld config last := by
  induction run with
  | refl => exact upheld
  | tail _ step ih => exact ih.step step

end Upheld

end Turnstile.Pool
