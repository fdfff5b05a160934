import Turnstile.Proofs.Pool.Ledger

/-!
# A worker leaves nothing behind

A worker leaves when it has found its queue closed and then found it empty.
Between the two moments a thief may take from the queue, but nothing is brought
to it any more, and so it stays empty for good. `Duty` says where a worker is with
this, and `Waited` which workers a closer has seen leave. When the closer has seen
all of them leave, every queue is closed and empty, and there is nothing to discard.
-/

namespace Turnstile.Pool

set_option autoImplicit false

open Turnstile.Task (Ticket Job)

variable {α : Type} {me : ThreadId} {pool later : Pool α} {queue after : Queue (Job α)} {fate : Fate}

/-- What a worker that has come so far has seen of its own queue, and its fate. -/
def Duty (queue : Queue (Job α)) (fate : Fate) : Worker α → Prop
  | .checkEmpty => fate = .alive ∧ queue.closed = true
  | .leave => fate = .alive ∧ queue.closed = true ∧ queue.toList = []
  | .gone => fate = .left ∧ queue.closed = true ∧ queue.toList = []
  | .perish _ => False
  | _ => fate = .alive

/-- The workers that a closer has seen leave. -/
def Closing.Waited (fates : List Fate) : Closing → Prop
  | .begin | .close _ => True
  | .await worker => ∀ other < worker, fates[other]? = some .left
  | .report | .dismantle | .done => ∀ fate ∈ fates, fate = .left

section Duty

variable {worker new : Worker α}

theorem Duty.onward (duty : Duty queue fate worker) (onward : queue.Onward after) :
    Duty after fate worker := by
  cases worker with
  | checkEmpty => exact ⟨duty.1, onward.closed duty.2⟩
  | leave => exact ⟨duty.1, onward.closed duty.2.1, onward.empty duty.2.1 duty.2.2⟩
  | gone => exact ⟨duty.1, onward.closed duty.2.1, onward.empty duty.2.1 duty.2.2⟩
  | _ => exact duty

theorem Duty.gone_of_left (duty : Duty queue .left worker) : worker = .gone := by
  cases worker with
  | gone => rfl
  | checkEmpty => cases duty.1
  | leave => cases duty.1
  | _ => cases duty

theorem Duty.not_died (duty : Duty queue .died worker) : False := by
  cases worker with
  | checkEmpty | leave | gone => cases duty.1
  | _ => cases duty

theorem Duty.of_roams (roams : worker.Roams) : Duty queue fate worker ↔ fate = .alive := by
  cases roams <;> rfl

theorem Duty.of_runs {ticket : Ticket} (runs : worker.runs? = some ticket) :
    Duty queue fate worker ↔ fate = .alive := by
  cases worker with
  | countTheft | run | post | deliver | countPanic | countRun => rfl
  | _ => cases runs

end Duty

theorem Submission.Change.fates {old new : Submission α} (change : Change pool old new later) :
    later.fates = pool.fates := by
  cases change with
  | issue fresh seeks queues fates issued journal => exact fates
  | seek seeks still quiet => exact quiet.fates
  | _ => rfl

theorem Point.Change.fates {old new : Point α} (change : Point.Change me pool old new later) :
    later.fates = pool.fates ∨
      (old = .worker .leave ∧ new = .worker .gone ∧ later.fates = pool.fates.set me .left) := by
  cases change with
  | worker change =>
      cases change with
      | leave => exact .inr ⟨rfl, rfl, rfl⟩
      | work runs still before after quiet => exact .inl quiet.fates
      | submit frame change => exact .inl change.fates
      | _ => exact .inl rfl
  | submission change => exact .inl change.fates
  | inquiry quiet => exact .inl quiet.fates
  | closing change => cases change <;> exact .inl rfl

theorem Submission.Change.onward {old new : Submission α} (change : Change pool old new later)
    (idle : pool.Idle) : Onward pool later := by
  cases change with
  | issue fresh seeks queues fates issued journal => exact .of_queues_eq idle queues
  | seek seeks still quiet => exact .of_queues_eq idle quiet.queues
  | retry seeks still found retains => exact .of_set idle found retains.onward rfl
  | store seeks found stores => exact .of_set idle found stores.onward rfl
  | turnAway seeks found retains => exact .of_set idle found retains.onward rfl
  | misaim | count => exact .of_queues_eq idle rfl

theorem Worker.Change.onward {old new : Worker α} (change : Change me pool old new later)
    (idle : pool.Idle) : Onward pool later := by
  cases change with
  | take roams runs quiet found loads => exact .of_set idle found loads.onward rfl
  | miss roams still found retains => exact .of_set idle found retains.onward rfl
  | work runs still before after quiet => exact .of_queues_eq idle quiet.queues
  | submit frame change => exact change.onward idle
  | _ => exact .of_queues_eq idle rfl

theorem Closing.Change.onward {old new : Closing} (change : Change pool old new later)
    (idle : pool.Idle)
    (settled : old = .dismantle → ∀ queue ∈ pool.queues, queue.toList = []) :
    Onward pool later := by
  cases change with
  | shut found => exact .of_set idle found (idle.of_found found).close.onward rfl
  | dismantle =>
      refine ⟨List.length_map _, ?_⟩
      intro index queue found
      have empty := settled rfl queue (List.mem_of_getElem? found)
      refine ⟨queue.clear, ?_, ((idle.of_found found).clear empty).onward⟩
      rw [Pool.dismantle, List.getElem?_map, found]
      rfl
  | _ => exact .of_queues_eq idle rfl

theorem Point.Change.onward {old new : Point α} (change : Point.Change me pool old new later)
    (idle : pool.Idle)
    (settled : old = .closing .dismantle → ∀ queue ∈ pool.queues, queue.toList = []) :
    Onward pool later := by
  cases change with
  | worker change => exact change.onward idle
  | submission change => exact change.onward idle
  | inquiry quiet => exact .of_queues_eq idle quiet.queues
  | closing change => exact change.onward idle fun same => settled (same ▸ rfl)

theorem Worker.Change.duty {old new : Worker α} (change : Change me pool old new later)
    (duty : Duty queue fate old) (found : pool.queues[me]? = some queue)
    (foundFate : pool.fates[me]? = some fate) (onward : Onward pool later) :
    ∃ after fate, later.queues[me]? = some after ∧ later.fates[me]? = some fate ∧
      Duty after fate new := by
  obtain ⟨after, foundAfter, step⟩ := onward.queues me queue found
  cases change with
  | start => exact ⟨after, fate, foundAfter, foundFate, duty⟩
  | take roams runs quiet foundQueue loads =>
      refine ⟨after, fate, foundAfter, foundFate, ?_⟩
      rw [Duty.of_runs runs]
      exact (Duty.of_roams roams).mp duty
  | miss roams still foundQueue retains =>
      refine ⟨after, fate, foundAfter, foundFate, ?_⟩
      rw [Duty.of_roams still]
      exact (Duty.of_roams roams).mp duty
  | resume before roams =>
      refine ⟨after, fate, foundAfter, foundFate, ?_⟩
      rw [Duty.of_roams roams]
      rcases before with before | rfl
      · exact (Duty.of_roams before).mp duty
      · exact duty.1
  | findClosed foundQueue closed =>
      rw [found] at foundQueue
      cases foundQueue
      exact ⟨after, fate, foundAfter, foundFate, duty, step.closed closed⟩
  | findEmpty foundQueue empty =>
      rw [found] at foundQueue
      cases foundQueue
      exact ⟨after, fate, foundAfter, foundFate, duty.1, step.closed duty.2,
        step.empty duty.2 empty⟩
  | work runs still before quietAfter quiet =>
      refine ⟨after, fate, foundAfter, quiet.fates ▸ foundFate, ?_⟩
      rw [Duty.of_runs still]
      exact (Duty.of_runs runs).mp duty
  | post frame rest fresh => exact ⟨after, fate, foundAfter, foundFate, duty⟩
  | submit frame change => exact ⟨after, fate, foundAfter, change.fates ▸ foundFate, duty⟩
  | finish ticket => exact ⟨after, fate, foundAfter, foundFate, duty⟩
  | leave =>
      exact ⟨after, .left, foundAfter, World.found_set foundFate, rfl, step.closed duty.2.1,
        step.empty duty.2.1 duty.2.2⟩

theorem Closing.Change.waited {old new : Closing} (change : Change pool old new later)
    (waited : old.Waited pool.fates) (living : ∀ worker : Nat, pool.fates[worker]? ≠ some .died) :
    new.Waited pool.fates := by
  cases change with
  | begin => exact trivial
  | shut found => exact trivial
  | await index =>
      intro other before
      cases before
  | @bury worker left =>
      intro other before
      rcases Nat.lt_succ_iff_lt_or_eq.mp before with before | rfl
      · exact waited other before
      · exact left
  | mourn died => exact absurd died (living _)
  | @report worker beyond =>
      intro fate member
      obtain ⟨other, found⟩ := List.mem_iff_getElem?.mp member
      obtain ⟨bound, _⟩ := List.getElem?_eq_some_iff.mp found
      have left := waited other (Nat.lt_of_lt_of_le bound (List.getElem?_eq_none_iff.mp beyond))
      rw [found] at left
      exact Option.some.inj left
  | stop => exact waited
  | dismantle => exact waited

theorem Closing.Waited.set {closing : Closing} {fates : List Fate} (waited : closing.Waited fates)
    (worker : Nat) : closing.Waited (fates.set worker .left) := by
  cases closing with
  | begin | close _ => exact trivial
  | await seen =>
      intro other before
      have left := waited other before
      by_cases same : worker = other
      · subst same
        exact World.found_set left
      · rw [List.getElem?_set_ne same]
        exact left
  | report | dismantle | done =>
      intro fate member
      rcases List.mem_or_eq_of_mem_set member with member | rfl
      · exact waited fate member
      · rfl

/-- Each worker has a thread, a queue and a fate, and keeps to its duty. -/
structure Staffed (config : Config) (world : Running α) : Prop where
  queues : world.shared.queues.length = config.workers
  fates : world.shared.fates.length = config.workers
  idle : world.shared.Idle
  hired : ∀ me < config.workers, ∃ worker, world.threads[me]? = some (.worker worker)
  duty : ∀ (me : ThreadId) (worker : Worker α), world.threads[me]? = some (.worker worker) →
    ∃ queue fate, world.shared.queues[me]? = some queue ∧
      world.shared.fates[me]? = some fate ∧ Duty queue fate worker
  waited : ∀ (me : ThreadId) (closing : Closing), world.threads[me]? = some (.closing closing) →
    closing.Waited world.shared.fates

namespace Staffed

variable {config : Config} {world : Running α} {old new : Point α}

theorem living (staffed : Staffed config world) (worker : Nat) :
    world.shared.fates[worker]? ≠ some .died := by
  intro died
  obtain ⟨bound, _⟩ := List.getElem?_eq_some_iff.mp died
  rw [staffed.fates] at bound
  obtain ⟨hand, found⟩ := staffed.hired worker bound
  obtain ⟨queue, fate, _, foundFate, duty⟩ := staffed.duty worker hand found
  rw [died] at foundFate
  cases foundFate
  exact duty.not_died

theorem alive (staffed : Staffed config world) (me : ThreadId) (ticket : Option Ticket) :
    world.threads[me]? ≠ some (.worker (.perish ticket)) := by
  intro found
  obtain ⟨_, _, _, _, duty⟩ := staffed.duty me _ found
  exact duty

theorem gone_of_left (staffed : Staffed config world)
    (left : ∀ fate ∈ world.shared.fates, fate = .left) (me : ThreadId) (hired : me < config.workers) :
    world.threads[me]? = some (.worker .gone) ∧ world.shared.fates[me]? = some .left ∧
      ∃ queue, world.shared.queues[me]? = some queue ∧ queue.closed = true ∧ queue.toList = [] := by
  obtain ⟨worker, found⟩ := staffed.hired me hired
  obtain ⟨queue, fate, foundQueue, foundFate, duty⟩ := staffed.duty me worker found
  obtain rfl := left fate (List.mem_of_getElem? foundFate)
  obtain rfl := duty.gone_of_left
  exact ⟨found, foundFate, queue, foundQueue, duty.2⟩

theorem empty_of_left (staffed : Staffed config world)
    (left : ∀ fate ∈ world.shared.fates, fate = .left) :
    ∀ queue ∈ world.shared.queues, queue.toList = [] := by
  intro queue member
  obtain ⟨me, found⟩ := List.mem_iff_getElem?.mp member
  obtain ⟨bound, _⟩ := List.getElem?_eq_some_iff.mp found
  obtain ⟨_, _, other, foundQueue, _, empty⟩ :=
    staffed.gone_of_left left me (staffed.queues ▸ bound)
  rw [found] at foundQueue
  cases foundQueue
  exact empty

theorem settled (staffed : Staffed config world) (found : world.threads[me]? = some old)
    (dismantles : old = .closing .dismantle) :
    ∀ queue ∈ world.shared.queues, queue.toList = [] := by
  subst dismantles
  exact staffed.empty_of_left (staffed.waited me .dismantle found)

theorem put (staffed : Staffed config world) (found : world.threads[me]? = some old)
    (change : Point.Change me world.shared old new later) :
    Staffed config (world.put me (new, later)) := by
  have onward := change.onward staffed.idle (staffed.settled found)
  have sameLength : later.fates.length = world.shared.fates.length := by
    rcases change.fates with same | ⟨_, _, same⟩
    · rw [same]
    · rw [same, List.length_set]
  have sameFate : ∀ other, me ≠ other → later.fates[other]? = world.shared.fates[other]? := by
    intro other different
    rcases change.fates with same | ⟨_, _, same⟩
    · rw [same]
    · rw [same, List.getElem?_set_ne different]
  have seen : ∀ closing : Closing, closing.Waited world.shared.fates →
      closing.Waited later.fates := by
    intro closing waited
    rcases change.fates with same | ⟨_, _, same⟩
    · rw [same]
      exact waited
    · rw [same]
      exact waited.set me
  refine ⟨onward.length.trans staffed.queues, sameLength.trans staffed.fates, onward.idle, ?_, ?_, ?_⟩
  · intro other hired
    obtain ⟨worker, foundOther⟩ := staffed.hired other hired
    by_cases same : me = other
    · subst same
      rw [found] at foundOther
      cases foundOther
      cases change with
      | worker change => exact ⟨_, World.found_set found⟩
    · exact ⟨worker, by rwa [World.put, List.getElem?_set_ne same]⟩
  · intro other worker foundOther
    by_cases same : me = other
    · subst same
      rw [World.put, World.found_set found] at foundOther
      cases foundOther
      cases change with
      | worker change =>
          obtain ⟨queue, fate, foundQueue, foundFate, duty⟩ := staffed.duty me _ found
          exact change.duty duty foundQueue foundFate onward
    · rw [World.put, List.getElem?_set_ne same] at foundOther
      obtain ⟨queue, fate, foundQueue, foundFate, duty⟩ := staffed.duty other worker foundOther
      obtain ⟨after, foundAfter, step⟩ := onward.queues other queue foundQueue
      exact ⟨after, fate, foundAfter, (sameFate other same).trans foundFate, duty.onward step⟩
  · intro other closing foundOther
    by_cases same : me = other
    · subst same
      rw [World.put, World.found_set found] at foundOther
      cases foundOther
      cases change with
      | closing change =>
          exact seen _ (change.waited (staffed.waited me _ found) staffed.living)
    · rw [World.put, List.getElem?_set_ne same] at foundOther
      exact seen closing (staffed.waited other closing foundOther)

theorem call (staffed : Staffed config world) (made : Call α) :
    Staffed config (world.spawn (begin made)) := by
  refine ⟨staffed.queues, staffed.fates, staffed.idle, ?_, ?_, ?_⟩
  · intro me hired
    obtain ⟨worker, found⟩ := staffed.hired me hired
    exact ⟨worker, World.found_append found⟩
  · intro me worker found
    rcases World.found_or_eq_of_append found with found | same
    · exact staffed.duty me worker found
    · cases made <;> cases same
  · intro me closing found
    rcases World.found_or_eq_of_append found with found | same
    · exact staffed.waited me closing found
    · cases made with
      | close =>
          cases same
          exact trivial
      | _ => cases same

theorem heed (staffed : Staffed config world) (signal : Signal) :
    Staffed config ⟨world.shared.heed signal, world.threads⟩ :=
  ⟨staffed.queues, staffed.fates, staffed.idle, staffed.hired, staffed.duty, staffed.waited⟩

theorem start (config : Config) {queue : Queue (Job α)} (idle : queue.Idle) :
    Staffed config ⟨initial config queue, List.replicate config.workers (.worker .start)⟩ := by
  refine ⟨List.length_replicate, List.length_replicate, ?_, ?_, ?_, ?_⟩
  · intro other member
    rw [List.eq_of_mem_replicate member]
    exact idle
  · intro me hired
    exact ⟨.start, List.getElem?_replicate_of_lt hired⟩
  · intro me worker found
    obtain ⟨hired, _⟩ := List.getElem?_eq_some_iff.mp found
    rw [List.length_replicate] at hired
    rw [List.getElem?_replicate_of_lt hired] at found
    cases found
    exact ⟨queue, .alive, List.getElem?_replicate_of_lt hired, List.getElem?_replicate_of_lt hired, rfl⟩
  · intro me closing found
    have same := List.eq_of_mem_replicate (List.mem_of_getElem? found)
    cases same

end Staffed

end Turnstile.Pool
