import Turnstile.Proofs.Pool.Owner
import Turnstile.Proofs.Pool.Service
import Turnstile.Proofs.Schedule

/-!
# Nobody is stranded in a pool

In a pool in which nothing moves any more, whatever the bodies throw and however many
workers have died of it, nobody waits for something that is there to be had. A worker
that is parked has an open and empty queue, a submitter that is parked stands at an open
and full one, and then the owner of that queue is inside the body of a task, or dead. So
the closing of the queues releases everybody, and only a body that stands at a closed
gate can hold up whoever closes the pool.
-/

namespace Turnstile.Pool

set_option autoImplicit false

open Turnstile.Task (Ticket Job)

variable {α : Type} {me : ThreadId} {pool : Pool α} {config : Config}
  {first world : Running α}

def Worker.inBody : Worker α → Bool
  | .run _ | .post _ _ => true
  | _ => false

/-- The owner of the queue is inside the body of a task, or dead. -/
def Occupied (world : Running α) (index : Nat) : Prop :=
  ∃ worker, world.threads[index]? = some (.worker worker) ∧
    (worker.inBody = true ∨ world.shared.fates[index]? = some .died)

inductive Worker.Stays (me : Nat) (pool : Pool α) : Worker α → Prop where
  | left (left : pool.fates[me]? = some .left) : Stays me pool .gone
  | died (died : pool.fates[me]? = some .died) : Stays me pool .gone
  | atGate {frame : Frame α} {gate : String} {rest : Task.Body α}
      (alive : pool.fates[me]? = some .alive) (next : frame.rest = .pass gate :: rest)
      (shut : pool.isOpen gate = false) : Stays me pool (.run frame)
  | posting {frame : Frame α} {job : Job α} {index : Nat}
      (alive : pool.fates[me]? = some .alive) : Stays me pool (.post frame (.wait job index))
  | parked {queue : Queue (Job α)} (alive : pool.fates[me]? = some .alive)
      (found : pool.queues[me]? = some queue) (listed : me ∈ queue.fullSlots.line)
      (isOpen : queue.closed = false) (empty : queue.toList = []) : Stays me pool .sleep

inductive Submission.Stays (me : ThreadId) (world : Running α) : Submission α → Prop where
  | done (receipt : Receipt) : Stays me world (.done receipt)
  | parked {job : Job α} {index : Nat} {queue : Queue (Job α)}
      (found : world.shared.queues[index]? = some queue) (listed : me ∈ queue.openSlots.line)
      (isOpen : queue.closed = false) (full : queue.toList.length = queue.capacity)
      (occupied : Occupied world index) : Stays me world (.wait job index)

inductive Closing.Stays (world : Running α) : Closing → Prop where
  | done : Stays world .done
  | await {worker : Nat} {frame : Frame α} {gate : String} {rest : Task.Body α}
      (closed : ∀ queue ∈ world.shared.queues, queue.closed = true)
      (found : world.threads[worker]? = some (.worker (.run frame)))
      (next : frame.rest = .pass gate :: rest) (shut : world.shared.isOpen gate = false) :
      Stays world (.await worker)

/-- Everybody who does not move has a reason. -/
structure Unstranded (config : Config) (world : Running α) : Prop where
  /-- Workers that look for jobs are parked, each at its own queue. -/
  workers : ∀ me < config.workers, ∃ worker, world.threads[me]? = some (.worker worker) ∧
    worker.Stays me world.shared
  /-- Callers and tasks alike are parked beside a queue that is full. -/
  submitters : ∀ (me : ThreadId) (point : Point α) (submission : Submission α),
    world.threads[me]? = some point → point.submission? = some submission →
    submission.Stays me world
  /-- Jobs wait for an owner that is busy or dead. -/
  holders : ∀ (index : Nat) (queue : Queue (Job α)), world.shared.queues[index]? = some queue →
    queue.toList ≠ [] → Occupied world index
  /-- Where all queues have been closed, nobody is parked. -/
  released : (∀ queue ∈ world.shared.queues, queue.closed = true) →
    (∀ queue ∈ world.shared.queues, queue.openSlots.line = [] ∧ queue.fullSlots.line = []) ∧
      ∀ point ∈ world.threads, point ≠ .worker .sleep ∧ point.awaits? = none
  /-- Only a task can hold up whoever closes the pool. -/
  closers : ∀ (me : ThreadId) (closing : Closing), world.threads[me]? = some (.closing closing) →
    closing.Stays world

theorem Submission.listed_of_still {submission : Submission α} (staffed : 0 < pool.queues.length)
    (seated : ∀ index, submission.awaits? = some index → index < pool.queues.length)
    (still : submission.act me pool = none) :
    (∃ receipt, submission = .done receipt) ∨ ∃ job index queue, submission = .wait job index ∧
      pool.queues[index]? = some queue ∧ me ∈ queue.openSlots.line := by
  cases submission with
  | begin body => cases still
  | aim worker body =>
      simp only [act] at still
      split at still <;> cases still
  | look job home attempt =>
      simp only [act] at still
      split at still
      · rw [Option.map_eq_none_iff, List.getElem?_eq_none_iff] at still
        exact absurd (Nat.mod_lt _ staffed) (Nat.not_lt.mpr still)
      · cases still
  | fallBack job home => cases still
  | wait job index =>
      have found := List.getElem?_eq_getElem (seated index rfl)
      simp only [act, found, Option.bind_some] at still
      split at still
      · cases still
      · cases still
      · next asleep => exact .inr ⟨job, index, _, rfl, found, Queue.listed_of_push asleep⟩
  | count ticket => cases still
  | done receipt => exact .inl ⟨receipt, rfl⟩

theorem Worker.still_of_post {frame : Frame α} {submission : Submission α}
    (still : Worker.act me (.post frame submission) pool = none) :
    submission.act me pool = none ∧ ∀ receipt, submission ≠ .done receipt := by
  cases submission with
  | begin | fallBack | count | done => cases still
  | _ => exact ⟨Option.map_eq_none_iff.mp still, nofun⟩

/-- A worker that does not move is gone, at a closed gate, in a line for a slot, or in the
line of its own queue. -/
theorem Worker.place_of_still {worker : Worker α} {queue : Queue (Job α)}
    (found : pool.queues[me]? = some queue)
    (seated : ∀ index, worker.awaits? = some index → index < pool.queues.length)
    (still : worker.act me pool = none) :
    worker = .gone ∨
      (∃ frame gate rest, worker = .run frame ∧ frame.rest = .pass gate :: rest ∧
        pool.isOpen gate = false) ∨
      (∃ frame job index, worker = .post frame (.wait job index)) ∨
      worker = .sleep ∧ me ∈ queue.fullSlots.line := by
  have staffed : 0 < pool.queues.length :=
    Nat.lt_of_le_of_lt (Nat.zero_le me) (List.getElem?_eq_some_iff.mp found).1
  cases worker with
  | look offset =>
      simp only [act] at still
      split at still
      · rw [Option.map_eq_none_iff, List.getElem?_eq_none_iff] at still
        exact absurd (Nat.mod_lt _ staffed) (Nat.not_lt.mpr still)
      · cases still
  | sleep =>
      simp only [act, found, Option.bind_some] at still
      split at still
      · cases still
      · cases still
      · next asleep => exact .inr (.inr (.inr ⟨rfl, Queue.listed_of_pop asleep⟩))
  | checkClosed | checkEmpty =>
      simp only [act, found, Option.map_some] at still
      cases still
  | run frame =>
      simp only [act] at still
      unfold runBody at still
      split at still
      case h_3 gate rest next =>
        split at still
        · cases still
        · next shut => exact .inr (.inl ⟨frame, gate, rest, rfl, next, by simpa using shut⟩)
      all_goals cases still
  | post frame submission =>
      obtain ⟨halted, unanswered⟩ := still_of_post still
      rcases Submission.listed_of_still staffed seated halted with
        ⟨receipt, same⟩ | ⟨job, index, _, rfl, _⟩
      · exact absurd same (unanswered receipt)
      · exact .inr (.inr (.inl ⟨frame, job, index, rfl⟩))
  | gone => exact .inl rfl
  | start | countTheft | deliver | countPanic | countRun | perish | leave => cases still

theorem Point.still_of_submission {point : Point α} {submission : Submission α}
    (posts : point.submission? = some submission) (still : Pool.act me point pool = none) :
    submission.act me pool = none := by
  cases point with
  | worker hand =>
      cases hand with
      | post frame inner =>
          cases posts
          exact (Worker.still_of_post (Option.map_eq_none_iff.mp still)).1
      | _ => cases posts
  | submission inner =>
      cases posts
      exact Option.map_eq_none_iff.mp still
  | inquiry | closing => cases posts

namespace Upheld

variable {worker : Worker α} {point : Point α} {submission : Submission α} {index : Nat}
  {queue : Queue (Job α)}

theorem listed (upheld : Upheld config world) (quiet : world.Quiet (machine α))
    (found : world.threads[me]? = some point) (posts : point.submission? = some submission) :
    (∃ receipt, submission = .done receipt) ∨ ∃ job index queue, submission = .wait job index ∧
      world.shared.queues[index]? = some queue ∧ me ∈ queue.openSlots.line := by
  have staffed : 0 < world.shared.queues.length := upheld.queues ▸ upheld.positive
  have still : act me point world.shared = none := World.still_of_quiet quiet found
  refine Submission.listed_of_still staffed ?_ (Point.still_of_submission posts still)
  intro index waits
  rw [upheld.queues]
  refine upheld.seated me point index found ?_
  rw [Point.awaits?, posts]
  exact waits

theorem full (upheld : Upheld config world) (quiet : world.Quiet (machine α))
    (found : world.shared.queues[index]? = some queue) (parked : queue.openSlots.line ≠ []) :
    queue.closed = false ∧ queue.toList.length = queue.capacity := by
  refine (upheld.tidy index queue found).full_of_parked ?_ parked
  intro me point foundPoint waits
  rw [Point.awaits?, Option.bind_eq_some_iff] at waits
  obtain ⟨submission, posts, waits⟩ := waits
  rcases upheld.listed quiet foundPoint posts with
    ⟨receipt, rfl⟩ | ⟨job, other, there, rfl, foundThere, listed⟩
  · cases waits
  · cases waits
    rw [found] at foundThere
    cases foundThere
    exact listed

theorem stays (upheld : Upheld config world) (quiet : world.Quiet (machine α))
    (found : world.threads[me]? = some (.worker worker)) : worker.Stays me world.shared := by
  obtain ⟨queue, fate, foundQueue, foundFate, serves⟩ := upheld.serves me worker found
  have still : act me (.worker worker) world.shared = none := World.still_of_quiet quiet found
  have seated : ∀ index, worker.awaits? = some index → index < world.shared.queues.length := by
    intro index waits
    rw [upheld.queues]
    exact upheld.seated me _ index found waits
  have alive (here : worker ≠ .gone) : world.shared.fates[me]? = some .alive :=
    serves.alive here ▸ foundFate
  rcases Worker.place_of_still foundQueue seated (Option.map_eq_none_iff.mp still) with
    rfl | ⟨frame, gate, rest, rfl, next, shut⟩ | ⟨frame, job, index, rfl⟩ | ⟨rfl, listed⟩
  · rcases serves with rfl | ⟨rfl, _⟩
    · exact .died foundFate
    · exact .left foundFate
  · exact .atGate (alive nofun) next shut
  · exact .posting (alive nofun)
  · obtain ⟨isOpen, empty⟩ :=
      (upheld.tidy me queue foundQueue).empty_of_parked (List.ne_nil_of_mem listed)
    exact .parked (alive nofun) foundQueue listed isOpen empty

theorem occupied (upheld : Upheld config world) (quiet : world.Quiet (machine α))
    (found : world.shared.queues[index]? = some queue) (some : queue.toList ≠ []) :
    Occupied world index := by
  have hired : index < config.workers := by
    rw [← upheld.queues]
    exact (List.getElem?_eq_some_iff.mp found).1
  obtain ⟨worker, foundWorker⟩ := upheld.hired index hired
  obtain ⟨other, fate, foundQueue, foundFate, serves⟩ := upheld.serves index worker foundWorker
  rw [found] at foundQueue
  cases foundQueue
  refine ⟨worker, foundWorker, ?_⟩
  -- An owner that has left found the queue empty, and one that sleeps sleeps beside an empty one.
  cases upheld.stays quiet foundWorker with
  | left left =>
      rw [foundFate] at left
      cases left
      rcases serves with died | ⟨_, _, empty⟩
      · cases died
      · exact absurd empty some
  | died died => exact .inr died
  | atGate | posting => exact .inl rfl
  | parked alive foundOwn listed isOpen empty =>
      rw [found] at foundOwn
      cases foundOwn
      exact absurd empty some

theorem submission_stays (upheld : Upheld config world) (quiet : world.Quiet (machine α))
    (found : world.threads[me]? = some point) (posts : point.submission? = some submission) :
    submission.Stays me world := by
  rcases upheld.listed quiet found posts with
    ⟨receipt, rfl⟩ | ⟨job, index, queue, rfl, foundQueue, listed⟩
  · exact .done receipt
  · obtain ⟨isOpen, full⟩ := upheld.full quiet foundQueue (List.ne_nil_of_mem listed)
    have some : queue.toList ≠ [] := by
      have positive := (upheld.tidy.sound foundQueue).capacity_pos
      rw [← full] at positive
      exact List.ne_nil_of_length_pos positive
    exact .parked foundQueue listed isOpen full (upheld.occupied quiet foundQueue some)

theorem released (upheld : Upheld config world) (quiet : world.Quiet (machine α))
    (closed : ∀ queue ∈ world.shared.queues, queue.closed = true) :
    (∀ queue ∈ world.shared.queues, queue.openSlots.line = [] ∧ queue.fullSlots.line = []) ∧
      ∀ point ∈ world.threads, point ≠ .worker .sleep ∧ point.awaits? = none := by
  have never {queue : Queue (Job α)} (member : queue ∈ world.shared.queues)
      (isOpen : queue.closed = false) : False := by
    rw [closed queue member] at isOpen
    cases isOpen
  constructor
  · intro queue member
    obtain ⟨index, found⟩ := List.mem_iff_getElem?.mp member
    constructor
    · by_contra parked
      exact never member (upheld.full quiet found parked).1
    · by_contra parked
      exact never member ((upheld.tidy index queue found).empty_of_parked parked).1
  · intro point member
    obtain ⟨me, found⟩ := List.mem_iff_getElem?.mp member
    constructor
    · rintro rfl
      cases upheld.stays quiet found with
      | parked alive foundQueue listed isOpen empty =>
          exact never (List.mem_of_getElem? foundQueue) isOpen
    · by_contra waits
      obtain ⟨index, waits⟩ := Option.ne_none_iff_exists'.mp waits
      rw [Point.awaits?, Option.bind_eq_some_iff] at waits
      obtain ⟨submission, posts, waits⟩ := waits
      cases upheld.submission_stays quiet found posts with
      | done receipt => cases waits
      | parked foundQueue listed isOpen full occupied =>
          exact never (List.mem_of_getElem? foundQueue) isOpen

theorem closing_stays (upheld : Upheld config world) (quiet : world.Quiet (machine α))
    {closing : Closing} (found : world.threads[me]? = some (.closing closing)) :
    closing.Stays world := by
  have still : act me (.closing closing) world.shared = none := World.still_of_quiet quiet found
  have shut := upheld.shut me closing found
  cases closing with
  | begin | report | dismantle => cases still
  | close index =>
      have halted := Option.map_eq_none_iff.mp still
      simp only [Closing.act] at halted
      split at halted <;> cases halted
  | await worker =>
      have halted := Option.map_eq_none_iff.mp still
      simp only [Closing.act] at halted
      split at halted
      case h_1 alive =>
        have hired : worker < config.workers := by
          rw [← upheld.fates]
          exact (List.getElem?_eq_some_iff.mp alive).1
        obtain ⟨hand, foundHand⟩ := upheld.hired worker hired
        obtain ⟨_, nobody⟩ := upheld.released quiet shut
        obtain ⟨awake, apart⟩ := nobody _ (List.mem_of_getElem? foundHand)
        cases upheld.stays quiet foundHand with
        | left left =>
            rw [alive] at left
            cases left
        | died died =>
            rw [alive] at died
            cases died
        | atGate _ next gateShut => exact .await shut foundHand next gateShut
        | posting => cases apart
        | parked => exact absurd rfl awake
      all_goals cases halted
  | done => exact .done

theorem unstranded (upheld : Upheld config world) (quiet : world.Quiet (machine α)) :
    Unstranded config world := by
  refine ⟨?_, ?_, ?_, ?_, ?_⟩
  · intro me hired
    obtain ⟨worker, found⟩ := upheld.hired me hired
    exact ⟨worker, found, upheld.stays quiet found⟩
  · exact fun me point submission found posts => upheld.submission_stays quiet found posts
  · exact fun index queue found some => upheld.occupied quiet found some
  · exact upheld.released quiet
  · exact fun me closing found => upheld.closing_stays quiet found

end Upheld

namespace Owned

variable {start last : World (Owned α) (Point α)}

theorem view_quiet (quiet : last.Quiet (machine α)) : (view last).Quiet (Pool.machine α) := by
  refine World.quiet_of_still ?_
  intro me point found
  rw [view, List.getElem?_map, Option.map_eq_some_iff] at found
  obtain ⟨old, found, rfl⟩ := found
  have still : act me old last.shared = none := World.still_of_quiet quiet found
  cases old with
  | join | close => cases still
  | inPool handle point => exact Option.map_eq_none_iff.mp still

theorem view_reached (run : Relation.ReflTransGen Step start last) :
    Relation.ReflTransGen Pool.Step (view start) (view last) := by
  induction run with
  | refl => exact .refl
  | tail _ step ih =>
      obtain ⟨mid, step, follows⟩ := view_step step
      have reached : Relation.ReflTransGen Pool.Step (view start) mid := by
        rcases step with rfl | step
        · exact ih
        · exact ih.tail step
      rcases follows with same | ⟨ticket, same⟩
      · rwa [same]
      · rw [same]
        exact reached.tail (.heed (.forgo ticket))

theorem reached_of_order (order : List ThreadId)
    (performed : order.foldlM (World.act? (machine α)) start = some last) :
    Relation.ReflTransGen Step start last := by
  induction order generalizing start with
  | nil =>
      cases performed
      exact .refl
  | cons me rest ih =>
      rw [List.foldlM_cons, Option.bind_eq_bind, Option.bind_eq_some_iff] at performed
      obtain ⟨mid, acted, performed⟩ := performed
      exact .head (.act me acted) (ih performed)

end Owned

/-- Whoever calls an open pool whenever and however often, or gives it up, whatever the
tasks do, and however the actions of all threads interleave: once nothing moves any more,
nobody is stranded. -/
theorem nobody_stranded (config : Config) (first : Running α) (opened : start config = .ok first) :
    (∀ world, Relation.ReflTransGen Step first world → world.Quiet (machine α) →
      Unstranded config world) ∧
    ∀ world, Relation.ReflTransGen Owned.Step (Owned.ofRunning first) world →
      world.Quiet (Owned.machine α) → Unstranded config (Owned.view world) := by
  have upheld : Upheld config first := .start opened
  constructor
  · intro world run quiet
    exact (upheld.run run).unstranded quiet
  · intro world run quiet
    have within := Owned.view_reached run
    rw [Owned.view_ofRunning] at within
    exact (upheld.run within).unstranded (Owned.view_quiet quiet)

/-- Two workers, with room for one job each. -/
def twin : Config := ⟨2, 1, 1, "w", Config.standardIdlePark⟩

def twinOpened : Running Unit :=
  ⟨initial twin ⟨.ofCapacity 1, false, .ofPermits 1, .empty⟩, [.worker .start, .worker .start]⟩

/-- Threads 2, 3 and 4 submit tasks to the first worker. The first of the tasks ends it. -/
def twinAsked : World (Owned Unit) (Owned.Point Unit) :=
  (((Owned.ofRunning twinOpened).spawn (.inPool none (begin (.submitTo 0 [.panic .explosive])))).spawn
    (.inPool none (begin (.submitTo 0 [])))).spawn (.inPool none (begin (.submitTo 0 [])))

/-- The second worker goes to sleep, the first one takes its first task and dies of it,
and then there is room for one of the other tasks. -/
def widowing : List ThreadId :=
  List.replicate 5 1 ++ List.replicate 3 2 ++ List.replicate 5 0 ++ List.replicate 3 3 ++ [4, 4]

def widowed : World (Owned Unit) (Owned.Point Unit) :=
  (widowing.foldlM (World.act? (Owned.machine Unit)) twinAsked).getD twinAsked

theorem start_twin : start twin = .ok twinOpened := by
  have named : twin.nameFault? = none := by decide +kernel
  simp only [start, Config.rejection?, named]
  rfl

private theorem run_to_widowed :
    Relation.ReflTransGen Owned.Step (Owned.ofRunning twinOpened) widowed := by
  have calls : Relation.ReflTransGen Owned.Step (Owned.ofRunning twinOpened) twinAsked :=
    .tail (.tail (.tail .refl (.ask (.submitTo 0 [.panic .explosive]) rfl))
      (.ask (.submitTo 0 []) rfl)) (.ask (.submitTo 0 []) rfl)
  exact calls.trans (Owned.reached_of_order widowing rfl)

private theorem widowed_quiet : widowed.Quiet (Owned.machine Unit) := by
  intro me
  match me with
  | 0 | 1 | 2 | 3 | 4 | _ + 5 => rfl

/-- The other worker sleeps beside the job of the dead one. -/
theorem widowed_keeps_a_job :
    Occupied (Owned.view widowed) 0 ∧ (Owned.view widowed).shared.fates = [.died, .alive] ∧
      (Owned.view widowed).shared.queues.map Queue.len = [1, 0] ∧
      (Owned.view widowed).shared.queues.map (fun queue => queue.openSlots.line) = [[4], []] := by
  obtain ⟨_, owned⟩ := nobody_stranded twin twinOpened start_twin
  have still := owned widowed run_to_widowed widowed_quiet
  exact ⟨still.holders 0 _ rfl nofun, rfl, rfl, rfl⟩

end Turnstile.Pool
