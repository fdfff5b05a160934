import Turnstile.Proofs.Pool.Runs

/-!
# Every ticket is accounted for

Three equations hold of every ticket at every moment. A ticket that was issued is
with a submission that looks for room, or was accepted once, or was refused once.
As often as it was accepted, its job lies in a queue or was taken from one. As
often as its job was taken, a worker runs it or it has run. `Fair` says that an
action of a thread keeps all three.
-/

namespace Turnstile.Pool

set_option autoImplicit false

open World (total)
open Turnstile.Task (Ticket Job)

variable {α : Type} {me : ThreadId} {pool later : Pool α} {ticket : Ticket} {old new : Point α}

def seeking (ticket : Ticket) (point : Point α) : Nat :=
  isFor ticket ((point.submission?.bind Submission.seeks?).map Job.ticket)

def running (ticket : Ticket) (point : Point α) : Nat := isFor ticket point.runs?

def issued (ticket : Ticket) (pool : Pool α) : Nat :=
  if ticket < pool.deliveries.length then 1 else 0

theorem issued_le (ticket : Ticket) (pool : Pool α) : issued ticket pool ≤ 1 := by
  unfold issued
  split <;> omega

structure Fair (ticket : Ticket) (pool later : Pool α) (old new : Point α) : Prop where
  decided : seeking ticket new + later.times .accepted ticket + later.times .refused ticket +
      issued ticket pool =
    seeking ticket old + pool.times .accepted ticket + pool.times .refused ticket +
      issued ticket later
  stored : later.times .accepted ticket + pool.queuedTimes ticket + pool.times .taken ticket =
    pool.times .accepted ticket + later.queuedTimes ticket + later.times .taken ticket
  ran : later.times .taken ticket + running ticket old + pool.times .finished ticket =
    pool.times .taken ticket + running ticket new + later.times .finished ticket

theorem Fair.of_told (told : Option (Milestone × Ticket))
    (times : ∀ milestone, later.times milestone ticket =
      pool.times milestone ticket + isFor (milestone, ticket) told)
    (same : later.deliveries.length = pool.deliveries.length)
    (decided : seeking ticket new + isFor (.accepted, ticket) told + isFor (.refused, ticket) told =
      seeking ticket old)
    (stored : isFor (.accepted, ticket) told + pool.queuedTimes ticket =
      later.queuedTimes ticket + isFor (.taken, ticket) told)
    (ran : isFor (.taken, ticket) told + running ticket old =
      running ticket new + isFor (.finished, ticket) told) : Fair ticket pool later old new := by
  have same : issued ticket later = issued ticket pool := by rw [issued, issued, same]
  refine ⟨?_, ?_, ?_⟩
  · rw [times, times, same]
    omega
  · rw [times, times]
    omega
  · rw [times, times]
    omega

theorem queuedTimes_of_eq (ticket : Ticket) (same : later.queues = pool.queues) :
    later.queuedTimes ticket = pool.queuedTimes ticket := by
  rw [queuedTimes, queuedTimes, same]

theorem times_of_eq (same : later.journal = pool.journal) (milestone : Milestone) :
    later.times milestone ticket = pool.times milestone ticket := by
  rw [times, times, same]

theorem issued_of_more (more : later.deliveries.length = pool.deliveries.length + 1) :
    issued ticket later = issued ticket pool + isFor ticket (some pool.deliveries.length) := by
  simp only [issued, isFor, more, Option.some_inj]
  rcases Nat.lt_trichotomy ticket pool.deliveries.length with before | here | beyond
  · simp [before, Nat.lt_succ_of_lt before, Nat.ne_of_gt before]
  · simp [here]
  · simp [Nat.not_lt_of_gt beyond, Nat.not_lt_of_ge (Nat.succ_le_of_lt beyond), Nat.ne_of_lt beyond]

theorem Quiet.fair (quiet : Quiet pool later) (sameSeek : seeking ticket new = seeking ticket old)
    (sameRun : running ticket new = running ticket old) : Fair ticket pool later old new := by
  have queued := queuedTimes_of_eq ticket quiet.queues
  refine .of_told none (fun milestone => quiet.times milestone ticket) quiet.issued ?_ ?_ ?_
  · rw [sameSeek]
    rfl
  · rw [queued]
    exact Nat.add_comm _ _
  · rw [sameRun]
    exact Nat.add_comm _ _

theorem Submission.Fresh.not_seeking {submission : Submission α} (fresh : submission.Fresh) :
    seeking ticket (.submission submission) = 0 := by
  simp [seeking, Point.submission?, fresh.seeks_nothing]

theorem seeking_of_seeks {submission : Submission α} {job : Job α}
    (seeks : submission.seeks? = some job) :
    seeking ticket (.submission submission) = isFor ticket (some job.ticket) := by
  simp [seeking, Point.submission?, seeks]

theorem Submission.Change.fair {old new : Submission α} (change : Change pool old new later) :
    Fair ticket pool later (.submission old) (.submission new) := by
  cases change with
  | issue fresh seeks queues fates more journal =>
      refine ⟨?_, ?_, ?_⟩
      · rw [times_of_eq journal, times_of_eq journal, issued_of_more more, fresh.not_seeking,
          seeking_of_seeks seeks]
        simp only
        omega
      · rw [times_of_eq journal, times_of_eq journal, queuedTimes_of_eq ticket queues]
      · rw [times_of_eq journal, times_of_eq journal]
        rfl
  | misaim worker body => exact (Quiet.refl pool).fair rfl rfl
  | seek seeks still quiet =>
      exact quiet.fair (by rw [seeking_of_seeks seeks, seeking_of_seeks still]) rfl
  | @retry _ _ job index queue after seeks still found retains =>
      have queued := queuedTimes_of_items ticket found retains.items
      refine .of_told none (fun _ => rfl) rfl ?_ ?_ ?_
      · rw [seeking_of_seeks seeks, seeking_of_seeks still]
        rfl
      · simp only [isFor_none]
        omega
      · rfl
  | @store _ job index queue after seeks found stores =>
      have queued := queuedTimes_of_stores ticket found stores
      refine .of_told (some (.accepted, job.ticket)) (fun _ => times_note _ _ _ _) rfl ?_ ?_ ?_
      · rw [seeking_of_seeks seeks]
        simp [seeking, Point.submission?, Submission.seeks?]
      · simp only [isFor_milestone, reduceCtorEq, if_true, if_false, queuedTimes_note]
        omega
      · simp only [isFor_milestone, reduceCtorEq, if_false]
        rfl
  | @turnAway _ job index queue after seeks found retains =>
      have queued := queuedTimes_of_items ticket found retains.items
      refine .of_told (some (.refused, job.ticket)) (fun _ => times_note _ _ _ _) rfl ?_ ?_ ?_
      · rw [seeking_of_seeks seeks]
        simp [seeking, Point.submission?, Submission.seeks?]
      · simp only [isFor_milestone, reduceCtorEq, if_false, queuedTimes_note]
        omega
      · simp only [isFor_milestone, reduceCtorEq, if_false]
        rfl
  | count ticket => exact ((Quiet.refl pool).count _).fair rfl rfl

theorem Worker.Roams.runs_nothing {worker : Worker α} (roams : worker.Roams) :
    worker.runs? = none ∧ worker.submission? = none := by
  cases roams <;> exact ⟨rfl, rfl⟩

theorem seeking_of_quiet {worker : Worker α} (quiet : worker.submission? = none) :
    seeking ticket (.worker worker) = 0 := by
  simp [seeking, Point.submission?, quiet]

theorem running_of_runs {worker : Worker α} {held : Option Ticket} (runs : worker.runs? = held) :
    running ticket (.worker worker) = isFor ticket held := by
  rw [running, Point.runs?, runs]

theorem Worker.Change.fair {old new : Worker α} (change : Change me pool old new later) :
    Fair ticket pool later (.worker old) (.worker new) := by
  cases change with
  | start => exact ((Quiet.refl pool).note rfl).fair rfl rfl
  | @take _ _ job index queue after roams runs quiet found loads =>
      obtain ⟨idle, unasked⟩ := roams.runs_nothing
      have queued := queuedTimes_of_loads ticket found loads
      refine .of_told (some (.taken, job.ticket)) (fun _ => times_note _ _ _ _) rfl ?_ ?_ ?_
      · rw [seeking_of_quiet quiet, seeking_of_quiet unasked]
        simp
      · simp only [isFor_milestone, reduceCtorEq, if_true, if_false, queuedTimes_note]
        omega
      · rw [running_of_runs runs, running_of_runs idle]
        simp
  | @miss _ _ index queue after roams still found retains =>
      obtain ⟨idle, unasked⟩ := roams.runs_nothing
      obtain ⟨idleStill, unaskedStill⟩ := still.runs_nothing
      have queued := queuedTimes_of_items ticket found retains.items
      refine .of_told none (fun _ => rfl) rfl ?_ ?_ ?_
      · rw [seeking_of_quiet unasked, seeking_of_quiet unaskedStill]
        rfl
      · simp only [isFor_none]
        omega
      · rw [running_of_runs idle, running_of_runs idleStill]
        rfl
  | resume before roams =>
      obtain ⟨idleStill, unaskedStill⟩ := roams.runs_nothing
      have idle : old.runs? = none ∧ old.submission? = none := by
        rcases before with before | rfl
        · exact before.runs_nothing
        · exact ⟨rfl, rfl⟩
      apply (Quiet.refl pool).fair
      · rw [seeking_of_quiet idle.2, seeking_of_quiet unaskedStill]
      · rw [running_of_runs idle.1, running_of_runs idleStill]
  | findClosed found closed => exact (Quiet.refl pool).fair rfl rfl
  | findEmpty found empty => exact (Quiet.refl pool).fair rfl rfl
  | work runs still before after quiet =>
      apply quiet.fair
      · rw [seeking_of_quiet after, seeking, Point.submission?, before]
        rfl
      · rw [running_of_runs runs, running_of_runs still]
  | post frame rest fresh =>
      apply (Quiet.refl pool).fair
      · exact fresh.not_seeking
      · rfl
  | submit frame change =>
      have fair : Fair ticket pool later (.submission _) (.submission _) := change.fair
      refine ⟨fair.decided, fair.stored, ?_⟩
      have ran := fair.ran
      have none : ∀ submission : Submission α, running ticket (.submission submission) = 0 :=
        fun _ => rfl
      rw [none, none] at ran
      rw [running_of_runs rfl, running_of_runs rfl]
      simp only [Worker.runs?]
      omega
  | finish done =>
      refine .of_told (some (.finished, done)) (fun _ => times_note _ _ _ _) rfl ?_ ?_ ?_
      · simp [seeking, Point.submission?, Worker.submission?]
      · simp only [isFor_milestone, reduceCtorEq, if_false, queuedTimes_note]
        exact Nat.zero_add _
      · rw [running_of_runs rfl, running_of_runs rfl]
        simp [Worker.runs?]
  | leave =>
      refine .of_told none (fun _ => times_note _ _ _ _) rfl ?_ ?_ ?_
      · rfl
      · exact Nat.add_comm _ _
      · rfl

theorem dismantle_of_empty (empty : ∀ queue ∈ pool.queues, queue.toList = []) :
    pool.dismantle = { pool with queues := pool.queues.map Queue.clear } := by
  have nothing : pool.queued = [] := by
    rw [queued, List.flatMap_eq_nil_iff]
    exact empty
  have untouched : (fun (_ : Nat) (delivery : Task.Delivery α) => delivery) =
      fun _ delivery => id delivery := rfl
  simp [dismantle, nothing, untouched, List.mapIdx_eq_iff]

theorem queuedTimes_eq_zero (ticket : Ticket) (empty : ∀ queue ∈ pool.queues, queue.toList = []) :
    pool.queuedTimes ticket = 0 := by
  apply World.total_eq_zero
  intro index queue found
  rw [copies, empty queue (List.mem_of_getElem? found)]
  rfl

theorem Closing.Change.fair {old new : Closing} (change : Change pool old new later)
    (idle : pool.Idle)
    (settled : old = .dismantle → ∀ queue ∈ pool.queues, queue.toList = []) :
    Fair ticket pool later (.closing old) (.closing new) := by
  cases change with
  | begin => exact ((Quiet.refl pool).note rfl).fair rfl rfl
  | @shut index queue found =>
      have queued := queuedTimes_of_items ticket found (idle.of_found found).close.items
      refine .of_told none (fun _ => rfl) rfl rfl ?_ rfl
      simp only [isFor_none]
      omega
  | await index => exact (Quiet.refl pool).fair rfl rfl
  | bury left => exact (Quiet.refl pool).fair rfl rfl
  | mourn died => exact ((Quiet.refl pool).note rfl).fair rfl rfl
  | report beyond => exact (Quiet.refl pool).fair rfl rfl
  | stop => exact ((Quiet.refl pool).note rfl).fair rfl rfl
  | dismantle =>
      have empty := settled rfl
      have cleared : ∀ queue ∈ pool.queues.map Queue.clear, queue.toList = [] := by
        intro queue listed
        obtain ⟨before, member, rfl⟩ := List.mem_map.mp listed
        exact ((idle before member).clear (empty before member)).items.trans (empty before member)
      rw [dismantle_of_empty empty]
      refine .of_told none (fun _ => rfl) rfl rfl ?_ rfl
      rw [queuedTimes_eq_zero ticket empty, queuedTimes_eq_zero ticket cleared]
      rfl

theorem Point.Change.fair (change : Point.Change me pool old new later) (idle : pool.Idle)
    (settled : old = .closing .dismantle → ∀ queue ∈ pool.queues, queue.toList = []) :
    Fair ticket pool later old new := by
  cases change with
  | worker change => exact change.fair
  | submission change => exact change.fair
  | inquiry quiet => exact quiet.fair rfl rfl
  | closing change => exact change.fair idle fun same => settled (same ▸ rfl)

/-- The three equations of a ticket. -/
structure Accounted (ticket : Ticket) (world : Running α) : Prop where
  decided : total (seeking ticket) world.threads + world.shared.times .accepted ticket +
    world.shared.times .refused ticket = issued ticket world.shared
  stored : world.shared.times .accepted ticket =
    world.shared.queuedTimes ticket + world.shared.times .taken ticket
  ran : world.shared.times .taken ticket =
    total (running ticket) world.threads + world.shared.times .finished ticket

namespace Accounted

variable {world : Running α}

theorem put (accounted : Accounted ticket world) (found : world.threads[me]? = some old)
    (fair : Fair ticket world.shared later old new) :
    Accounted ticket (world.put me (new, later)) := by
  have seek := World.total_set (seeking ticket) found new
  have run := World.total_set (running ticket) found new
  obtain ⟨decided, stored, ran⟩ := accounted
  obtain ⟨fairDecided, fairStored, fairRan⟩ := fair
  refine ⟨?_, ?_, ?_⟩
  · simp only [World.put]
    omega
  · simp only [World.put]
    omega
  · simp only [World.put]
    omega

theorem call (accounted : Accounted ticket world) (made : Call α) :
    Accounted ticket (world.spawn (begin made)) := by
  have unseeking : seeking ticket (begin made) = 0 := by cases made <;> rfl
  have resting : running ticket (begin made) = 0 := by cases made <;> rfl
  refine ⟨?_, accounted.stored, ?_⟩
  · rw [World.spawn, World.total_append, unseeking]
    exact accounted.decided
  · rw [World.spawn, World.total_append, resting]
    exact accounted.ran

theorem heed (accounted : Accounted ticket world) (signal : Signal) :
    Accounted ticket ⟨world.shared.heed signal, world.threads⟩ :=
  ⟨accounted.decided, accounted.stored, accounted.ran⟩

theorem start (config : Config) {queue : Queue (Job α)} (empty : queue.toList = []) :
    Accounted ticket
      ⟨initial config queue, List.replicate config.workers (.worker .start)⟩ := by
  have nothing : (initial config queue).queuedTimes ticket = 0 := by
    apply queuedTimes_eq_zero
    intro other member
    rw [List.eq_of_mem_replicate member, empty]
  refine ⟨?_, ?_, ?_⟩
  · rw [World.total_replicate]
    rfl
  · rw [nothing]
    rfl
  · rw [World.total_replicate]
    rfl

end Accounted

end Turnstile.Pool
