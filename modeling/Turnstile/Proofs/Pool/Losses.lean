import Turnstile.Proofs.Pool.Deeds
import Turnstile.Proofs.Pool.Laws
import Turnstile.Proofs.Pool.Service

/-!
# Jobs that are lost with their workers

The account of a ticket where workers may die. As long as the pool has not been taken
down, each accepted job is in a queue, or held by a worker, or has run, and the job of
which a worker dies is one that has run: `Booked`. A pool is taken down only when no
worker is alive any more, and what is left in its queues is discarded then. From that
moment on its queues are spent, and only callers move.
-/

namespace Turnstile.Pool

set_option autoImplicit false

open World (total)
open Turnstile.Task (Ticket Job)

variable {α : Type} {me : ThreadId} {pool later : Pool α} {ticket : Ticket} {config : Config}
  {world after last : Running α} {old new : Point α}

/-- The ticket of the job that a worker holds, until it is noted that the job has run. -/
def Worker.holds? : Worker α → Option Ticket
  | .perish ticket => ticket
  | worker => worker.runs?

def Point.holds? : Point α → Option Ticket
  | .worker hand => hand.holds?
  | .submission _ | .inquiry _ | .closing _ => none

def holding (ticket : Ticket) (point : Point α) : Nat := isFor ticket point.holds?

theorem holding_eq_running (alive : ∀ held, old ≠ .worker (.perish held)) :
    holding ticket old = running ticket old := by
  match old with
  | .worker (.perish held) => exact absurd rfl (alive held)
  | .worker .start | .worker (.look _) | .worker (.countTheft _ _) | .worker .sleep
  | .worker .checkClosed | .worker .checkEmpty | .worker (.run _) | .worker (.post _ _)
  | .worker (.deliver _ _) | .worker (.countPanic _ _) | .worker (.countRun _) | .worker .leave
  | .worker .gone | .submission _ | .inquiry _ | .closing _ => rfl

/-- An action in a pool that is not taken down is one of a living worker or of a caller, or it
has to do with the death of a worker. -/
theorem Point.change_or_death (idle : pool.Idle)
    (moved : act me old pool = some (new, later) ∨ expire me old pool = some (new, later)) :
    (Change me pool old new later ∧ ∀ held, old ≠ .worker (.perish held)) ∨
    (∃ ticket ending, old = .worker (.deliver ticket ending) ∧
      new = .worker (.perish (some ticket)) ∧ Quiet pool later) ∨
    ∃ held, old = .worker (.perish held) ∧ new = .worker .gone ∧
      later = (pool.setFate me .died).note (.perished me held) := by
  rcases moved with acted | expired
  case inr =>
    refine .inl ⟨change_of_expire idle expired, ?_⟩
    rintro held rfl
    cases expired
  have calmly (calm : old.explodes pool = false) (alive : ∀ held, old ≠ .worker (.perish held)) :
      Change me pool old new later ∧ ∀ held, old ≠ .worker (.perish held) :=
    ⟨change_of_act idle calm alive acted, alive⟩
  cases old with
  | worker hand =>
      cases hand with
      | perish held =>
          cases acted
          exact .inr (.inr ⟨held, rfl, rfl, rfl⟩)
      | deliver ticket ending =>
          cases bursting : Worker.bursts (pool.isForgone ticket) ending with
          | true =>
              rw [act, Worker.act, Worker.afterDelivery_of_bursts bursting] at acted
              cases acted
              exact .inr (.inl ⟨ticket, ending, rfl, rfl, (Quiet.refl pool).setDelivery _ _⟩)
          | false => exact .inl (calmly bursting (by simp))
      | _ => exact .inl (calmly rfl (by simp))
  | _ => exact .inl (calmly rfl (by simp))

theorem Point.Change.not_perish (change : Point.Change me pool old new later)
    (held : Option Ticket) : new ≠ .worker (.perish held) := by
  rintro rfl
  cases change with
  | worker change =>
      cases change with
      | take roams runs => cases runs
      | miss roams still => cases still
      | resume before roams => cases roams
      | work runs still => cases still

@[simp] theorem isFor_mishap (mishap other : Mishap) (ticket wanted : Ticket) :
    isFor (other, wanted) (some (mishap, ticket)) =
      if mishap = other then isFor wanted (some ticket) else 0 := by
  by_cases same : mishap = other
  · simp [isFor, same]
  · simp [isFor, same]

@[simp] theorem mishaps_count (mishap : Mishap) (ticket : Ticket) (bump : Counters → Counters)
    (pool : Pool α) : (pool.count bump).mishaps mishap ticket = pool.mishaps mishap ticket := rfl

@[simp] theorem mishaps_setFate (mishap : Mishap) (ticket : Ticket) (worker : Nat) (fate : Fate)
    (pool : Pool α) :
    (pool.setFate worker fate).mishaps mishap ticket = pool.mishaps mishap ticket := rfl

@[simp] theorem times_count (milestone : Milestone) (ticket : Ticket) (bump : Counters → Counters)
    (pool : Pool α) : (pool.count bump).times milestone ticket = pool.times milestone ticket := rfl

@[simp] theorem times_setFate (milestone : Milestone) (ticket : Ticket) (worker : Nat) (fate : Fate)
    (pool : Pool α) :
    (pool.setFate worker fate).times milestone ticket = pool.times milestone ticket := rfl

@[simp] theorem mishaps_setDelivery (mishap : Mishap) (ticket other : Ticket)
    (delivery : Task.Delivery α) (pool : Pool α) :
    (pool.setDelivery other delivery).mishaps mishap ticket = pool.mishaps mishap ticket := rfl

@[simp] theorem times_setDelivery (milestone : Milestone) (ticket other : Ticket)
    (delivery : Task.Delivery α) (pool : Pool α) :
    (pool.setDelivery other delivery).times milestone ticket = pool.times milestone ticket := rfl

theorem mishaps_note (mishap : Mishap) (ticket : Ticket) (what : Note) (pool : Pool α) :
    (pool.note what).mishaps mishap ticket =
      pool.mishaps mishap ticket + isFor (mishap, ticket) what.mishap? := by
  simp [mishaps, note, isFor, List.countP_cons]

theorem queuedTimes_eq_count (ticket : Ticket) (pool : Pool α) :
    pool.queuedTimes ticket = (pool.queued.map Job.ticket).count ticket := by
  rw [queuedTimes, World.total, List.count, List.countP_map, queued, List.countP_flatMap]
  refine congrArg List.sum (List.map_congr_left fun queue _ => ?_)
  exact List.countP_congr fun job _ => by simp

theorem mishaps_dismantle (mishap : Mishap) (ticket : Ticket) (pool : Pool α) :
    pool.dismantle.mishaps mishap ticket =
      pool.mishaps mishap ticket + if mishap = .discarded then pool.queuedTimes ticket else 0 := by
  have told : ((pool.queued.map Job.ticket).map Note.discarded).countP
      (fun note => note.mishap? = some (mishap, ticket)) =
        if mishap = .discarded then pool.queuedTimes ticket else 0 := by
    rw [List.countP_map]
    by_cases discarded : mishap = .discarded
    · subst discarded
      rw [if_pos rfl, queuedTimes_eq_count, List.count]
      exact List.countP_congr fun left _ => by simp [Note.mishap?]
    · rw [if_neg discarded, List.countP_eq_zero]
      intro left _
      simp [Note.mishap?, Ne.symm discarded]
  rw [mishaps, mishaps, dismantle, List.countP_append, List.countP_reverse, told, Nat.add_comm]

theorem Deed.killed_eq (deed : Deed me pool old new later)
    (alive : ∀ held, old ≠ .worker (.perish held)) (ticket : Ticket) :
    later.mishaps .killed ticket = pool.mishaps .killed ticket := by
  cases deed with
  | plain before after plain => exact plain.mishaps_eq _ _
  | deliver | collect => rfl
  | countPanic | countRun => exact (mishaps_note _ _ _ _).trans (by simp [Note.mishap?])
  | perish held => exact absurd rfl (alive held)
  | dismantle => exact mishaps_dismantle _ _ _

theorem Deed.discarded_eq (deed : Deed me pool old new later) (standing : old ≠ .closing .dismantle)
    (ticket : Ticket) : later.mishaps .discarded ticket = pool.mishaps .discarded ticket := by
  cases deed with
  | plain before after plain => exact plain.mishaps_eq _ _
  | deliver | collect => rfl
  | countPanic | countRun => exact (mishaps_note _ _ _ _).trans (by simp [Note.mishap?])
  | perish held =>
      cases held <;> exact (mishaps_note _ _ _ _).trans (by simp [Note.mishap?])
  | dismantle => exact absurd rfl standing

theorem Deed.countP_le (deed : Deed me pool old new later) (counts : Note → Bool) :
    pool.journal.countP counts ≤ later.journal.countP counts := by
  cases deed with
  | plain before after plain =>
      rcases plain.journal with same | ⟨note, _, more⟩
      · rw [same]
      · rw [more]
        exact (List.sublist_cons_self note pool.journal).countP_le
  | deliver | collect => exact Nat.le_refl _
  | countPanic | countRun | perish => exact (List.sublist_cons_self _ _).countP_le
  | dismantle => exact (List.sublist_append_right _ _).countP_le

theorem Step.countP_le (step : Step world after) (counts : Note → Bool) :
    world.shared.journal.countP counts ≤ after.shared.journal.countP counts := by
  rcases step.cases_on_deed with ⟨me, old, new, pool, found, deed, rfl⟩ | ⟨made, rfl⟩ | ⟨signal, rfl⟩
  · exact deed.countP_le counts
  · exact Nat.le_refl _
  · exact Nat.le_refl _

theorem countP_le_of_run (run : Relation.ReflTransGen Step world last) (counts : Note → Bool) :
    world.shared.journal.countP counts ≤ last.shared.journal.countP counts := by
  induction run with
  | refl => exact Nat.le_refl _
  | tail _ step ih => exact Nat.le_trans ih (step.countP_le counts)

/-- The account of a ticket where workers may die. -/
structure Booked (ticket : Ticket) (world : Running α) : Prop where
  decided : total (seeking ticket) world.threads + world.shared.times .accepted ticket +
    world.shared.times .refused ticket = issued ticket world.shared
  stored : world.shared.times .accepted ticket =
    world.shared.queuedTimes ticket + world.shared.times .taken ticket
  ran : world.shared.times .taken ticket =
    total (holding ticket) world.threads + world.shared.ended ticket

/-- An action of a thread that keeps the account. -/
structure Booking (ticket : Ticket) (pool later : Pool α) (old new : Point α) : Prop where
  decided : seeking ticket new + later.times .accepted ticket + later.times .refused ticket +
      issued ticket pool =
    seeking ticket old + pool.times .accepted ticket + pool.times .refused ticket +
      issued ticket later
  stored : later.times .accepted ticket + pool.queuedTimes ticket + pool.times .taken ticket =
    pool.times .accepted ticket + later.queuedTimes ticket + later.times .taken ticket
  ran : later.times .taken ticket + holding ticket old + pool.ended ticket =
    pool.times .taken ticket + holding ticket new + later.ended ticket

theorem Fair.booking (fair : Fair ticket pool later old new)
    (held : holding ticket old = running ticket old) (holds : holding ticket new = running ticket new)
    (killed : later.mishaps .killed ticket = pool.mishaps .killed ticket) :
    Booking ticket pool later old new := by
  have ran := fair.ran
  refine ⟨fair.decided, fair.stored, ?_⟩
  rw [held, holds, ended, ended, killed]
  omega

theorem Point.booking_of_move (idle : pool.Idle) (standing : old ≠ .closing .dismantle)
    (moved : act me old pool = some (new, later) ∨ expire me old pool = some (new, later)) :
    Booking ticket pool later old new := by
  have deed := deed_of_move moved
  rcases change_or_death idle moved with ⟨change, alive⟩ | ⟨held, _, rfl, rfl, quiet⟩ |
    ⟨held, rfl, rfl, rfl⟩
  · exact (change.fair idle fun same => absurd same standing).booking (holding_eq_running alive)
      (holding_eq_running change.not_perish) (deed.killed_eq alive ticket)
  · have fair : Fair ticket pool later (.worker (.deliver held (.error .explosive)))
        (.worker (.countRun held)) := quiet.fair rfl rfl
    have killed := deed.killed_eq nofun ticket
    obtain ⟨decided, stored, ran⟩ := fair.booking rfl rfl killed
    exact ⟨decided, stored, ran⟩
  · have times (milestone : Milestone) :
        ((pool.setFate me .died).note (.perished me held)).times milestone ticket =
          pool.times milestone ticket := times_note _ _ _ _
    have killed : ((pool.setFate me .died).note (.perished me held)).mishaps .killed ticket =
        pool.mishaps .killed ticket + isFor ticket held := by
      rw [mishaps_note]
      cases held with
      | none => rfl
      | some held => simp [Note.mishap?]
    refine ⟨?_, ?_, ?_⟩
    · rw [times, times]
      rfl
    · rw [times, times]
      rfl
    · rw [times, ended, ended, times, killed]
      simp only [holding, Point.holds?, Worker.holds?, Worker.runs?, isFor_none]
      omega

namespace Booked

theorem put (booked : Booked ticket world) (found : world.threads[me]? = some old)
    (booking : Booking ticket world.shared later old new) :
    Booked ticket (world.put me (new, later)) := by
  have seek := World.total_set (seeking ticket) found new
  have hold := World.total_set (holding ticket) found new
  obtain ⟨decided, stored, ran⟩ := booked
  obtain ⟨bookedDecided, bookedStored, bookedRan⟩ := booking
  refine ⟨?_, ?_, ?_⟩
  · simp only [World.put]
    omega
  · simp only [World.put]
    omega
  · simp only [World.put]
    omega

theorem call (booked : Booked ticket world) (made : Call α) :
    Booked ticket (world.spawn (begin made)) := by
  have unseeking : seeking ticket (begin made) = 0 := by cases made <;> rfl
  have resting : holding ticket (begin made) = 0 := by cases made <;> rfl
  refine ⟨?_, booked.stored, ?_⟩
  · rw [World.spawn, World.total_append, unseeking]
    exact booked.decided
  · rw [World.spawn, World.total_append, resting]
    exact booked.ran

theorem start (config : Config) {queue : Queue (Job α)} (empty : queue.toList = []) :
    Booked ticket ⟨initial config queue, List.replicate config.workers (.worker .start)⟩ := by
  have fresh : Accounted ticket
      (⟨initial config queue, List.replicate config.workers (.worker .start)⟩ : Running α) :=
    .start config empty
  obtain ⟨decided, stored, ran⟩ := fresh
  refine ⟨decided, stored, ?_⟩
  rw [World.total_replicate] at ran ⊢
  exact ran

theorem decided_once (booked : Booked ticket world) :
    total (seeking ticket) world.threads + world.shared.times .accepted ticket +
      world.shared.times .refused ticket ≤ 1 := by
  rw [booked.decided]
  exact issued_le ticket world.shared

theorem held_once (booked : Booked ticket world) :
    total (holding ticket) world.threads + world.shared.ended ticket ≤ 1 := by
  have once := booked.decided_once
  have stored := booked.stored
  have ran := booked.ran
  omega

end Booked

/-- The workers of which a closer has seen the end. -/
def Closing.Seen (fates : List Fate) : Closing → Prop
  | .begin | .close _ => True
  | .await worker => ∀ (other : Nat) (fate : Fate), other < worker → fates[other]? = some fate →
      fate ≠ .alive
  | .report | .dismantle | .done => ∀ fate ∈ fates, fate ≠ .alive

theorem Closing.Seen.set {closing : Closing} {fates : List Fate} (seen : closing.Seen fates)
    (worker : Nat) {fate : Fate} (ended : fate ≠ .alive) : closing.Seen (fates.set worker fate) := by
  cases closing with
  | begin | close _ => exact trivial
  | await bound =>
      intro other found before foundOther
      by_cases same : worker = other
      · subst same
        rw [List.getElem?_set_self'] at foundOther
        obtain ⟨_, _, rfl⟩ := Option.map_eq_some_iff.mp foundOther
        exact ended
      · rw [List.getElem?_set_ne same] at foundOther
        exact seen other found before foundOther
  | report | dismantle | done =>
      intro found member
      rcases List.mem_or_eq_of_mem_set member with member | rfl
      · exact seen found member
      · exact ended

theorem Closing.Change.seen {old new : Closing} (change : Change pool old new later)
    (seen : old.Seen pool.fates) : new.Seen pool.fates := by
  cases change with
  | begin | shut => exact trivial
  | await index => exact fun other fate before => absurd before (Nat.not_lt_zero other)
  | @bury worker found | @mourn worker found =>
      intro other fate before foundOther
      rcases Nat.lt_succ_iff_lt_or_eq.mp before with before | rfl
      · exact seen other fate before foundOther
      · rw [found] at foundOther
        cases foundOther
        exact nofun
  | @report worker beyond =>
      intro fate member
      obtain ⟨other, found⟩ := List.mem_iff_getElem?.mp member
      obtain ⟨bound, _⟩ := List.getElem?_eq_some_iff.mp found
      exact seen other fate (Nat.lt_of_lt_of_le bound (List.getElem?_eq_none_iff.mp beyond)) found
  | stop | dismantle => exact seen

theorem Point.Turn.fates_over (turn : Point.Turn me pool old new later) :
    later.fates = pool.fates ∨ ∃ fate, fate ≠ .alive ∧ later.fates = pool.fates.set me fate := by
  cases turn with
  | worker turn =>
      cases turn with
      | deal before engaged dealing => exact .inl dealing.fates_eq
      | leave queues fates => exact .inr ⟨.left, nofun, fates⟩
      | perish ticket queues fates => exact .inr ⟨.died, nofun, fates⟩
      | findClosed | findEmpty => exact .inl rfl
  | submission dealing => exact .inl dealing.fates_eq
  | inquiry dealing => exact .inl dealing.fates_eq
  | closing acted => cases Closing.change_of_act acted <;> exact .inl rfl

/-- No worker is alive, and what was left in the queues has been discarded. -/
structure Over (pool : Pool α) : Prop where
  spent : ∀ queue ∈ pool.queues, queue.Spent
  ended : ∀ fate ∈ pool.fates, fate ≠ .alive

/-- The pool serves, and every ticket is accounted for, or it has been taken down. -/
inductive Era (world : Running α) : Prop where
  | serving (idle : world.shared.Idle)
      (whole : ∀ ticket, world.shared.mishaps .discarded ticket = 0)
      (booked : ∀ ticket, Booked ticket world) : Era world
  | finished (finished : Over world.shared)
      (taken : ∃ closer : ThreadId, world.threads[closer]? = some (.closing .done)) : Era world

theorem Dealing.spent {before next : Option Nat} (dealing : Dealing me pool before next later)
    (spent : ∀ queue ∈ pool.queues, queue.Spent) : ∀ queue ∈ later.queues, queue.Spent := by
  cases dealing with
  | aside queues fates seated =>
      rw [queues]
      exact spent
  | visit found visit queues fates =>
      rw [queues]
      intro queue member
      rcases List.mem_or_eq_of_mem_set member with member | rfl
      · exact spent queue member
      · exact (spent _ (List.mem_of_getElem? found)).visit visit

theorem Over.turn (finished : Over pool) (turn : Point.Turn me pool old new later) : Over later := by
  refine ⟨?_, ?_⟩
  · cases turn with
    | worker turn =>
        cases turn with
        | deal before engaged dealing => exact dealing.spent finished.spent
        | leave queues fates | perish ticket queues fates =>
            rw [queues]
            exact finished.spent
        | findClosed | findEmpty => exact finished.spent
    | submission dealing => exact dealing.spent finished.spent
    | inquiry dealing => exact dealing.spent finished.spent
    | closing acted =>
        cases Closing.change_of_act acted with
        | @shut index queue found =>
            have dealing : Dealing me pool none none (pool.setQueue index queue.close) :=
              .visit found .close rfl rfl
            exact dealing.spent finished.spent
        | dismantle =>
            intro queue member
            obtain ⟨before, listed, rfl⟩ := List.mem_map.mp member
            have spent := finished.spent before listed
            exact Queue.Sound.clear (.inr spent) spent.closed
        | _ => exact finished.spent
  · rcases turn.fates_over with same | ⟨fate, ended, same⟩
    · rw [same]
      exact finished.ended
    · rw [same]
      intro other member
      rcases List.mem_or_eq_of_mem_set member with member | rfl
      · exact finished.ended other member
      · exact ended

/-- The invariant of every run of a pool, with what has been lost in it. -/
structure Recorded (config : Config) (world : Running α) : Prop where
  upheld : Upheld config world
  seen : ∀ (me : ThreadId) (closing : Closing), world.threads[me]? = some (.closing closing) →
    closing.Seen world.shared.fates
  era : Era world

namespace Recorded

theorem start {first : Running α} (opened : start config = .ok first) : Recorded config first := by
  have upheld : Upheld config first := .start opened
  unfold Pool.start at opened
  split at opened
  · cases opened
  · split at opened
    · next queue made =>
      cases opened
      obtain ⟨idle, empty⟩ := Queue.Balanced.ofCapacity made
      refine ⟨upheld, ?_, .serving ?_ (fun _ => rfl) fun _ => .start config empty⟩
      · intro me closing found
        cases List.eq_of_mem_replicate (List.mem_of_getElem? found)
      · intro other member
        rw [List.eq_of_mem_replicate member]
        exact idle
    · cases opened

theorem era_put (recorded : Recorded config world) (found : world.threads[me]? = some old)
    (moved : act me old world.shared = some (new, later) ∨
      expire me old world.shared = some (new, later))
    (turn : Point.Turn me world.shared old new later) : Era (world.put me (new, later)) := by
  cases recorded.era with
  | finished finished taken =>
      obtain ⟨closer, done⟩ := taken
      refine .finished (finished.turn turn) ⟨closer, ?_⟩
      by_cases same : me = closer
      · subst same
        rw [found] at done
        cases done
        rcases moved with acted | expired
        · cases acted
        · cases expired
      · exact (List.getElem?_set_ne same).trans done
  | serving idle whole booked =>
      by_cases standing : old = .closing .dismantle
      · subst standing
        have ended := recorded.seen me .dismantle found
        have closed := recorded.upheld.shut me .dismantle found
        rcases moved with acted | expired
        · cases acted
          refine .finished ⟨?_, ended⟩ ⟨me, World.found_set found⟩
          intro queue member
          obtain ⟨before, listed, rfl⟩ := List.mem_map.mp member
          exact Queue.Sound.clear (.inl (idle before listed)) (closed before listed)
        · cases expired
      · refine .serving ?_ ?_ ?_
        · rcases Point.change_or_death idle moved with ⟨change, _⟩ | ⟨held, _, _, _, quiet⟩ |
            ⟨held, _, _, rfl⟩
          · exact (change.onward idle fun same => absurd same standing).idle
          · exact (Onward.of_queues_eq idle quiet.queues).idle
          · exact idle
        · intro ticket
          exact ((Point.deed_of_move moved).discarded_eq standing ticket).trans (whole ticket)
        · intro ticket
          exact (booked ticket).put found (Point.booking_of_move idle standing moved)

theorem seen_put (recorded : Recorded config world) (found : world.threads[me]? = some old)
    (turn : Point.Turn me world.shared old new later) {other : ThreadId} {closing : Closing}
    (foundOther : (world.put me (new, later)).threads[other]? = some (.closing closing)) :
    closing.Seen later.fates := by
  have kept (closing : Closing) (seen : closing.Seen world.shared.fates) :
      closing.Seen later.fates := by
    rcases turn.fates_over with same | ⟨fate, ended, same⟩
    · rw [same]
      exact seen
    · rw [same]
      exact seen.set me ended
  by_cases same : me = other
  · subst same
    rw [World.put, World.found_set found] at foundOther
    cases foundOther
    cases turn with
    | closing acted =>
        exact kept _ ((Closing.change_of_act acted).seen (recorded.seen me _ found))
  · rw [World.put, List.getElem?_set_ne same] at foundOther
    exact kept _ (recorded.seen other closing foundOther)

theorem step (recorded : Recorded config world) (step : Step world after) :
    Recorded config after := by
  have staffed : 0 < world.shared.queues.length :=
    recorded.upheld.queues ▸ recorded.upheld.positive
  rcases step.cases_on_move with
    ⟨me, old, new, pool, found, moved, rfl⟩ | ⟨made, rfl⟩ | ⟨signal, rfl⟩
  · have turn := Point.turn_of_move staffed moved
    exact ⟨recorded.upheld.put found turn, fun _ _ => recorded.seen_put found turn,
      recorded.era_put found moved turn⟩
  · refine ⟨recorded.upheld.call made, ?_, ?_⟩
    · intro me closing found
      rcases World.found_or_eq_of_append found with found | same
      · exact recorded.seen me closing found
      · cases made with
        | close =>
            cases same
            exact trivial
        | _ => cases same
    · cases recorded.era with
      | finished finished taken =>
          obtain ⟨closer, done⟩ := taken
          exact .finished finished ⟨closer, World.found_append done⟩
      | serving idle whole booked =>
          exact .serving idle whole fun ticket => (booked ticket).call made
  · refine ⟨recorded.upheld.step step, recorded.seen, ?_⟩
    cases recorded.era with
    | finished finished taken => exact .finished ⟨finished.spent, finished.ended⟩ taken
    | serving idle whole booked =>
        exact .serving idle whole fun ticket =>
          ⟨(booked ticket).decided, (booked ticket).stored, (booked ticket).ran⟩

theorem run (recorded : Recorded config world) (run : Relation.ReflTransGen Step world last) :
    Recorded config last := by
  induction run with
  | refl => exact recorded
  | tail _ step ih => exact ih.step step

theorem alive (recorded : Recorded config world) {hand : Worker α}
    (found : world.threads[me]? = some (.worker hand)) (here : hand ≠ .gone) :
    world.shared.fates[me]? = some .alive := by
  obtain ⟨_, fate, _, foundFate, serves⟩ := recorded.upheld.serves me hand found
  rwa [serves.alive here] at foundFate

end Recorded

end Turnstile.Pool
