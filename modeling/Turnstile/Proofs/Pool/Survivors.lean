import Turnstile.Proofs.Pool.Outcomes
import Turnstile.Proofs.Pool.Stranded

/-!
# What survivors run

A worker that has died leaves its queue behind, and nobody else is woken when a job waits
there. A living worker takes such a job if it comes round to the queue before it goes to
sleep: if it is busy, or about to start, or has the queue still ahead of it in its round.
A worker that sleeps until its own queue is closed leaves without another look at the
queues of the others. So what has been accepted when the pool begins to close is run by the
survivors if each job in the queue of a dead worker has somebody who owes it a look; and
the worker that owns a queue owes its jobs a look as long as it lives.
-/

namespace Turnstile

set_option autoImplicit false

theorem Queue.Idle.empty_of_nothing {α : Type} {queue later : Queue α} (idle : queue.Idle)
    (result : queue.tryPop = (.nothing, later)) : queue.toList = [] := by
  unfold Queue.tryPop at result
  split at result
  · next none => exact (Balanced.empty_of_none idle ((Semaphore.take_none_iff _).mp none)).2
  · next fullSlots taken =>
    have paid := Balanced.takeItem idle (Semaphore.toNat_permits_take taken)
    by_contra some
    obtain ⟨item, rest, items⟩ := List.exists_cons_of_ne_nil some
    have holds := paid.holds
    have same : Queue.toList { queue with fullSlots } = item :: rest := items
    rw [same] at holds
    obtain ⟨ring, took, _⟩ := holds.take_cons
    simp only [Queue.loadAll, Queue.load, took] at result
    cases result

namespace Pool

open World (total)
open Turnstile.Task (Ticket Job Delivery Outcome)

variable {α : Type} {me : ThreadId} {pool later : Pool α} {ticket : Ticket} {config : Config}
  {world after first last : Running α} {old new : Point α} {hand next : Worker α}
  {index workers : Nat}

/-- Worker `me` of so many looks into queue `index` before it goes to sleep. -/
inductive Worker.Owes (workers me index : Nat) : Worker α → Prop where
  | start : Owes workers me index .start
  | busy {hand : Worker α} {ticket : Ticket} (runs : hand.runs? = some ticket) :
      Owes workers me index hand
  | look {offset : Nat} (ahead : Nat) (still : offset ≤ ahead) (within : ahead < workers)
      (reaches : (me + ahead) % workers = index) : Owes workers me index (.look offset)

/-- Worker `me` looks into queue `index` before it leaves. -/
inductive Worker.Minds (workers me index : Nat) : Worker α → Prop where
  | owes {hand : Worker α} (owes : hand.Owes workers me index) : Minds workers me index hand
  | own {hand : Worker α} (own : me = index) (here : hand ≠ .gone)
      (alive : ∀ held, hand ≠ .perish held) : Minds workers me index hand

theorem Worker.Owes.round {me : Nat} (hired : me < workers) (bound : index < workers) :
    (Worker.look 0 : Worker α).Owes workers me index := by
  by_cases beyond : me ≤ index
  · refine .look (index - me) (Nat.zero_le _) (by omega) ?_
    rw [Nat.add_sub_cancel' beyond, Nat.mod_eq_of_lt bound]
  · refine .look (index + workers - me) (Nat.zero_le _) (by omega) ?_
    rw [show me + (index + workers - me) = index + workers by omega, Nat.add_mod_right,
      Nat.mod_eq_of_lt bound]

theorem Worker.Change.busy (change : Worker.Change me pool hand next later)
    (runs : hand.runs? = some ticket) : next.runs? = some ticket ∨ next = .look 0 := by
  cases change with
  | start => cases runs
  | take roams =>
      rw [roams.runs_nothing.1] at runs
      cases runs
  | miss roams =>
      rw [roams.runs_nothing.1] at runs
      cases runs
  | resume before =>
      rcases before with roams | rfl
      · rw [roams.runs_nothing.1] at runs
        cases runs
      · cases runs
  | findClosed | findEmpty | leave => cases runs
  | work held still =>
      rw [held] at runs
      exact .inl (still.trans runs)
  | post | submit => exact .inl runs
  | finish => exact .inr rfl

theorem Worker.owes_of_look {offset ahead : Nat} (idle : pool.Idle) (still : offset ≤ ahead)
    (within : ahead < pool.queues.length) (reaches : (me + ahead) % pool.queues.length = index)
    (acted : act me (.look offset) pool = some (next, later))
    (full : ∀ queue, pool.queues[index]? = some queue → queue.toList ≠ []) :
    next.Owes pool.queues.length me index ∨ ∃ held, next = .perish held := by
  have inside : offset < pool.queues.length := Nat.lt_of_le_of_lt still within
  simp only [act, inside, if_true, Option.map_eq_some_iff] at acted
  obtain ⟨queue, found, acted⟩ := acted
  cases result : queue.tryPop with
  | mk answer after =>
      rw [result] at acted
      cases answer with
      | item job =>
          cases acted
          refine .inl ?_
          split
          · exact .busy rfl
          · exact .busy rfl
      | nothing =>
          cases acted
          have passed : offset ≠ ahead := by
            rintro rfl
            exact full queue (reaches ▸ found) ((idle.of_found found).empty_of_nothing result)
          exact .inl (.look ahead (by omega) within reaches)
      | fault fault =>
          cases acted
          exact .inr ⟨none, rfl⟩

theorem Worker.Owes.move (owes : hand.Owes pool.queues.length me index) (idle : pool.Idle)
    (hired : me < pool.queues.length) (bound : index < pool.queues.length)
    (moved : Pool.act me (.worker hand) pool = some (.worker next, later) ∨
      Pool.expire me (.worker hand) pool = some (.worker next, later))
    (full : ∀ queue, pool.queues[index]? = some queue → queue.toList ≠ []) :
    next.Owes pool.queues.length me index ∨ ∃ held, next = .perish held := by
  cases owes with
  | start =>
      rcases moved with acted | expired
      · cases acted
        exact .inl (.round hired bound)
      · cases expired
  | busy runs =>
      rcases Point.change_or_death idle moved with
        ⟨change, _⟩ | ⟨held, _, _, same, _⟩ | ⟨held, same, _⟩
      · cases change with
        | worker change =>
            rcases change.busy runs with still | rfl
            · exact .inl (.busy still)
            · exact .inl (.round hired bound)
      · cases same
        exact .inr ⟨some held, rfl⟩
      · cases same
        cases runs
  | look ahead still within reaches =>
      rcases moved with acted | expired
      · rw [Pool.act, Option.map_eq_some_iff] at acted
        obtain ⟨⟨_, _⟩, acted, same⟩ := acted
        cases same
        exact owes_of_look idle still within reaches acted full
      · cases expired

theorem Worker.Minds.move (minds : hand.Minds pool.queues.length me index) (idle : pool.Idle)
    (hired : me < pool.queues.length) (bound : index < pool.queues.length)
    (moved : Pool.act me (.worker hand) pool = some (.worker next, later) ∨
      Pool.expire me (.worker hand) pool = some (.worker next, later))
    (emptied : hand = .leave → ∀ queue, pool.queues[me]? = some queue → queue.toList = [])
    (full : ∀ queue, pool.queues[index]? = some queue → queue.toList ≠ []) :
    next.Minds pool.queues.length me index ∨ ∃ held, next = .perish held := by
  by_cases perishes : ∃ held, next = .perish held
  · exact .inr perishes
  have alive (held : Option Ticket) : next ≠ .perish held := fun same => perishes ⟨held, same⟩
  refine .inl ?_
  cases minds with
  | own own here living =>
      have turn := Point.turn_of_move (Nat.lt_of_le_of_lt (Nat.zero_le _) hired) moved
      cases turn with
      | worker turn =>
          cases turn with
          | deal before engaged dealing =>
              refine .own own ?_ alive
              rintro rfl
              exact engaged
          | findClosed | findEmpty => exact .own own nofun nofun
          | leave =>
              subst own
              have found := List.getElem?_eq_getElem bound
              exact absurd (emptied rfl _ found) (full _ found)
          | perish held => exact absurd rfl (living held)
  | owes owes => exact .owes ((owes.move idle hired bound moved full).resolve_right perishes)

/-- No queue holds the job of a ticket more often than before. -/
def Dwindles (ticket : Ticket) (pool later : Pool α) : Prop :=
  ∀ (index : Nat) (after : Queue (Job α)), later.queues[index]? = some after →
    ∃ queue, pool.queues[index]? = some queue ∧ copies ticket after ≤ copies ticket queue

namespace Dwindles

variable {queue after : Queue (Job α)} {job : Job α}

theorem of_eq (same : later.queues = pool.queues) : Dwindles ticket pool later :=
  fun _ after found => ⟨after, same ▸ found, Nat.le_refl _⟩

theorem of_set (found : pool.queues[index]? = some queue)
    (fewer : copies ticket after ≤ copies ticket queue) :
    Dwindles ticket pool (pool.setQueue index after) := by
  intro other visited foundOther
  by_cases same : index = other
  · subst same
    rw [setQueue, World.found_set found] at foundOther
    cases foundOther
    exact ⟨queue, found, fewer⟩
  · rw [setQueue, List.getElem?_set_ne same] at foundOther
    exact ⟨visited, foundOther, Nat.le_refl _⟩

theorem of_items (found : pool.queues[index]? = some queue) (items : after.toList = queue.toList) :
    Dwindles ticket pool (pool.setQueue index after) :=
  of_set found (by rw [copies, copies, items])

theorem of_loads (found : pool.queues[index]? = some queue) (loads : Queue.Loads job queue after) :
    Dwindles ticket pool (pool.setQueue index after) := by
  refine of_set found ?_
  rw [copies, copies, loads.items]
  exact (List.sublist_cons_self job after.toList).countP_le

end Dwindles

theorem Submission.Change.dwindles {old new : Submission α} (change : Change pool old new later)
    (apart : seeking ticket (.submission old) = 0) : Dwindles ticket pool later := by
  cases change with
  | issue fresh seeks queues => exact .of_eq queues
  | seek seeks still quiet => exact .of_eq quiet.queues
  | misaim | count => exact .of_eq rfl
  | retry seeks still found retains => exact .of_items found retains.items
  | turnAway seeks found retains => exact .of_items found retains.items
  | @store _ job index queue after seeks found stores =>
      rw [seeking_of_seeks seeks] at apart
      have other : job.ticket ≠ ticket := by
        rintro rfl
        simp [isFor] at apart
      have fewer : copies ticket after ≤ copies ticket queue := by
        rw [copies, copies, stores.items, List.countP_append, List.countP_singleton]
        simp [other]
      exact Dwindles.of_set found fewer

theorem Point.Change.dwindles (change : Point.Change me pool old new later) (idle : pool.Idle)
    (apart : seeking ticket old = 0) (standing : old ≠ .closing .dismantle) :
    Dwindles ticket pool later := by
  cases change with
  | worker change =>
      cases change with
      | take roams runs quiet found loads => exact Dwindles.of_loads found loads
      | miss roams still found retains => exact Dwindles.of_items found retains.items
      | work runs still before after quiet => exact .of_eq quiet.queues
      | submit frame change => exact change.dwindles apart
      | start | resume | findClosed | findEmpty | post | finish | leave => exact .of_eq rfl
  | submission change => exact change.dwindles apart
  | inquiry quiet => exact .of_eq quiet.queues
  | closing change =>
      cases change with
      | shut found => exact .of_items found (idle.of_found found).close.items
      | dismantle => exact absurd rfl standing
      | begin | await | bury | mourn | report | stop => exact .of_eq rfl

theorem Point.dwindles_of_move (idle : pool.Idle) (apart : seeking ticket old = 0)
    (standing : old ≠ .closing .dismantle)
    (moved : act me old pool = some (new, later) ∨ expire me old pool = some (new, later)) :
    Dwindles ticket pool later := by
  rcases change_or_death idle moved with ⟨change, _⟩ | ⟨held, _, _, _, quiet⟩ | ⟨held, _, _, rfl⟩
  · exact change.dwindles idle apart standing
  · exact .of_eq quiet.queues
  · exact .of_eq rfl

/-- The job of a ticket lies only in queues that somebody minds. -/
def Watched (ticket : Ticket) (world : Running α) : Prop :=
  ∀ (index : Nat) (queue : Queue (Job α)), world.shared.queues[index]? = some queue →
    0 < copies ticket queue →
    ∃ (me : ThreadId) (hand : Worker α), world.threads[me]? = some (.worker hand) ∧
      hand.Minds world.shared.queues.length me index

/-- What becomes of an accepted job while no worker dies. -/
inductive Safe (ticket : Ticket) (world : Running α) : Prop where
  /-- A worker is about to die, which it does only by dying. -/
  | doomed {me : ThreadId} {held : Option Ticket}
      (found : world.threads[me]? = some (.worker (.perish held))) : Safe ticket world
  | watched (booked : Booked ticket world)
      (whole : world.shared.mishaps .discarded ticket = 0) (watched : Watched ticket world) :
      Safe ticket world
  | past (ran : 0 < world.shared.ended ticket)
      (whole : world.shared.mishaps .discarded ticket = 0) : Safe ticket world

theorem toList_ne_nil_of_copies {queue : Queue (Job α)} (some : 0 < copies ticket queue) :
    queue.toList ≠ [] := by
  intro empty
  rw [copies, empty] at some
  exact absurd some (Nat.lt_irrefl 0)

theorem Worker.Minds.not_gone (minds : hand.Minds workers me index) : hand ≠ .gone := by
  rintro rfl
  cases minds with
  | own own here => exact here rfl
  | owes owes =>
      cases owes with
      | busy runs => cases runs

namespace Recorded

variable (recorded : Recorded config world)

include recorded in
theorem hired (found : world.threads[me]? = some (.worker hand)) :
    me < world.shared.queues.length := by
  obtain ⟨queue, _, foundQueue, _⟩ := recorded.upheld.serves me hand found
  exact (List.getElem?_eq_some_iff.mp foundQueue).1

include recorded in
theorem emptied (found : world.threads[me]? = some (.worker hand)) (leaves : hand = .leave)
    (own : Queue (Job α)) (foundOwn : world.shared.queues[me]? = some own) : own.toList = [] := by
  subst leaves
  obtain ⟨_, _, foundSame, _, serves⟩ := recorded.upheld.serves me _ found
  rw [foundOwn] at foundSame
  cases foundSame
  exact serves.2.2

include recorded in
theorem ran_of_ended (ended : ∀ fate ∈ world.shared.fates, fate ≠ .alive)
    (booked : Booked ticket world) (accepted : Accepted ticket world)
    (watched : Watched ticket world) : 0 < world.shared.ended ticket := by
  have gone {me : ThreadId} {hand : Worker α}
      (found : world.threads[me]? = some (.worker hand)) : hand = .gone := by
    by_contra here
    exact ended .alive (List.mem_of_getElem? (recorded.alive found here)) rfl
  have unqueued : world.shared.queuedTimes ticket = 0 := by
    refine World.total_eq_zero fun index queue found => ?_
    by_contra some
    obtain ⟨me, hand, foundHand, minds⟩ := watched index queue found (Nat.pos_of_ne_zero some)
    exact minds.not_gone (gone foundHand)
  have unheld : total (holding ticket) world.threads = 0 := by
    refine World.total_eq_zero fun me point found => ?_
    cases point with
    | worker hand =>
        obtain rfl := gone found
        rfl
    | _ => rfl
  have stored := booked.stored
  have ran := booked.ran
  unfold Accepted at accepted
  omega

include recorded in
theorem unqueued_of_ran (ran : 0 < world.shared.ended ticket) :
    world.shared.queuedTimes ticket = 0 := by
  cases recorded.era with
  | finished finished _ => exact queuedTimes_eq_zero ticket fun queue member => (finished.spent queue member).empty.toList_eq
  | serving idle whole booked =>
      have once := (booked ticket).decided_once
      have stored := (booked ticket).stored
      have taken := (booked ticket).ran
      omega

end Recorded

/-- A step in which no worker dies. -/
structure Spared (world after : Running α) : Prop where
  step : Step world after
  kept : ∀ worker : Nat, after.shared.fates[worker]? = some .died →
    world.shared.fates[worker]? = some .died

namespace Safe

variable (recorded : Recorded config world)

include recorded in
theorem past_step (ran : 0 < world.shared.ended ticket)
    (whole : world.shared.mishaps .discarded ticket = 0) (step : Step world after) :
    Safe ticket after := by
  have still : world.shared.ended ticket ≤ after.shared.ended ticket :=
    Nat.add_le_add (step.countP_le _) (step.countP_le _)
  refine .past (Nat.lt_of_lt_of_le ran still) ?_
  rcases step.cases_on_deed with ⟨me, old, new, pool, _, deed, rfl⟩ | ⟨made, rfl⟩ | ⟨signal, rfl⟩
  · by_cases standing : old = .closing .dismantle
    · subst standing
      cases deed with
      | plain before after plain => exact (plain.mishaps_eq _ _).trans whole
      | dismantle =>
          simp only [World.put]
          rw [mishaps_dismantle, recorded.unqueued_of_ran ran, whole]
          rfl
    · exact (deed.discarded_eq standing ticket).trans whole
  · exact whole
  · exact whole

include recorded in
theorem doomed_step {held : Option Ticket}
    (found : world.threads[me]? = some (.worker (.perish held))) (spared : Spared world after) :
    Safe ticket after := by
  rcases spared.step.cases_on_move with
    ⟨other, old, new, pool, foundOther, moved, rfl⟩ | ⟨made, rfl⟩ | ⟨signal, rfl⟩
  · by_cases same : other = me
    · subst same
      rw [found] at foundOther
      cases foundOther
      obtain ⟨_, fate, _, foundFate, serves⟩ := recorded.upheld.serves other _ found
      obtain rfl := serves.alive nofun
      rcases moved with acted | expired
      · cases acted
        have died := spared.kept other (World.found_set foundFate)
        rw [foundFate] at died
        cases died
      · cases expired
    · exact .doomed ((List.getElem?_set_ne same).trans found)
  · exact .doomed (World.found_append found)
  · exact .doomed found

include recorded in
theorem watched_put (accepted : Accepted ticket world) (idle : world.shared.Idle)
    (booked : Booked ticket world) (whole : world.shared.mishaps .discarded ticket = 0)
    (watched : Watched ticket world) (found : world.threads[me]? = some old)
    (standing : old ≠ .closing .dismantle)
    (moved : act me old world.shared = some (new, later) ∨
      expire me old world.shared = some (new, later)) :
    Safe ticket (world.put me (new, later)) := by
  by_cases doomed : ∃ held, new = .worker (.perish held)
  · obtain ⟨held, rfl⟩ := doomed
    exact .doomed (World.found_set found)
  have turn := Point.turn_of_move
    (recorded.upheld.queues ▸ recorded.upheld.positive : 0 < world.shared.queues.length) moved
  have sameLength : later.queues.length = world.shared.queues.length :=
    (recorded.upheld.put found turn).queues.trans recorded.upheld.queues.symm
  have apart : seeking ticket old = 0 := by
    have once := booked.decided_once
    have seeks := World.weight_le_total (seeking ticket) found
    unfold Accepted at accepted
    omega
  have discarded := (Point.deed_of_move moved).discarded_eq standing ticket
  refine .watched (booked.put found (Point.booking_of_move idle standing moved))
    (discarded.trans whole) ?_
  intro index after foundAfter left
  obtain ⟨queue, foundQueue, fewer⟩ :=
    Point.dwindles_of_move idle apart standing moved index after foundAfter
  have before : 0 < copies ticket queue := Nat.lt_of_lt_of_le left fewer
  obtain ⟨other, hand, foundHand, minds⟩ := watched index queue foundQueue before
  rw [World.put, sameLength]
  by_cases same : me = other
  · subst same
    rw [found] at foundHand
    cases foundHand
    cases turn with
    | @worker _ next _ turn =>
        refine ⟨me, next, World.found_set found, ?_⟩
        have full (other : Queue (Job α))
            (foundOther : world.shared.queues[index]? = some other) : other.toList ≠ [] := by
          rw [foundQueue] at foundOther
          cases foundOther
          exact toList_ne_nil_of_copies before
        have bound := (List.getElem?_eq_some_iff.mp foundQueue).1
        rcases minds.move idle (recorded.hired found) bound moved
          (recorded.emptied found) full with still | ⟨held, rfl⟩
        · exact still
        · exact absurd ⟨held, rfl⟩ doomed
  · exact ⟨other, hand, (List.getElem?_set_ne same).trans foundHand, minds⟩

include recorded in
theorem step (accepted : Accepted ticket world) (safe : Safe ticket world)
    (spared : Spared world after) : Safe ticket after := by
  cases safe with
  | doomed found => exact doomed_step recorded found spared
  | past ran whole => exact past_step recorded ran whole spared.step
  | watched booked whole watched =>
      have ended_step (ended : ∀ fate ∈ world.shared.fates, fate ≠ .alive) : Safe ticket after :=
        past_step recorded (recorded.ran_of_ended ended booked accepted watched) whole spared.step
      cases recorded.era with
      | finished finished _ => exact ended_step finished.ended
      | serving idle _ _ =>
          rcases spared.step.cases_on_move with
            ⟨me, old, new, pool, found, moved, rfl⟩ | ⟨made, rfl⟩ | ⟨signal, rfl⟩
          · by_cases standing : old = .closing .dismantle
            · subst standing
              exact ended_step (recorded.seen me .dismantle found)
            · exact watched_put recorded accepted idle booked whole watched found standing moved
          · refine .watched (booked.call made) whole ?_
            intro index queue foundQueue some
            obtain ⟨me, hand, found, minds⟩ := watched index queue foundQueue some
            exact ⟨me, hand, World.found_append found, minds⟩
          · exact .watched ⟨booked.decided, booked.stored, booked.ran⟩ whole watched

theorem of_covered {config : Config} (recorded : Recorded config world)
    (standing : ∀ me : ThreadId, world.threads[me]? ≠ some (.closing .done))
    (covered : ∀ (index : Nat) (queue : Queue (Job α)), world.shared.queues[index]? = some queue →
      world.shared.fates[index]? = some .died → queue.toList ≠ [] →
      ∃ (me : ThreadId) (hand : Worker α), world.threads[me]? = some (.worker hand) ∧
        hand.Owes config.workers me index) (ticket : Ticket) : Safe ticket world := by
  by_cases doomed : ∃ (me : ThreadId) (held : Option Ticket),
      world.threads[me]? = some (.worker (.perish held))
  · obtain ⟨me, held, found⟩ := doomed
    exact .doomed found
  cases recorded.era with
  | finished _ taken =>
      obtain ⟨closer, done⟩ := taken
      exact absurd done (standing closer)
  | serving idle whole booked =>
      refine .watched (booked ticket) (whole ticket) ?_
      intro index queue found holds
      have full := toList_ne_nil_of_copies holds
      have bound := (List.getElem?_eq_some_iff.mp found).1
      obtain ⟨hand, foundHand⟩ := recorded.upheld.hired index (recorded.upheld.queues ▸ bound)
      obtain ⟨_, fate, foundSame, foundFate, serves⟩ := recorded.upheld.serves index hand foundHand
      rw [found] at foundSame
      cases foundSame
      rw [recorded.upheld.queues]
      by_cases gone : hand = .gone
      · subst gone
        rcases serves with rfl | ⟨_, _, empty⟩
        · obtain ⟨me, other, foundOther, owes⟩ := covered index queue found foundFate full
          exact ⟨me, other, foundOther, .owes owes⟩
        · exact absurd empty full
      · exact ⟨index, hand, foundHand, .own rfl gone fun held same =>
          doomed ⟨index, held, same ▸ foundHand⟩⟩

theorem run {config : Config} (recorded : Recorded config world) (accepted : Accepted ticket world)
    (safe : Safe ticket world) (onward : Relation.ReflTransGen Spared world last) :
    Recorded config last ∧ Accepted ticket last ∧ Safe ticket last := by
  induction onward with
  | refl => exact ⟨recorded, accepted, safe⟩
  | tail _ spared ih =>
      obtain ⟨recorded, accepted, safe⟩ := ih
      exact ⟨recorded.step spared.step, Nat.lt_of_lt_of_le accepted (spared.step.countP_le _),
        safe.step recorded accepted spared⟩

end Safe

/-- Whoever calls an open pool whenever and however often, whatever the tasks do, and however
the actions of all threads interleave: let there be workers that have died, and let each of
their queues that holds a job have somebody who owes it a look, a worker that is busy, or
about to start, or has that queue still ahead of it in its round. If from then on no worker
dies, then whenever a call that closes the pool returns, the body of every job accepted until
then has been run once, to its end and by its text, and no such job was discarded; and as long
as nobody has collected its outcome, nobody who asks is told that it was abandoned. -/
theorem drained_by_survivors (config : Config) (first world last : Running α)
    (opened : start config = .ok first) (run : Relation.ReflTransGen Step first world)
    (standing : ∀ me : ThreadId, world.threads[me]? ≠ some (.closing .done))
    (covered : ∀ (index : Nat) (queue : Queue (Job α)), world.shared.queues[index]? = some queue →
      world.shared.fates[index]? = some .died → queue.toList ≠ [] →
      ∃ (me : ThreadId) (hand : Worker α), world.threads[me]? = some (.worker hand) ∧
        hand.Owes config.workers me index)
    (onward : Relation.ReflTransGen Spared world last) (closer : ThreadId)
    (closed : last.threads[closer]? = some (.closing .done)) (ticket : Ticket)
    (accepted : Accepted ticket world) :
    last.shared.ended ticket = 1 ∧
      (∀ history, Chronicle first last history → HasRun config ticket last history) ∧
      last.shared.mishaps .discarded ticket = 0 ∧
      (∀ asked, Relation.ReflTransGen (Uncollected ticket) first asked →
        Relation.ReflTransGen Step asked last → ¬ Told ticket asked (some (.error .abandoned))) ∧
      (Relation.ReflTransGen (Uncollected ticket) first last →
        ∃ outcome, Told ticket last (some outcome) ∧ outcome ≠ .error .abandoned) := by
  have recordedFirst : Recorded config first := .start opened
  have recordedWorld := recordedFirst.run run
  obtain ⟨recorded, accepted, safe⟩ :=
    (Safe.of_covered recordedWorld standing covered ticket).run recordedWorld accepted onward
  have whole : Relation.ReflTransGen Step first last :=
    run.trans (Relation.ReflTransGen.mono (fun _ _ spared => Spared.step spared) _ _ onward)
  have fresh := sent_start opened ticket
  have finished : ∀ fate ∈ last.shared.fates, fate ≠ .alive := recorded.seen closer .done closed
  have ran : 0 < last.shared.ended ticket ∧ last.shared.mishaps .discarded ticket = 0 := by
    cases safe with
    | doomed found => exact absurd rfl (finished _ (List.mem_of_getElem? (recorded.alive found nofun)))
    | watched booked kept watched => exact ⟨recorded.ran_of_ended finished booked accepted watched, kept⟩
    | past ran kept => exact ⟨ran, kept⟩
  have once := recordedFirst.sent_le_one whole (fresh.trans_le (Nat.zero_le 1))
  have sentOnce : last.shared.ended ticket ≤ sent ticket last := Nat.le_add_left _ _
  have told (asked : Running α) (before : Relation.ReflTransGen (Uncollected ticket) first asked)
      (after : Relation.ReflTransGen Step asked last) :
      asked.shared.deliveries[ticket]? ≠ some .closed := by
    intro gone
    have lost := discarded_of_closed opened before gone
    have still : _ ≤ last.shared.mishaps .discarded ticket := countP_le_of_run after _
    exact absurd (Nat.lt_of_lt_of_le lost still) (by omega)
  refine ⟨by omega, ?_, ran.2, ?_, ?_⟩
  · intro history chronicle
    have ended := (Closed.of_chronicle opened chronicle ticket).ended
    exact (Truthful.of_chronicle opened chronicle).hasRun (by omega)
  · intro asked before after abandoned
    obtain ⟨delivery, found, collected⟩ := told_iff.mp abandoned
    cases delivery with
    | pending => cases collected
    | closed => exact told asked before after found
    | ready outcome =>
        exact ready_ne_abandoned opened (Uncollected.run before) found (Option.some.inj collected)
  · intro uncollected
    obtain ⟨delivery, found, settled⟩ :=
      recordedFirst.delivered_of_sent whole fresh (Nat.lt_of_lt_of_le ran.1 sentOnce)
    cases delivery with
    | pending => exact absurd rfl settled
    | closed => exact absurd found (told last uncollected .refl)
    | ready outcome =>
        exact ⟨outcome, told_iff.mpr ⟨_, found, rfl⟩, ready_ne_abandoned opened whole found⟩

/-- Whether a step leaves every worker alive that was alive before it. -/
def spares (world after : Running α) : Bool :=
  (List.range after.shared.fates.length).all fun worker =>
    after.shared.fates[worker]? ≠ some .died ∨ world.shared.fates[worker]? = some .died

theorem spared_of_spares (step : Step world after) (spares : spares world after = true) :
    Spared world after := by
  refine ⟨step, fun worker died => ?_⟩
  obtain ⟨bound, _⟩ := List.getElem?_eq_some_iff.mp died
  have kept := List.all_eq_true.mp spares worker (List.mem_range.mpr bound)
  simp only [died, ne_eq, not_true_eq_false, false_or, decide_eq_true_eq] at kept
  exact kept

/-- Threads 2 and 3 submit tasks to the first of two workers. The first of the tasks ends it. -/
def assigned : Running Unit :=
  (twinOpened.spawn (begin (.submitTo 0 [.panic .explosive]))).spawn (begin (.submitTo 0 []))

def dying : List ThreadId := List.replicate 3 2 ++ List.replicate 5 0 ++ List.replicate 3 3

def orphaned : Running Unit :=
  (perform? (fun world after => !collects 1 world after) dying assigned).getD assigned

/-- Thread 4 closes the pool, and worker 1 goes round before it leaves. -/
def rescue : List ThreadId := List.replicate 5 4 ++ List.replicate 14 1 ++ List.replicate 4 4

def rescued : Running Unit :=
  (perform? spares rescue (orphaned.spawn (begin .close))).getD orphaned

private theorem run_to_assigned :
    Relation.ReflTransGen (Uncollected 1) twinOpened assigned :=
  .tail (.tail .refl (uncollected_of_collects (.call (.submitTo 0 [.panic .explosive])) rfl))
    (uncollected_of_collects (.call (.submitTo 0 [])) rfl)

private theorem run_to_orphaned : Relation.ReflTransGen (Uncollected 1) twinOpened orphaned :=
  run_to_assigned.trans (reached_of_perform uncollected_of_collects dying rfl)

private theorem orphaned_to_rescued : Relation.ReflTransGen Spared orphaned rescued :=
  .head (spared_of_spares (.call .close) rfl) (reached_of_perform spared_of_spares rescue rfl)

private theorem run_to_rescued : Relation.ReflTransGen (Uncollected 1) twinOpened rescued :=
  (run_to_orphaned.tail (uncollected_of_collects (.call .close) rfl)).trans
    (reached_of_perform uncollected_of_collects rescue rfl)

/-- Worker 1, which has yet to start, runs what worker 0 left behind. -/
theorem rescued_has_run :
    orphaned.shared.fates = [.died, .alive] ∧ orphaned.shared.queues.map Queue.len = [1, 0] ∧
      rescued.shared.ended 1 = 1 ∧
      (∃ history, Chronicle twinOpened rescued history ∧ HasRun twin 1 rescued history) ∧
      ∃ outcome, Told 1 rescued (some outcome) ∧ outcome ≠ .error .abandoned := by
  have covered (index : Nat) (queue : Queue (Job Unit))
      (_ : orphaned.shared.queues[index]? = some queue)
      (died : orphaned.shared.fates[index]? = some .died) (_ : queue.toList ≠ []) :
      ∃ (me : ThreadId) (hand : Worker Unit), orphaned.threads[me]? = some (.worker hand) ∧
        hand.Owes twin.workers me index := ⟨1, .start, rfl, .start⟩
  have standing (me : ThreadId) : orphaned.threads[me]? ≠ some (.closing .done) := by
    match me with
    | 0 | 1 | 2 | 3 | _ + 4 => exact nofun
  obtain ⟨ran, byText, _, _, told⟩ := drained_by_survivors twin twinOpened orphaned rescued start_twin
    (Uncollected.run run_to_orphaned) standing covered orphaned_to_rescued 4 rfl 1 (by decide)
  obtain ⟨history, chronicle⟩ := Chronicle.exists_of_run (Uncollected.run run_to_rescued)
  exact ⟨rfl, rfl, ran, ⟨history, chronicle, byText history chronicle⟩, told run_to_rescued⟩

/-- Worker 1 has gone to sleep before anything is submitted. -/
def bereft : Running Unit :=
  (perform? (fun world after => !collects 1 world after) (List.replicate 5 1 ++ dying)
    assigned).getD assigned

def desertion : List ThreadId := List.replicate 5 4 ++ List.replicate 4 1 ++ List.replicate 4 4

def deserted : Running Unit :=
  (perform? spares desertion (bereft.spawn (begin .close))).getD bereft

/-- A worker that sleeps when the closing begins leaves without another look: the job that a
dead worker left behind is discarded, though it was accepted and a worker is alive, and the
first who asks for its outcome is told that it was abandoned. -/
theorem deserted_leaves_a_job :
    start twin = .ok twinOpened ∧ Relation.ReflTransGen (Uncollected 1) twinOpened bereft ∧
      Accepted 1 bereft ∧ bereft.shared.fates = [.died, .alive] ∧
      Relation.ReflTransGen Spared (bereft.spawn (begin .close)) deserted ∧
      Relation.ReflTransGen (Uncollected 1) (bereft.spawn (begin .close)) deserted ∧
      deserted.threads[4]? = some (.closing .done) ∧ deserted.shared.ended 1 = 0 ∧
      Told 1 deserted (some (.error .abandoned)) := by
  refine ⟨start_twin, ?_, by decide, rfl, ?_, ?_, rfl, by decide, ?_⟩
  · exact run_to_assigned.trans
      (reached_of_perform uncollected_of_collects (List.replicate 5 1 ++ dying) rfl)
  · exact reached_of_perform spared_of_spares desertion rfl
  · exact reached_of_perform uncollected_of_collects desertion rfl
  · exact told_iff.mpr ⟨.closed, rfl, rfl⟩

end Pool

end Turnstile
