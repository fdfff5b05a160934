import Mathlib.Logic.Relation
import Turnstile.Proofs.Pool.Turns

/-!
# What a thread of a pool leaves on record

One action of a thread of a pool, whatever the bodies throw, sorted by what it writes
into the journal, what it counts, and what it does to the deliveries. All but six kinds
of action are `Plain`: they count no run and no panic, lose no job, and touch no delivery
but to issue a new one. A job has run when it is noted as finished, or when its worker
has died of it.
-/

namespace Turnstile.Pool

set_option autoImplicit false

open World (total)
open Turnstile.Task (Ticket Job Delivery)

variable {α : Type} {me : ThreadId} {pool later : Pool α} {ticket : Ticket}
  {world after : Running α} {old new : Point α}

inductive Mishap where
  /-- It panicked, and its worker went on. -/
  | panicked
  /-- Its worker died of it. -/
  | killed
  /-- It was discarded without having run. -/
  | discarded
  deriving DecidableEq, Repr

/-- The mishap that a note tells of, and the ticket of the job. -/
def Note.mishap? : Note → Option (Mishap × Ticket)
  | .panicked _ ticket _ => some (.panicked, ticket)
  | .perished _ (some ticket) => some (.killed, ticket)
  | .discarded ticket => some (.discarded, ticket)
  | _ => none

/-- How often a mishap has befallen the job of a ticket. -/
def mishaps (mishap : Mishap) (ticket : Ticket) (pool : Pool α) : Nat :=
  pool.journal.countP fun note => note.mishap? = some (mishap, ticket)

/-- How often the job of a ticket has run. -/
def ended (ticket : Ticket) (pool : Pool α) : Nat :=
  pool.times .finished ticket + pool.mishaps .killed ticket

/-- A note that tells neither of the end of a job nor of a mishap. -/
def Note.isPlain : Note → Bool
  | .finished _ _ | .panicked _ _ _ | .perished _ _ | .discarded _ => false
  | _ => true

/-- The ticket of the job that a worker has done, until that is noted. -/
def Worker.settles? : Worker α → Option Ticket
  | .countPanic ticket _ | .countRun ticket => some ticket
  | .perish ticket => ticket
  | _ => none

def Point.settles? : Point α → Option Ticket
  | .worker hand => hand.settles?
  | .submission _ | .inquiry _ | .closing _ => none

structure Plain (pool later : Pool α) : Prop where
  panicked : later.counters.panicked = pool.counters.panicked
  executed : later.counters.executed = pool.counters.executed
  journal : later.journal = pool.journal ∨
    ∃ note : Note, note.isPlain = true ∧ later.journal = note :: pool.journal
  deliveries : later.deliveries = pool.deliveries ∨
    later.deliveries = pool.deliveries ++ [.pending]

inductive Deed (me : ThreadId) (pool : Pool α) : Point α → Point α → Pool α → Prop where
  | plain {old new : Point α} {later : Pool α} (before : old.settles? = none)
      (after : new.settles? = none) (plain : Plain pool later) : Deed me pool old new later
  | deliver (ticket : Ticket) (ending : Ending α) :
      Deed me pool (.worker (.deliver ticket ending))
        (.worker (Worker.afterDelivery ticket (pool.isForgone ticket) ending))
        (pool.setDelivery ticket (.ready (Worker.outcome ending)))
  | countPanic (ticket : Ticket) (message : String) :
      Deed me pool (.worker (.countPanic ticket message)) (.worker (.countRun ticket))
        ((pool.count .countPanicked).note (.panicked me ticket message))
  | countRun (ticket : Ticket) :
      Deed me pool (.worker (.countRun ticket)) (.worker (.look 0))
        ((pool.count .countExecuted).note (.finished me ticket))
  | perish (ticket : Option Ticket) :
      Deed me pool (.worker (.perish ticket)) (.worker .gone)
        ((pool.setFate me .died).note (.perished me ticket))
  | collect {old new : Inquiry α} {ticket : Ticket} {delivery : Delivery α}
      (found : pool.deliveries[ticket]? = some delivery) :
      Deed me pool (.inquiry old) (.inquiry new)
        (pool.setDelivery ticket (Inquiry.collect delivery).2)
  | dismantle : Deed me pool (.closing .dismantle) (.closing .done) pool.dismantle

namespace Plain

theorem refl (pool : Pool α) : Plain pool pool := ⟨rfl, rfl, .inl rfl, .inl rfl⟩

theorem note {note : Note} (plain : note.isPlain = true) (counters : later.counters = pool.counters)
    (journal : later.journal = note :: pool.journal)
    (deliveries : later.deliveries = pool.deliveries) : Plain pool later :=
  ⟨by rw [counters], by rw [counters], .inr ⟨note, plain, journal⟩, .inl deliveries⟩

theorem countP_eq (plain : Plain pool later) {counts : Note → Bool}
    (passes : ∀ note : Note, note.isPlain = true → counts note = false) :
    later.journal.countP counts = pool.journal.countP counts := by
  rcases plain.journal with same | ⟨note, silent, more⟩
  · rw [same]
  · rw [more, List.countP_cons_of_neg (by simp [passes note silent])]

theorem mishaps_eq (plain : Plain pool later) (mishap : Mishap) (ticket : Ticket) :
    later.mishaps mishap ticket = pool.mishaps mishap ticket := by
  refine plain.countP_eq ?_
  intro note silent
  cases note <;> first | rfl | cases silent

theorem finished_eq (plain : Plain pool later) (ticket : Ticket) :
    later.times .finished ticket = pool.times .finished ticket := by
  refine plain.countP_eq ?_
  intro note silent
  cases note <;> first | rfl | cases silent

theorem ended_eq (plain : Plain pool later) (ticket : Ticket) :
    later.ended ticket = pool.ended ticket := by
  rw [ended, ended, plain.finished_eq, plain.mishaps_eq]

end Plain

namespace Submission

variable {submission next : Submission α} {job : Job α} {index : Nat}
  {answer : Queue.PushAnswer (Job α)}

theorem plain_of_afterPush (queue : Queue (Job α))
    (settled : afterPush job index (pool.setQueue index queue) answer = (next, later)) :
    Plain pool later := by
  cases answer with
  | stored =>
      cases settled
      exact .note rfl rfl rfl rfl
  | refused refusal =>
      cases settled
      exact .note rfl rfl rfl rfl
  | fault fault =>
      cases settled
      exact ⟨rfl, rfl, .inl rfl, .inl rfl⟩

theorem plain_of_afterLook (queue : Queue (Job α)) {home : UInt64} {attempt : Nat}
    (settled : afterLook job home attempt index (pool.setQueue index queue) answer =
      (next, later)) : Plain pool later := by
  unfold afterLook at settled
  split at settled
  · cases settled
    exact ⟨rfl, rfl, .inl rfl, .inl rfl⟩
  · exact plain_of_afterPush queue settled

theorem plain_of_act (acted : submission.act me pool = some (next, later)) : Plain pool later := by
  cases submission with
  | begin body =>
      cases acted
      exact ⟨rfl, rfl, .inl rfl, .inr rfl⟩
  | aim worker body =>
      simp only [act] at acted
      split at acted
      · cases acted
        exact ⟨rfl, rfl, .inl rfl, .inr rfl⟩
      · cases acted
        exact .refl pool
  | look job home attempt =>
      simp only [act] at acted
      split at acted
      · rw [Option.map_eq_some_iff] at acted
        obtain ⟨queue, _, acted⟩ := acted
        exact plain_of_afterLook _ acted
      · cases acted
        exact .refl pool
  | fallBack job home =>
      cases acted
      exact ⟨rfl, rfl, .inr ⟨_, rfl, rfl⟩, .inl rfl⟩
  | wait job index =>
      simp only [act, Option.bind_eq_some_iff] at acted
      obtain ⟨queue, _, acted⟩ := acted
      split at acted
      · exact plain_of_afterPush _ (Option.some.inj acted)
      · cases acted
        exact ⟨rfl, rfl, .inl rfl, .inl rfl⟩
      · cases acted
  | count ticket =>
      cases acted
      exact ⟨rfl, rfl, .inl rfl, .inl rfl⟩
  | done receipt => cases acted

end Submission

namespace Worker

variable {worker next : Worker α} {queue : Queue (Job α)}

theorem plain_of_runBody {frame : Frame α} (acted : runBody me frame pool = some (next, later)) :
    next.settles? = none ∧ Plain pool later := by
  unfold runBody at acted
  split at acted
  case h_2 =>
    cases acted
    exact ⟨rfl, .note rfl rfl rfl rfl⟩
  case h_3 =>
    split at acted
    · cases acted
      exact ⟨rfl, .refl pool⟩
    · cases acted
  all_goals
    cases acted
    exact ⟨rfl, .refl pool⟩

theorem plain_of_afterLook {offset index : Nat} {answer : Queue.PopAnswer (Job α)}
    (settled : afterLook me offset index (pool.setQueue index queue) answer = (next, later)) :
    next.settles? = none ∧ Plain pool later := by
  cases answer with
  | item job =>
      cases settled
      refine ⟨?_, .note rfl rfl rfl rfl⟩
      split <;> rfl
  | nothing =>
      cases settled
      exact ⟨rfl, rfl, rfl, .inl rfl, .inl rfl⟩
  | fault fault =>
      cases settled
      exact ⟨rfl, rfl, rfl, .inl rfl, .inl rfl⟩

theorem plain_of_afterSleep {index : Nat} {answer : Queue.PopAnswer (Job α)}
    (settled : afterSleep me (pool.setQueue index queue) answer = (next, later)) :
    next.settles? = none ∧ Plain pool later := by
  cases answer with
  | item job =>
      cases settled
      exact ⟨rfl, .note rfl rfl rfl rfl⟩
  | nothing =>
      cases settled
      exact ⟨rfl, rfl, rfl, .inl rfl, .inl rfl⟩
  | fault fault =>
      cases settled
      exact ⟨rfl, rfl, rfl, .inl rfl, .inl rfl⟩

theorem deed_of_act (acted : worker.act me pool = some (next, later)) :
    Deed me pool (.worker worker) (.worker next) later := by
  cases worker with
  | start =>
      cases acted
      exact .plain rfl rfl (.note rfl rfl rfl rfl)
  | look offset =>
      simp only [act] at acted
      split at acted
      · rw [Option.map_eq_some_iff] at acted
        obtain ⟨queue, _, acted⟩ := acted
        obtain ⟨unsettled, plain⟩ := plain_of_afterLook acted
        exact .plain rfl unsettled plain
      · cases acted
        exact .plain rfl rfl (.refl pool)
  | countTheft job victim =>
      cases acted
      exact .plain rfl rfl ⟨rfl, rfl, .inr ⟨_, rfl, rfl⟩, .inl rfl⟩
  | sleep =>
      simp only [act, Option.bind_eq_some_iff] at acted
      obtain ⟨queue, _, acted⟩ := acted
      split at acted
      · obtain ⟨unsettled, plain⟩ := plain_of_afterSleep (Option.some.inj acted)
        exact .plain rfl unsettled plain
      · cases acted
        exact .plain rfl rfl ⟨rfl, rfl, .inl rfl, .inl rfl⟩
      · cases acted
  | checkClosed | checkEmpty =>
      simp only [act, Option.map_eq_some_iff] at acted
      obtain ⟨queue, _, acted⟩ := acted
      split at acted <;> cases acted <;> exact .plain rfl rfl (.refl pool)
  | run frame =>
      obtain ⟨unsettled, plain⟩ := plain_of_runBody acted
      exact .plain rfl unsettled plain
  | post frame submission =>
      cases submission with
      | done receipt =>
          cases acted
          cases receipt <;> exact .plain rfl rfl (.refl pool)
      | _ =>
          simp only [act, Option.map_eq_some_iff] at acted
          obtain ⟨⟨inner, changed⟩, acted, same⟩ := acted
          cases same
          exact .plain rfl rfl (Submission.plain_of_act acted)
  | deliver ticket ending =>
      cases acted
      exact .deliver ticket ending
  | countPanic ticket message =>
      cases acted
      exact .countPanic ticket message
  | countRun ticket =>
      cases acted
      exact .countRun ticket
  | perish ticket =>
      cases acted
      exact .perish ticket
  | leave =>
      cases acted
      exact .plain rfl rfl (.note rfl rfl rfl rfl)
  | gone => cases acted

theorem deed_of_expire (expired : worker.expire me pool = some (next, later)) :
    Deed me pool (.worker worker) (.worker next) later := by
  unfold expire at expired
  split at expired
  · simp only [Option.bind_eq_some_iff, Option.map_eq_some_iff] at expired
    obtain ⟨queue, _, _, _, expired⟩ := expired
    obtain ⟨unsettled, plain⟩ := plain_of_afterSleep expired
    exact .plain rfl unsettled plain
  · cases expired

end Worker

theorem Inquiry.deed_of_act {inquiry next : Inquiry α}
    (acted : inquiry.act pool = some (next, later)) :
    Deed me pool (.inquiry inquiry) (.inquiry next) later := by
  cases inquiry with
  | ask ticket =>
      rw [act, Option.map_eq_some_iff] at acted
      obtain ⟨delivery, found, acted⟩ := acted
      cases acted
      exact .collect found
  | wait ticket timed =>
      rw [act, Option.bind_eq_some_iff] at acted
      obtain ⟨delivery, found, acted⟩ := acted
      split at acted
      · next outcome left collected =>
        cases acted
        have same : left = (collect delivery).2 := by rw [collected]
        rw [same]
        exact .collect found
      · cases acted
  | done outcome => cases acted

theorem Closing.deed_of_act {closing next : Closing} (acted : closing.act pool = some (next, later)) :
    Deed me pool (.closing closing) (.closing next) later := by
  cases change_of_act acted with
  | begin | mourn | stop => exact .plain rfl rfl (.note rfl rfl rfl rfl)
  | shut | await | bury | report => exact .plain rfl rfl ⟨rfl, rfl, .inl rfl, .inl rfl⟩
  | dismantle => exact .dismantle

namespace Point

theorem deed_of_act (acted : act me old pool = some (new, later)) : Deed me pool old new later := by
  cases old with
  | worker hand =>
      rw [act, Option.map_eq_some_iff] at acted
      obtain ⟨⟨next, changed⟩, acted, same⟩ := acted
      cases same
      exact Worker.deed_of_act acted
  | submission posting =>
      rw [act, Option.map_eq_some_iff] at acted
      obtain ⟨⟨next, changed⟩, acted, same⟩ := acted
      cases same
      exact .plain rfl rfl (Submission.plain_of_act acted)
  | inquiry asked =>
      rw [act, Option.map_eq_some_iff] at acted
      obtain ⟨⟨next, changed⟩, acted, same⟩ := acted
      cases same
      exact Inquiry.deed_of_act acted
  | closing closer =>
      rw [act, Option.map_eq_some_iff] at acted
      obtain ⟨⟨next, changed⟩, acted, same⟩ := acted
      cases same
      exact Closing.deed_of_act acted

theorem deed_of_expire (expired : expire me old pool = some (new, later)) :
    Deed me pool old new later := by
  cases old with
  | worker hand =>
      rw [expire, Option.map_eq_some_iff] at expired
      obtain ⟨⟨next, changed⟩, expired, same⟩ := expired
      cases same
      exact Worker.deed_of_expire expired
  | inquiry asked =>
      rw [expire, Option.map_eq_some_iff] at expired
      obtain ⟨⟨next, changed⟩, expired, same⟩ := expired
      cases same
      unfold Inquiry.expire at expired
      split at expired
      · cases expired
        exact .plain rfl rfl (.refl pool)
      · cases expired
  | submission _ => cases expired
  | closing _ => cases expired

theorem deed_of_move
    (moved : act me old pool = some (new, later) ∨ expire me old pool = some (new, later)) :
    Deed me pool old new later :=
  moved.elim deed_of_act deed_of_expire

theorem turn_of_move (staffed : 0 < pool.queues.length)
    (moved : act me old pool = some (new, later) ∨ expire me old pool = some (new, later)) :
    Turn me pool old new later :=
  moved.elim (turn_of_act staffed) turn_of_expire

end Point

theorem Step.cases_on_deed (step : Step world after) :
    (∃ me old new pool, world.threads[me]? = some old ∧ Deed me world.shared old new pool ∧
      after = world.put me (new, pool)) ∨
    (∃ made, after = world.spawn (begin made)) ∨
    ∃ signal, after = ⟨world.shared.heed signal, world.threads⟩ := by
  refine step.cases_on_move.imp_left ?_
  rintro ⟨me, old, new, pool, found, moved, rfl⟩
  exact ⟨me, old, new, pool, found, Point.deed_of_move moved, rfl⟩

/-- Threads act in turn, as long as every step is allowed. -/
def perform? (allows : Running α → Running α → Bool) (order : List ThreadId) (world : Running α) :
    Option (Running α) :=
  order.foldlM (fun world me => (world.act? (machine α) me).filter (allows world)) world

theorem reached_of_perform {relation : Running α → Running α → Prop}
    {allows : Running α → Running α → Bool}
    (allowed : ∀ {world after : Running α}, Step world after → allows world after = true →
      relation world after)
    (order : List ThreadId) (performed : perform? allows order world = some after) :
    Relation.ReflTransGen relation world after := by
  induction order generalizing world with
  | nil =>
      cases performed
      exact .refl
  | cons me rest ih =>
      rw [perform?, List.foldlM_cons, Option.bind_eq_bind, Option.bind_eq_some_iff] at performed
      obtain ⟨mid, acted, performed⟩ := performed
      obtain ⟨acted, permitted⟩ := Option.filter_eq_some_iff.mp acted
      exact .head (allowed (.act me acted) permitted) (ih performed)

end Turnstile.Pool
