import Turnstile.Proofs.Pool.Runs
import Turnstile.Proofs.Pool.Visits

/-!
# What a step of a pool means to those who wait

One step of a thread of a pool, whatever the bodies throw, sorted by what it does to
the lines of the queues and to the fates of the workers. A `Dealing` leaves the queues
alone or is one visit of one of them. A worker deals with queues until it has found its
own one closed, and then empty, or until a job ends it.
-/

namespace Turnstile.Pool

set_option autoImplicit false

open Turnstile.Task (Ticket Job Body)

variable {α : Type} {me : ThreadId} {pool later : Pool α} {world after : Running α}

/-- The queue at which a submission waits for a slot. -/
def Submission.awaits? : Submission α → Option Nat
  | .wait _ index => some index
  | .begin _ | .aim _ _ | .look _ _ _ | .fallBack _ _ | .count _ | .done _ => none

def Worker.awaits? (hand : Worker α) : Option Nat := hand.submission?.bind Submission.awaits?

def Point.awaits? (point : Point α) : Option Nat := point.submission?.bind Submission.awaits?

/-- A worker that has not come to the end of its work. -/
def Worker.Engaged : Worker α → Prop
  | .checkEmpty | .leave | .gone => False
  | _ => True

/-- What thread `me`, which waits at one queue before and at another one after it, does
to the queues while no worker comes to its end. -/
inductive Dealing (me : ThreadId) (pool : Pool α) : Option Nat → Option Nat → Pool α → Prop where
  | aside {next : Option Nat} {later : Pool α} (queues : later.queues = pool.queues)
      (fates : later.fates = pool.fates)
      (seated : ∀ index, next = some index → index < pool.queues.length) :
      Dealing me pool none next later
  | visit {index : Nat} {queue visited : Queue (Job α)} {old next : Option Nat} {later : Pool α}
      (found : pool.queues[index]? = some queue)
      (visit : Queue.Visit me index queue old next visited)
      (queues : later.queues = pool.queues.set index visited) (fates : later.fates = pool.fates) :
      Dealing me pool old next later

inductive Worker.Turn (me : Nat) (pool : Pool α) : Worker α → Worker α → Pool α → Prop where
  | deal {old new : Worker α} {later : Pool α} (before : old ≠ .gone) (engaged : new.Engaged)
      (dealing : Dealing me pool old.awaits? new.awaits? later) : Turn me pool old new later
  | findClosed {queue : Queue (Job α)} (found : pool.queues[me]? = some queue)
      (closed : queue.closed = true) : Turn me pool .checkClosed .checkEmpty pool
  | findEmpty {queue : Queue (Job α)} (found : pool.queues[me]? = some queue)
      (empty : queue.isEmpty = true) : Turn me pool .checkEmpty .leave pool
  | leave {later : Pool α} (queues : later.queues = pool.queues)
      (fates : later.fates = pool.fates.set me .left) : Turn me pool .leave .gone later
  | perish (ticket : Option Ticket) {later : Pool α} (queues : later.queues = pool.queues)
      (fates : later.fates = pool.fates.set me .died) : Turn me pool (.perish ticket) .gone later

inductive Point.Turn (me : ThreadId) (pool : Pool α) : Point α → Point α → Pool α → Prop where
  | worker {old new : Worker α} {later : Pool α} (turn : Worker.Turn me pool old new later) :
      Turn me pool (.worker old) (.worker new) later
  | submission {old new : Submission α} {later : Pool α}
      (dealing : Dealing me pool old.awaits? new.awaits? later) :
      Turn me pool (.submission old) (.submission new) later
  | inquiry {old new : Inquiry α} {later : Pool α} (dealing : Dealing me pool none none later) :
      Turn me pool (.inquiry old) (.inquiry new) later
  | closing {old new : Closing} {later : Pool α} (acted : old.act pool = some (new, later)) :
      Turn me pool (.closing old) (.closing new) later

theorem Dealing.of_eq (queues : later.queues = pool.queues) (fates : later.fates = pool.fates) :
    Dealing me pool none none later :=
  .aside queues fates fun _ waits => by cases waits

namespace Submission

variable {submission new : Submission α} {job : Job α} {index : Nat}
  {answer : Queue.PushAnswer (Job α)}

theorem settled_of_afterPush (settled : afterPush job index pool answer = (new, later)) :
    new.awaits? = none ∧ later.queues = pool.queues ∧ later.fates = pool.fates := by
  cases answer with
  | _ => cases settled; exact ⟨rfl, rfl, rfl⟩

theorem settled_of_afterLook {home : UInt64} {attempt : Nat}
    (settled : afterLook job home attempt index pool answer = (new, later)) :
    new.awaits? = none ∧ later.queues = pool.queues ∧ later.fates = pool.fates := by
  unfold afterLook at settled
  split at settled
  · cases settled
    exact ⟨rfl, rfl, rfl⟩
  · exact settled_of_afterPush settled

theorem dealing_of_act (staffed : 0 < pool.queues.length)
    (acted : submission.act me pool = some (new, later)) :
    Dealing me pool submission.awaits? new.awaits? later := by
  cases submission with
  | begin body =>
      cases acted
      exact .of_eq rfl rfl
  | aim worker body =>
      by_cases within : worker < pool.queues.length
      · simp only [act, within, if_true] at acted
        cases acted
        refine .aside rfl rfl ?_
        intro index waits
        cases waits
        exact within
      · simp only [act, within, if_false] at acted
        cases acted
        exact .of_eq rfl rfl
  | look job home attempt =>
      by_cases within : attempt < pool.config.submitAttempts
      · simp only [act, within, if_true, Option.map_eq_some_iff] at acted
        obtain ⟨queue, found, acted⟩ := acted
        obtain ⟨apart, queues, fates⟩ := settled_of_afterLook acted
        rw [apart]
        exact .visit found (.tryPush rfl) queues fates
      · simp only [act, within, if_false] at acted
        cases acted
        exact .of_eq rfl rfl
  | fallBack job home =>
      cases acted
      refine .aside rfl rfl ?_
      intro index waits
      cases waits
      exact Nat.mod_lt _ staffed
  | wait job index =>
      simp only [act, Option.bind_eq_some_iff] at acted
      obtain ⟨queue, found, acted⟩ := acted
      split at acted
      · next answer visited result =>
        obtain ⟨apart, queues, fates⟩ := settled_of_afterPush (Option.some.inj acted)
        rw [apart]
        exact .visit found (.push result) queues fates
      · next visited result =>
        cases acted
        exact .visit found (.park result) rfl rfl
      · cases acted
  | count ticket =>
      cases acted
      exact .of_eq rfl rfl
  | done receipt => cases acted

end Submission

namespace Worker

variable {worker new : Worker α}

theorem turn_of_runBody {frame : Frame α} (acted : runBody me frame pool = some (new, later)) :
    Turn me pool (.run frame) new later := by
  have before : Worker.run frame ≠ .gone := nofun
  unfold runBody at acted
  split at acted
  case h_3 =>
    split at acted
    · cases acted
      exact .deal before trivial (.of_eq rfl rfl)
    · cases acted
  all_goals
    cases acted
    exact .deal before trivial (.of_eq rfl rfl)

theorem settled_of_afterLook {offset index : Nat} {answer : Queue.PopAnswer (Job α)}
    (settled : afterLook me offset index pool answer = (new, later)) :
    new.Engaged ∧ new.awaits? = none ∧ later.queues = pool.queues ∧ later.fates = pool.fates := by
  unfold afterLook at settled
  split at settled
  · cases settled
    split
    · exact ⟨trivial, rfl, rfl, rfl⟩
    · exact ⟨trivial, rfl, rfl, rfl⟩
  · cases settled
    exact ⟨trivial, rfl, rfl, rfl⟩
  · cases settled
    exact ⟨trivial, rfl, rfl, rfl⟩

theorem settled_of_afterSleep {answer : Queue.PopAnswer (Job α)}
    (settled : afterSleep me pool answer = (new, later)) :
    new.Engaged ∧ new.awaits? = none ∧ later.queues = pool.queues ∧ later.fates = pool.fates := by
  cases answer with
  | _ => cases settled; exact ⟨trivial, rfl, rfl, rfl⟩

theorem turn_of_act (staffed : 0 < pool.queues.length)
    (acted : worker.act me pool = some (new, later)) : Turn me pool worker new later := by
  have here : worker ≠ .gone := by
    rintro rfl
    cases acted
  cases worker with
  | start =>
      cases acted
      exact .deal here trivial (.of_eq rfl rfl)
  | look offset =>
      by_cases within : offset < pool.queues.length
      · simp only [act, within, if_true, Option.map_eq_some_iff] at acted
        obtain ⟨queue, found, acted⟩ := acted
        obtain ⟨engaged, apart, queues, fates⟩ := settled_of_afterLook acted
        refine .deal here engaged ?_
        rw [apart]
        exact .visit found (.tryPop rfl) queues fates
      · simp only [act, within, if_false] at acted
        cases acted
        exact .deal here trivial (.of_eq rfl rfl)
  | countTheft job victim =>
      cases acted
      exact .deal here trivial (.of_eq rfl rfl)
  | sleep =>
      simp only [act, Option.bind_eq_some_iff] at acted
      obtain ⟨queue, found, acted⟩ := acted
      split at acted
      · next answer visited result =>
        obtain ⟨engaged, apart, queues, fates⟩ := settled_of_afterSleep (Option.some.inj acted)
        refine .deal here engaged ?_
        rw [apart]
        exact .visit found (.pop rfl result) queues fates
      · next visited result =>
        cases acted
        exact .deal here trivial (.visit found (.sleep rfl result) rfl rfl)
      · cases acted
  | checkClosed =>
      simp only [act, Option.map_eq_some_iff] at acted
      obtain ⟨queue, found, acted⟩ := acted
      cases closed : queue.closed with
      | true =>
          simp only [closed, if_true] at acted
          cases acted
          exact .findClosed found closed
      | false =>
          simp only [closed, Bool.false_eq_true, if_false] at acted
          cases acted
          exact .deal here trivial (.of_eq rfl rfl)
  | checkEmpty =>
      simp only [act, Option.map_eq_some_iff] at acted
      obtain ⟨queue, found, acted⟩ := acted
      by_cases empty : queue.isEmpty = true
      · simp only [empty, if_true] at acted
        cases acted
        exact .findEmpty found empty
      · simp only [empty, Bool.false_eq_true, if_false] at acted
        cases acted
        exact .deal here trivial (.of_eq rfl rfl)
  | run frame => exact turn_of_runBody acted
  | post frame submission =>
      cases submission with
      | done receipt =>
          cases acted
          cases receipt with
          | _ => exact .deal here trivial (.of_eq rfl rfl)
      | _ =>
          simp only [act, Option.map_eq_some_iff] at acted
          obtain ⟨⟨next, changed⟩, acted, same⟩ := acted
          cases same
          exact .deal here trivial (Submission.dealing_of_act staffed acted)
  | deliver ticket ending =>
      cases acted
      rcases afterDelivery_cases ticket (pool.isForgone ticket) ending with
        next | next | ⟨_, next⟩
      all_goals
        rw [next]
        exact .deal here trivial (.of_eq rfl rfl)
  | countPanic ticket message =>
      cases acted
      exact .deal here trivial (.of_eq rfl rfl)
  | countRun ticket =>
      cases acted
      exact .deal here trivial (.of_eq rfl rfl)
  | perish ticket =>
      cases acted
      exact .perish ticket rfl rfl
  | leave =>
      cases acted
      exact .leave rfl rfl
  | gone => cases acted

theorem turn_of_expire (expired : worker.expire me pool = some (new, later)) :
    Turn me pool worker new later := by
  unfold expire at expired
  split at expired
  · simp only [Option.bind_eq_some_iff, Option.map_eq_some_iff] at expired
    obtain ⟨queue, found, ⟨answer, visited⟩, result, expired⟩ := expired
    obtain ⟨engaged, apart, queues, fates⟩ := settled_of_afterSleep expired
    refine .deal nofun engaged ?_
    rw [apart]
    exact .visit found (.expire rfl result) queues fates
  · cases expired

end Worker

namespace Point

variable {old new : Point α}

theorem turn_of_act (staffed : 0 < pool.queues.length)
    (acted : act me old pool = some (new, later)) : Turn me pool old new later := by
  cases old with
  | worker hand =>
      rw [act, Option.map_eq_some_iff] at acted
      obtain ⟨⟨next, changed⟩, acted, same⟩ := acted
      cases same
      exact .worker (Worker.turn_of_act staffed acted)
  | submission posting =>
      rw [act, Option.map_eq_some_iff] at acted
      obtain ⟨⟨next, changed⟩, acted, same⟩ := acted
      cases same
      exact .submission (Submission.dealing_of_act staffed acted)
  | inquiry asked =>
      rw [act, Option.map_eq_some_iff] at acted
      obtain ⟨⟨next, changed⟩, acted, same⟩ := acted
      cases same
      have quiet := Inquiry.quiet_of_act acted
      exact .inquiry (.of_eq quiet.queues quiet.fates)
  | closing closer =>
      rw [act, Option.map_eq_some_iff] at acted
      obtain ⟨⟨next, changed⟩, acted, same⟩ := acted
      cases same
      exact .closing acted

theorem turn_of_expire (expired : expire me old pool = some (new, later)) :
    Turn me pool old new later := by
  cases old with
  | worker hand =>
      rw [expire, Option.map_eq_some_iff] at expired
      obtain ⟨⟨next, changed⟩, expired, same⟩ := expired
      cases same
      exact .worker (Worker.turn_of_expire expired)
  | inquiry asked =>
      rw [expire, Option.map_eq_some_iff] at expired
      obtain ⟨⟨next, changed⟩, expired, same⟩ := expired
      cases same
      have quiet := Inquiry.quiet_of_expire expired
      exact .inquiry (.of_eq quiet.queues quiet.fates)
  | submission _ => cases expired
  | closing _ => cases expired

end Point

theorem Step.cases_on_turn (staffed : 0 < world.shared.queues.length) (step : Step world after) :
    (∃ me old new pool, world.threads[me]? = some old ∧
      Point.Turn me world.shared old new pool ∧ after = world.put me (new, pool)) ∨
    (∃ made, after = world.spawn (begin made)) ∨
    ∃ signal, after = ⟨world.shared.heed signal, world.threads⟩ := by
  refine step.cases_on_move.imp_left ?_
  rintro ⟨me, old, new, pool, found, acted | expired, rfl⟩
  · exact ⟨me, old, new, pool, found, Point.turn_of_act staffed acted, rfl⟩
  · exact ⟨me, old, new, pool, found, Point.turn_of_expire expired, rfl⟩

end Turnstile.Pool
