import Turnstile.Proofs.Pool.Drained
import Turnstile.Proofs.Pool.Outcomes

/-!
# Every accepted job runs once

What is accepted is at every moment in exactly one place: in one queue, with one
worker that runs it, or in the past, its body having come to its end. What is turned
away is nowhere and never will be anywhere. When a pool has been closed, the body of
everything that it ever accepted has been run once, to the end and by its text.

That is so as long as no worker has to discard something that panics then. A body
need not panic for that: it is enough that its result does, when its handle has been
dropped and the worker is left with the result.
-/

namespace Turnstile.Pool

set_option autoImplicit false

open World (total)
open Turnstile.Task (Ticket Job Body)

variable {α : Type} {ticket : Ticket} {config : Config} {first world later last : Running α}
  {history : List (Occurrence α)}

/-- The ticket of the job that a worker has taken, until its body has ended. -/
def Worker.works? : Worker α → Option Ticket
  | .countTheft job _ => some job.ticket
  | .run frame | .post frame _ => some frame.ticket
  | .deliver ticket _ => some ticket
  | _ => none

def working (ticket : Ticket) (point : Point α) : Nat :=
  isFor ticket (point.hand?.bind Worker.works?)

theorem running_eq (ticket : Ticket) (point : Point α) :
    running ticket point = working ticket point + surviving ticket point := by
  cases point with
  | worker hand =>
      cases hand with
      | countPanic | countRun => exact (Nat.zero_add _).symm
      | _ => rfl
  | submission | inquiry | closing => rfl

theorem settling_eq (ticket : Ticket) (point : Point α) :
    settling ticket point = surviving ticket point + succumbing ticket point := by
  cases point with
  | worker hand =>
      cases hand with
      | perish => exact (Nat.zero_add _).symm
      | _ => rfl
  | submission | inquiry | closing => rfl

theorem killed_eq_zero (opened : start config = .ok first) (run : Run first world)
    (ticket : Ticket) : world.shared.mishaps .killed ticket = 0 := by
  induction run with
  | refl =>
      have unsent := sent_start opened ticket
      rw [sent, ended] at unsent
      omega
  | @step mid last before step _ ih =>
      have lawful : Lawful config mid := (Lawful.start opened).run before
      rcases step.cases_on_deed with
        ⟨me, old, new, pool, found, deed, rfl⟩ | ⟨made, rfl⟩ | ⟨signal, rfl⟩
      · have alive : ∀ held, old ≠ .worker (.perish held) :=
          fun held same => lawful.staffed.alive me held (same ▸ found)
        exact (deed.killed_eq alive ticket).trans ih
      · exact ih
      · exact ih

theorem taken_eq (opened : start config = .ok first) (run : Run first world)
    (chronicle : Chronicle first world history) (ticket : Ticket) :
    world.shared.times .taken ticket = total (working ticket) world.threads + ends ticket history := by
  have lawful : Lawful config world := (Lawful.start opened).run run
  have ran := (lawful.accounted ticket).ran
  have ended := (Closed.of_chronicle opened chronicle ticket).ends_eq
  have unkilled := killed_eq_zero opened run ticket
  have runs : total (running ticket) world.threads =
      total (working ticket) world.threads + total (surviving ticket) world.threads := by
    rw [← World.total_add, ← funext (running_eq ticket)]
  have settles : total (settling ticket) world.threads =
      total (surviving ticket) world.threads + total (succumbing ticket) world.threads := by
    rw [← World.total_add, ← funext (settling_eq ticket)]
  have living : total (succumbing ticket) world.threads = 0 := by
    refine World.total_eq_zero fun me point found => ?_
    cases point with
    | worker hand =>
        cases hand with
        | perish held => exact absurd found (lawful.staffed.alive me held)
        | _ => rfl
    | submission | inquiry | closing => rfl
  omega

/-- Where the job of a ticket can be. -/
inductive Place where
  | queue (index : Nat)
  /-- A worker runs it. -/
  | worker (me : ThreadId)
  /-- Its body has come to its end. -/
  | past
  deriving DecidableEq, Repr

/-- How often the job of a ticket is at a place. -/
def timesAt (ticket : Ticket) (world : Running α) (history : List (Occurrence α)) : Place → Nat
  | .queue index => (world.shared.queues[index]?.map (copies ticket)).getD 0
  | .worker me => (world.threads[me]?.map (working ticket)).getD 0
  | .past => ends ticket history

theorem queued_eq_zero (none : world.shared.queuedTimes ticket = 0) (index : Nat) :
    timesAt ticket world history (.queue index) = 0 :=
  World.weight_eq_zero_of_total none index

theorem working_eq_zero (none : total (working ticket) world.threads = 0) (me : ThreadId) :
    timesAt ticket world history (.worker me) = 0 :=
  World.weight_eq_zero_of_total none me

theorem one_place (one : world.shared.queuedTimes ticket + total (working ticket) world.threads +
      ends ticket history = 1) :
    ∃ place, timesAt ticket world history place = 1 ∧
      ∀ other, other ≠ place → timesAt ticket world history other = 0 := by
  rcases Nat.eq_zero_or_pos (world.shared.queuedTimes ticket) with unqueued | queued
  · rcases Nat.eq_zero_or_pos (total (working ticket) world.threads) with idle | busy
    · refine ⟨.past, by simp only [timesAt]; omega, ?_⟩
      intro other different
      cases other with
      | queue index => exact queued_eq_zero unqueued index
      | worker me => exact working_eq_zero idle me
      | past => exact absurd rfl different
    · have alone : total (working ticket) world.threads = 1 := by omega
      obtain ⟨me, point, found, here, elsewhere⟩ := World.exists_alone_of_total_eq_one alone
      refine ⟨.worker me, by simp [timesAt, found, here], ?_⟩
      intro other different
      cases other with
      | queue index => exact queued_eq_zero unqueued index
      | worker other => exact elsewhere other fun same => different (same ▸ rfl)
      | past =>
          simp only [timesAt]
          omega
  · have alone : total (copies ticket) world.shared.queues = 1 := by
      rw [← queuedTimes]
      omega
    obtain ⟨index, queue, found, here, elsewhere⟩ := World.exists_alone_of_total_eq_one alone
    refine ⟨.queue index, by simp [timesAt, found, here], ?_⟩
    intro other different
    cases other with
    | queue other => exact elsewhere other fun same => different (same ▸ rfl)
    | worker me => exact working_eq_zero (by omega) me
    | past =>
        simp only [timesAt]
        omega

theorem nowhere_of_refused (opened : start config = .ok first) (run : Run first world)
    (chronicle : Chronicle first world history)
    (refused : 0 < world.shared.times .refused ticket) (place : Place) :
    timesAt ticket world history place = 0 := by
  have lawful : Lawful config world := (Lawful.start opened).run run
  have once := (lawful.accounted ticket).decided_once
  have stored := (lawful.accounted ticket).stored
  have taken := taken_eq opened run chronicle ticket
  cases place with
  | queue index => exact queued_eq_zero (by omega) index
  | worker me => exact working_eq_zero (by omega) me
  | past =>
      simp only [timesAt]
      omega

/-- Whoever calls an open pool whenever and however often, and however the actions of all
threads interleave, as long as no worker comes to discard something that panics then, be it
what a body has thrown or a result whose handle has been dropped: the job of an accepted
submission is in exactly one place; no two submissions have one ticket, none is accepted or
refused twice, and no job is taken twice or run twice; a submission that looks for room goes
on with that, for the body that it was made with, until its job is accepted for good or until
it is refused, and then its job is nowhere and never will be; whoever is told that a submission
was accepted is told the truth, about the ticket of the body that was submitted; and when a
call that closes the pool has returned, the body of every accepted job has been run once, to
its end and by its text, all queues are empty, and all workers have left. -/
theorem accepted_once_and_drained (config : Config) (first world : Running α)
    (history : List (Occurrence α)) (opened : start config = .ok first) (run : Run first world)
    (chronicle : Chronicle first world history) :
    ((∀ ticket, Accepted ticket world →
        ∃ place, timesAt ticket world history place = 1 ∧
          ∀ other, other ≠ place → timesAt ticket world history other = 0) ∧
      (∀ ticket, total (seeking ticket) world.threads + world.shared.times .accepted ticket +
          world.shared.times .refused ticket ≤ 1 ∧ world.shared.times .taken ticket ≤ 1 ∧
        ends ticket history ≤ 1) ∧
      (∀ (me : ThreadId) (point : Point α) (submission : Submission α) (job : Job α),
        world.threads[me]? = some point → point.submission? = some submission →
        submission.seeks? = some job → Issued history job.ticket job.body ∧
        ∀ later : Running α, Step world later → Calm later →
        ∃ new next, later.threads[me]? = some new ∧ new.submission? = some next ∧
          (next.seeks? = some job ∨
            (next = .count job.ticket ∧ ∀ last, Run later last → Accepted job.ticket last) ∨
            (next = .done (.refused .shutDown) ∧ ∀ last longer, Run later last →
              Chronicle first last longer → ∀ place, timesAt job.ticket last longer place = 0))) ∧
      (∀ (me : ThreadId) (point : Point α) (ticket : Ticket), world.threads[me]? = some point →
        point.submission? = some (.done (.accepted ticket)) → Accepted ticket world) ∧
      (∀ (me : ThreadId) (made : Call α) (target : Option Nat) (body : Body α) (ticket : Ticket),
        .called me made ∈ history → made.submits? = some (target, body) →
        world.threads[me]? = some (.submission (.done (.accepted ticket))) →
        Issued history ticket body)) ∧
    (∀ closer : ThreadId, world.threads[closer]? = some (.closing .done) →
      Drained config world ∧
        ∀ ticket, Accepted ticket world → HasRun config ticket world history) := by
  have lawful : Lawful config world := (Lawful.start opened).run run
  have truthful := Truthful.of_chronicle opened chronicle
  have taken := taken_eq opened run chronicle
  refine ⟨⟨?_, ?_, ?_, ?_, ?_⟩, ?_⟩
  · intro ticket accepted
    have once := (lawful.accounted ticket).decided_once
    have stored := (lawful.accounted ticket).stored
    have taken := taken ticket
    unfold Accepted at accepted
    exact one_place (by omega)
  · intro ticket
    have decided := (lawful.accounted ticket).decided
    have once := issued_le ticket world.shared
    have stored := (lawful.accounted ticket).stored
    have taken := taken ticket
    refine ⟨?_, ?_, ?_⟩ <;> omega
  · intro me point submission job found posts seeks
    refine ⟨(truthful.points me point found).of_seeks (by rw [posts, Option.bind_some, seeks]), ?_⟩
    intro later step calm
    have lawfulLater := lawful.step step calm
    obtain ⟨new, next, foundLater, postsLater, become⟩ := lawful.answered step found posts seeks
    refine ⟨new, next, foundLater, postsLater, ?_⟩
    rcases become with still | ⟨counts, accepted⟩ | ⟨done, refused⟩
    · exact .inl still
    · refine .inr (.inl ⟨counts, ?_⟩)
      intro last onward
      exact Nat.lt_of_lt_of_le accepted (lawfulLater.times_le_of_run onward _ _)
    · refine .inr (.inr ⟨done, ?_⟩)
      intro last longer onward told
      have stays := Nat.lt_of_lt_of_le refused (lawfulLater.times_le_of_run onward _ _)
      exact nowhere_of_refused opened ((Run.step run step calm).trans onward) told stays
  · intro me point ticket found posts
    exact lawful.told me point _ ticket found posts .done
  · intro me made target body ticket called submits answered
    obtain ⟨posting, found, pursues⟩ := truthful.callers me made target body called submits
    rw [answered] at found
    cases found
    cases pursues with
    | accepted ticketed => exact ticketed.issued
  · intro closer closed
    have drained := lawful.drained closed
    refine ⟨drained, fun ticket accepted => truthful.hasRun ?_⟩
    obtain ⟨takenOnce, finished⟩ := drained.ran ticket accepted
    have taken := taken ticket
    have ended := (Closed.of_chronicle opened chronicle ticket).ends_eq
    omega

/-- Thread 1 submits a task that submits another one, and thread 2 closes the pool
before the second one is taken. -/
def called : Running Unit × List (Occurrence Unit) :=
  Chronicle.callAll [.submit [.post []], .close] (opened, [])

def order : List ThreadId :=
  [1, 1, 1] ++ List.replicate 6 0 ++ [2, 2, 2] ++ List.replicate 14 0 ++ [2, 2, 2, 2]

def spent : Running Unit × List (Occurrence Unit) := (Chronicle.narrate? order called).getD called

private theorem run_to_spent : Run opened spent.1 := by
  have calls : Run opened called.1 :=
    .step (.step .refl (.call (.submit [.post []])) (by decide)) (.call .close) (by decide)
  exact calls.perform order rfl

private theorem chronicle_of_spent : Chronicle opened spent.1 spent.2 := by
  have asked : Chronicle opened called.1 called.2 := Chronicle.refl.callAll_chronicle _
  exact asked.narrated_getD order

theorem spent_has_run_both :
    Drained narrow spent.1 ∧ HasRun narrow 0 spent.1 spent.2 ∧ HasRun narrow 1 spent.1 spent.2 := by
  obtain ⟨_, closes⟩ := accepted_once_and_drained narrow opened spent.1 spent.2 start_narrow
    run_to_spent chronicle_of_spent
  obtain ⟨drained, ran⟩ := closes 2 rfl
  exact ⟨drained, ran 0 (by decide), ran 1 (by decide)⟩

/-! ## A result that panics when it is discarded -/

/-- Thread 1 submits a task that waits at a gate and then gives what panics when it is
discarded, thread 2 a task that does nothing, and thread 3 closes the pool. -/
def entrusted : Running Unit × List (Occurrence Unit) :=
  Chronicle.callAll [.submit [.pass "gate", .giveExplosive], .submit [], .close] (opened, [])

/-- The handle of the first task is dropped while the worker waits at the gate. -/
def forsaken : Running Unit × List (Occurrence Unit) :=
  Chronicle.heeding (.forgo 0)
    ((Chronicle.narrate? [1, 1, 1, 0, 0] entrusted).getD entrusted)

/-- The gate is opened when the second task has been accepted. -/
def released : Running Unit × List (Occurrence Unit) :=
  Chronicle.heeding (.openGate "gate") ((Chronicle.narrate? [2, 2, 2] forsaken).getD forsaken)

def bereaved : Running Unit × List (Occurrence Unit) :=
  (Chronicle.narrate? (List.replicate 5 0 ++ List.replicate 7 3) released).getD released

private theorem chronicle_of_bereaved : Chronicle opened bereaved.1 bereaved.2 := by
  have asked : Chronicle opened entrusted.1 entrusted.2 := Chronicle.refl.callAll_chronicle _
  have forgone : Chronicle opened forsaken.1 forsaken.2 := (asked.narrated_getD _).heed (.forgo 0)
  have opens : Chronicle opened released.1 released.2 :=
    (forgone.narrated_getD _).heed (.openGate "gate")
  exact opens.narrated_getD _

/-- No body panics here, and all that begin come to their end. But the worker has to discard the
result of the first one, because its handle has been dropped, and dies of that; the second
task was accepted, and when the call that closes the pool has returned it has not run and is
nowhere. -/
theorem discarded_result_leaves_a_job :
    start narrow = .ok opened ∧ Chronicle opened bereaved.1 bereaved.2 ∧
      (∀ ticket, panics ticket bereaved.2 = 0) ∧
      Accepted 0 bereaved.1 ∧ ends 0 bereaved.2 = 1 ∧
      bereaved.1.threads[3]? = some (.closing .done) ∧ bereaved.1.shared.fates = [.died] ∧
      Accepted 1 bereaved.1 ∧ ∀ place, timesAt 1 bereaved.1 bereaved.2 place = 0 := by
  refine ⟨start_narrow, chronicle_of_bereaved, fun _ => rfl, by decide, by decide, rfl, rfl,
    by decide, ?_⟩
  intro place
  match place with
  | .queue 0 | .queue (_ + 1) => rfl
  | .worker 0 | .worker 1 | .worker 2 | .worker 3 | .worker (_ + 4) => rfl
  | .past => rfl

end Turnstile.Pool
