import Turnstile.Proofs.Pool.Laws

/-!
# A drained pool

When a pool has been closed, everything that it ever accepted is on record as taken and
finished once, its queues are empty and its workers have left.
-/

namespace Turnstile.Pool

set_option autoImplicit false

open World (total)
open Turnstile.Task (Ticket)

variable {α : Type} {ticket : Ticket} {config : Config} {world : Running α}

theorem Accounted.decided_once (accounted : Accounted ticket world) :
    world.shared.times .accepted ticket + world.shared.times .refused ticket ≤ 1 := by
  have decided := accounted.decided
  have once := issued_le ticket world.shared
  omega

/-- A pool that has come to its end. -/
structure Drained (config : Config) (world : Running α) : Prop where
  ran : ∀ ticket, Accepted ticket world →
    world.shared.times .taken ticket = 1 ∧ world.shared.times .finished ticket = 1
  empty : ∀ queue ∈ world.shared.queues, queue.toList = []
  gone : ∀ me < config.workers,
    world.threads[me]? = some (.worker .gone) ∧ world.shared.fates[me]? = some .left

theorem Lawful.drained (lawful : Lawful config world) {closer : ThreadId}
    (closed : world.threads[closer]? = some (.closing .done)) : Drained config world := by
  have staffed := lawful.staffed
  have left : ∀ fate ∈ world.shared.fates, fate = .left := staffed.waited closer .done closed
  have empty := staffed.empty_of_left left
  refine ⟨?_, empty, ?_⟩
  · intro ticket accepted
    have idle : total (running ticket) world.threads = 0 := by
      apply World.total_eq_zero
      intro me point found
      cases point with
      | worker hand =>
          obtain ⟨queue, _, foundQueue, _⟩ := staffed.duty me hand found
          obtain ⟨hired, _⟩ := List.getElem?_eq_some_iff.mp foundQueue
          obtain ⟨gone, _⟩ := staffed.gone_of_left left me (staffed.queues ▸ hired)
          rw [found] at gone
          cases gone
          rfl
      | _ => rfl
    have unqueued := queuedTimes_eq_zero ticket empty
    have once := (lawful.accounted ticket).decided_once
    have stored := (lawful.accounted ticket).stored
    have ran := (lawful.accounted ticket).ran
    unfold Accepted at accepted
    omega
  · intro me hired
    obtain ⟨gone, fate, _⟩ := staffed.gone_of_left left me hired
    exact ⟨gone, fate⟩

/-- One worker, with room for one job. -/
def narrow : Config := ⟨1, 1, 1, "w", Config.standardIdlePark⟩

def opened : Running Unit :=
  ⟨initial narrow ⟨.ofCapacity 1, false, .ofPermits 1, .empty⟩, [.worker .start]⟩

theorem start_narrow : start narrow = .ok opened := by
  have named : narrow.nameFault? = none := by decide +kernel
  simp only [start, Config.rejection?, named]
  rfl

end Turnstile.Pool
