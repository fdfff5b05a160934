import Turnstile.Proofs.Pool.Chronicle
import Turnstile.Proofs.Pool.Panics
import Turnstile.Proofs.Pool.Stranded

/-!
# The accounts of all tickets together

What is booked of each ticket adds up, over the tickets that were issued: as many jobs as
were accepted lie in the queues or were taken, and as many as were taken are held by a
worker or have run. In a pool that is standing and in which nothing moves, the workers that
hold a job are those that are inside a body.
-/

namespace Turnstile.Pool

set_option autoImplicit false

open World (total)
open Turnstile.Task (Ticket Job)

variable {α : Type} {me : ThreadId} {pool later : Pool α} {ticket : Ticket} {config : Config}
  {world after first last : Running α} {old new : Point α}

/-- The pool has not been taken down. -/
def Standing (world : Running α) : Prop :=
  ∀ closer : ThreadId, world.threads[closer]? ≠ some (.closing .done)

namespace Standing

theorem of_put (standing : Standing (world.put me (new, later)))
    (found : world.threads[me]? = some old)
    (moved : act me old world.shared = some (new, later) ∨
      expire me old world.shared = some (new, later)) : Standing world := by
  intro closer done
  have different : me ≠ closer := by
    rintro rfl
    rw [found] at done
    cases done
    rcases moved with acted | expired
    · cases acted
    · cases expired
  exact standing closer ((List.getElem?_set_ne different).trans done)

theorem of_spawn {made : Call α} (standing : Standing (world.spawn (begin made))) :
    Standing world :=
  fun closer done => standing closer (World.found_append done)

end Standing

theorem Recorded.booked (recorded : Recorded config world) (standing : Standing world) :
    world.shared.Idle ∧ ∀ ticket, Booked ticket world := by
  cases recorded.era with
  | serving idle whole booked => exact ⟨idle, booked⟩
  | finished finished taken =>
      obtain ⟨closer, done⟩ := taken
      exact absurd done (standing closer)

section Keys

variable {β : Type} {key : β → Option Nat} {listed : List β} {bound : Nat}

theorem sum_countP_key (bounded : ∀ entry ∈ listed, ∀ k, key entry = some k → k < bound) :
    ∑ k ∈ Finset.range bound, listed.countP (fun entry => key entry = some k) =
      listed.countP fun entry => (key entry).isSome := by
  induction listed with
  | nil => simp
  | cons entry rest ih =>
      have others := ih fun other member => bounded other (List.mem_cons_of_mem entry member)
      have here : ∑ k ∈ Finset.range bound, (if key entry = some k then 1 else 0) =
          if (key entry).isSome then 1 else 0 := by
        cases keyed : key entry with
        | none => simp
        | some k =>
            have within := bounded entry (List.mem_cons_self ..) k keyed
            simp [within]
      simp only [List.countP_cons, Finset.sum_add_distrib, others, decide_eq_true_eq, here]

theorem keys_bounded (beyond : ∀ k, bound ≤ k → listed.countP (fun entry => key entry = some k) = 0) :
    ∀ entry ∈ listed, ∀ k, key entry = some k → k < bound := by
  intro entry member k keyed
  by_contra outside
  have none := List.countP_eq_zero.mp (beyond k (Nat.not_lt.mp outside)) entry member
  simp [keyed] at none

theorem total_isFor (held : β → Option Nat) (k : Nat) (listed : List β) :
    total (fun entry => isFor k (held entry)) listed =
      listed.countP fun entry => held entry = some k := by
  induction listed with
  | nil => rfl
  | cons entry rest ih =>
      rw [total, List.map_cons, List.sum_cons, ← total, ih, List.countP_cons, Nat.add_comm]
      simp only [isFor, decide_eq_true_eq]

end Keys

/-- The ticket of what is told, if it is told of what is `wanted`. -/
def ticketOf {κ : Type} [DecidableEq κ] (wanted : κ) (told : Option (κ × Ticket)) : Option Ticket :=
  told.bind fun (what, ticket) => if what = wanted then some ticket else none

theorem ticketOf_eq_some {κ : Type} [DecidableEq κ] {wanted : κ} {told : Option (κ × Ticket)} :
    ticketOf wanted told = some ticket ↔ told = some (wanted, ticket) := by
  cases told with
  | none => simp [ticketOf]
  | some pair =>
      obtain ⟨what, who⟩ := pair
      by_cases same : what = wanted
      · simp [ticketOf, same]
      · simp [ticketOf, same]

def reached (milestone : Milestone) (pool : Pool α) : Nat :=
  pool.journal.countP fun note => (ticketOf milestone note.milestone?).isSome

def befell (mishap : Mishap) (pool : Pool α) : Nat :=
  pool.journal.countP fun note => (ticketOf mishap note.mishap?).isSome

theorem times_eq_countP (milestone : Milestone) (ticket : Ticket) (pool : Pool α) :
    pool.times milestone ticket =
      pool.journal.countP fun note => ticketOf milestone note.milestone? = some ticket := by
  simp only [times, ticketOf_eq_some]

theorem mishaps_eq_countP (mishap : Mishap) (ticket : Ticket) (pool : Pool α) :
    pool.mishaps mishap ticket =
      pool.journal.countP fun note => ticketOf mishap note.mishap? = some ticket := by
  simp only [mishaps, ticketOf_eq_some]

def held (world : Running α) : Nat := world.threads.countP fun point => point.holds?.isSome

namespace Booked

theorem nothing_beyond (booked : Booked ticket world)
    (beyond : world.shared.deliveries.length ≤ ticket) :
    total (seeking ticket) world.threads = 0 ∧ world.shared.times .accepted ticket = 0 ∧
      world.shared.times .taken ticket = 0 ∧ world.shared.queuedTimes ticket = 0 ∧
      total (holding ticket) world.threads = 0 ∧ world.shared.times .finished ticket = 0 ∧
      world.shared.mishaps .killed ticket = 0 := by
  have decided := booked.decided
  have stored := booked.stored
  have ran := booked.ran
  rw [issued, if_neg (Nat.not_lt.mpr beyond)] at decided
  rw [ended] at ran
  omega

end Booked

section Sums

variable (booked : ∀ ticket, Booked ticket world)
include booked

theorem sum_times (milestone : Milestone) (decisive : milestone ≠ .refused) :
    ∑ ticket ∈ Finset.range world.shared.deliveries.length, world.shared.times milestone ticket =
      reached milestone world.shared := by
  simp only [times_eq_countP, reached]
  refine sum_countP_key (keys_bounded ?_)
  intro ticket beyond
  rw [← times_eq_countP]
  obtain ⟨_, accepted, taken, _, _, finished, _⟩ := (booked ticket).nothing_beyond beyond
  cases milestone with
  | accepted => exact accepted
  | refused => exact absurd rfl decisive
  | taken => exact taken
  | finished => exact finished

theorem sum_killed :
    ∑ ticket ∈ Finset.range world.shared.deliveries.length, world.shared.mishaps .killed ticket =
      befell .killed world.shared := by
  simp only [mishaps_eq_countP, befell]
  refine sum_countP_key (keys_bounded ?_)
  intro ticket beyond
  rw [← mishaps_eq_countP]
  exact ((booked ticket).nothing_beyond beyond).2.2.2.2.2.2

theorem sum_holding :
    ∑ ticket ∈ Finset.range world.shared.deliveries.length, total (holding ticket) world.threads =
      held world := by
  have counted (ticket : Ticket) : total (holding ticket) world.threads =
      world.threads.countP fun point => point.holds? = some ticket :=
    total_isFor Point.holds? ticket world.threads
  simp only [counted, held]
  refine sum_countP_key (keys_bounded ?_)
  intro ticket beyond
  rw [← counted]
  exact ((booked ticket).nothing_beyond beyond).2.2.2.2.1

theorem sum_queuedTimes :
    ∑ ticket ∈ Finset.range world.shared.deliveries.length, world.shared.queuedTimes ticket =
      world.shared.queued.length := by
  have counted (ticket : Ticket) : world.shared.queuedTimes ticket =
      world.shared.queued.countP fun job => some job.ticket = some ticket := by
    rw [queuedTimes_eq_count, List.count, List.countP_map]
    exact List.countP_congr fun job _ => by simp
  simp only [counted]
  rw [sum_countP_key (keys_bounded ?_)]
  · simp
  · intro ticket beyond
    rw [← counted]
    exact ((booked ticket).nothing_beyond beyond).2.2.2.1

theorem accepted_eq : reached .accepted world.shared =
    world.shared.queued.length + held world + reached .finished world.shared +
      befell .killed world.shared := by
  have each (ticket : Ticket) : world.shared.times .accepted ticket =
      world.shared.queuedTimes ticket + total (holding ticket) world.threads +
        world.shared.times .finished ticket + world.shared.mishaps .killed ticket := by
    have stored := (booked ticket).stored
    have ran := (booked ticket).ran
    rw [ended] at ran
    omega
  rw [← sum_times booked .accepted (by simp), Finset.sum_congr rfl fun ticket _ => each ticket]
  simp only [Finset.sum_add_distrib, sum_queuedTimes booked, sum_holding booked, sum_killed booked,
    sum_times booked .finished (by simp)]

end Sums

end Turnstile.Pool
