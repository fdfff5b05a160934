import Turnstile.Proofs.Lock.Exclusive

/-!
# Permits that nobody waits for

A thread that finds the lock busy and has it free again when it comes to mark the word is
inside without having slept, and with the word contended: when it leaves it posts a permit
for nobody. Two threads that meet so again and again leave as many permits as they like while
neither of them is in a call (`permits_pile_up`). But each meeting leaves one at the most:
`leftovers_le_meetings` bounds the permits, and everything that may still become one, by the
number of times a thread has found the lock busy.
-/

namespace Turnstile.Lock.Exclusive

set_option autoImplicit false

open World (total)
open Usage (Crowd Run crowd)

variable {me : ThreadId} {old new : Stage Point} {lock changed : Exclusive}
  {world : Crowd kind} {count meetings : Nat}

/-- The thread finds the lock busy on its first look at the word. -/
def meets : Stage Point → Stage Point → Nat
  | .entering _ .enter, .entering _ .contend => 1
  | _, _ => 0

/-- Any number of steps, in which the lock was found busy so many times. -/
inductive Meetings (start : Crowd kind) : Nat → Crowd kind → Prop where
  | none : Meetings start 0 start
  | step {meetings : Nat} {mid : Crowd kind} {old new : Stage Point} {changed : Exclusive}
      (me : ThreadId) (before : Meetings start meetings mid) (found : mid.threads[me]? = some old)
      (move : Usage.Move kind me old mid.shared new changed) :
      Meetings start (meetings + meets old new) (mid.put me (new, changed))

/-- A change makes a permit out of a thread that is about to post one, that thread out of the
mark, and the mark out of a thread that comes to set it; only a meeting brings such a thread. -/
theorem Change.prospects_le (change : Change me old lock new changed) :
    marked changed + contending new + waking new + changed.parked.permits.toNat ≤
      marked lock + contending old + waking old + lock.parked.permits.toNat + meets old new := by
  cases change with
  | rise mode taken =>
      have fewer := Semaphore.toNat_permits_taken taken
      simp [marked, contending, waking, meets]
      omega
  | park mode joined =>
      rw [Semaphore.permits_joined joined]
      simp [marked, contending, waking, meets]
  | post mode =>
      have sum := Semaphore.toNat_permits_add_le lock.parked.permits 1
      rw [UInt64.toNat_one] at sum
      simp [marked, contending, waking, meets, Semaphore.post]
      omega
  | meet mode busy =>
      simp [marked, contending, waking, meets]
      omega
  | _ => simp_all [marked, contending, waking, meets]

/-- In every interleaving of any number of threads: the permits, together with the threads
that are about to post one, those that are about to mark the word, and the mark, are no more
than the times a thread has found the lock busy. -/
theorem leftovers_le_meetings (count meetings : Nat) (world : Crowd kind)
    (run : Meetings (crowd kind .free count) meetings world) :
    prospects world.shared world.threads ≤ meetings := by
  suffices kept : Held world.shared world.threads ∧
      prospects world.shared world.threads ≤ meetings from kept.2
  induction run with
  | none =>
      refine ⟨.start 0 count, ?_⟩
      simp [prospects, crowd, World.total_replicate, marked, contending, waking, free,
        Semaphore.empty, Semaphore.ofPermits]
  | @step meetings mid old new changed me before found move ih =>
      obtain ⟨held, fewer⟩ := ih
      have change := change_of_move (held.proper old (List.mem_of_getElem? found)) move
      refine ⟨held.change found change, ?_⟩
      have step := change.prospects_le
      have contenders := World.total_set contending found new
      have wakers := World.total_set waking found new
      unfold prospects World.put at *
      dsimp only at *
      omega

theorem Meetings.run {start : Crowd kind} (run : Meetings start meetings world) :
    Run kind (fun _ => True) start world := by
  induction run with
  | none => exact .refl
  | step me _ found move ih => exact .step ih (move.step found) trivial

/-- Neither of two threads is in a call, and so many permits lie on the semaphore. -/
def littered (permits : UInt64) : Crowd kind :=
  ⟨⟨.free, .ofPermits permits⟩, [.outside, .outside]⟩

theorem Meetings.again {start : Crowd kind} {permits : UInt64}
    (run : Meetings start meetings (littered permits)) :
    Meetings start (meetings + 1) (littered (permits + 1)) := by
  have met : Meetings start (meetings + 1)
      ⟨⟨.held, .ofPermits permits⟩, [.inside .exclusive, .entering .exclusive .contend]⟩ :=
    .step 1 (.step 1 (.step 0 (.step 0 run
      rfl (.decide (.enter .exclusive)))
      rfl (.act rfl))
      rfl (.decide (.enter .exclusive)))
      rfl (.act rfl)
  have inside : Meetings start (meetings + 1)
      ⟨⟨.contended, .ofPermits permits⟩, [.outside, .inside .exclusive]⟩ :=
    .step 1 (.step 0 (.step 0 met
      rfl (.decide (.leave .exclusive)))
      rfl (.act rfl))
      rfl (.act rfl)
  exact .step 1 (.step 1 (.step 1 inside
    rfl (.decide (.leave .exclusive)))
    rfl (.act rfl))
    rfl (.act rfl)

/-- Two threads leave any number of permits on the semaphore, none of them in a call, and
find the lock busy only once for each. -/
theorem permits_pile_up (permits : UInt64) :
    Meetings (crowd kind .free 2) permits.toNat (littered permits) := by
  suffices piles : ∀ count : Nat, Meetings (crowd kind .free 2) count (littered (.ofNat count)) by
    have pile := piles permits.toNat
    rwa [UInt64.ofNat_toNat] at pile
  intro count
  induction count with
  | zero => exact .none
  | succ count ih =>
      rw [UInt64.ofNat_add]
      exact ih.again

theorem permits_outnumber_contenders : ¬ ∀ (count : Nat) (world : Crowd kind),
    Run kind (fun _ => True) (crowd kind .free count) world →
      world.shared.parked.permits.toNat ≤
        total contending world.threads + total sleeping world.threads + 1 := by
  intro bounded
  exact absurd (bounded 2 _ (permits_pile_up 2).run) (by decide)

end Turnstile.Lock.Exclusive
