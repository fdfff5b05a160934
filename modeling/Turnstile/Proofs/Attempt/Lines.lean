import Mathlib.Data.List.Basic
import Turnstile.Proofs.Attempt
import Turnstile.Semaphore

/-!
# Lines under renaming

The threads that a primitive names stand in its lines, and its actions ask whether a thread
is in a line, take one out, or let one join. All of that goes the same way with the numbers
changed, for a line by itself and for a semaphore.
-/

namespace Turnstile

set_option autoImplicit false

variable {line : List ThreadId} {f : ThreadId → ThreadId} {me : ThreadId}

theorem erase_append_self (outside : me ∉ line) : (line ++ [me]).erase me = line := by
  rw [List.erase_append_right _ outside, List.erase_cons_head, List.append_nil]

theorem not_mem_of_map_skip (same : line.map (skip me) = line) : me ∉ line := by
  intro member
  rw [← same, List.mem_map] at member
  obtain ⟨other, _, left⟩ := member
  exact skip_ne me other left

theorem World.Known.outside {σ π : Type} {rename : (ThreadId → ThreadId) → σ → σ}
    {world : World σ π} (known : world.Known rename) (lined : σ → List ThreadId)
    (renamed : ∀ f shared, lined (rename f shared) = (lined shared).map f) :
    world.threads.length ∉ lined world.shared := by
  have same := known _ (skip_injective _) fun _ => skip_of_lt
  apply not_mem_of_map_skip
  rw [← renamed, same]

namespace Semaphore

variable {semaphore : Semaphore} (injective : Function.Injective f)

def rename (f : ThreadId → ThreadId) (semaphore : Semaphore) : Semaphore :=
  { semaphore with line := semaphore.line.map f }

@[simp] theorem post_rename (f : ThreadId → ThreadId) (semaphore : Semaphore) :
    (semaphore.rename f).post = semaphore.post.rename f := by
  simp [post, rename]

@[simp] theorem postMany_rename (f : ThreadId → ThreadId) (permits : UInt64)
    (semaphore : Semaphore) :
    (semaphore.rename f).postMany permits = (semaphore.postMany permits).rename f := by
  unfold postMany
  split <;> rfl

@[simp] theorem take_rename (f : ThreadId → ThreadId) (semaphore : Semaphore) :
    (semaphore.rename f).take? = semaphore.take?.map (rename f) := by
  unfold take?
  by_cases none : semaphore.permits = 0 <;> simp [rename, none]

def Wait.rename (f : ThreadId → ThreadId) : Wait → Wait
  | .taken semaphore => .taken (semaphore.rename f)
  | .joined semaphore => .joined (semaphore.rename f)
  | .asleep => .asleep

include injective in
theorem wait_rename (me : ThreadId) (semaphore : Semaphore) :
    (semaphore.rename f).wait (f me) = (semaphore.wait me).rename f := by
  have members : f me ∈ (semaphore.rename f).line ↔ me ∈ semaphore.line :=
    List.mem_map_of_injective injective
  unfold wait
  by_cases member : me ∈ semaphore.line
  · rw [if_pos member, if_pos (members.mpr member)]
    rfl
  · rw [if_neg member, if_neg (member ∘ members.mp), take_rename]
    cases semaphore.take? with
    | some taken => rfl
    | none => simp [Wait.rename, rename]

include injective in
theorem withdraw_rename (me : ThreadId) (semaphore : Semaphore) :
    (semaphore.rename f).withdraw? (f me) = (semaphore.withdraw? me).map (rename f) := by
  have members : f me ∈ (semaphore.rename f).line ↔ me ∈ semaphore.line :=
    List.mem_map_of_injective injective
  unfold withdraw?
  by_cases member : me ∈ semaphore.line
  · rw [if_pos member, if_pos (members.mpr member), Option.map_some]
    simp [rename, List.map_erase injective]
  · rw [if_neg member, if_neg (member ∘ members.mp), Option.map_none]

end Semaphore

end Turnstile
