import Turnstile.Lock.Basic
import Turnstile.Proofs.Total

/-!
# Threads that use a lock by its contract

Any number of threads share a lock. Each of them may enter in any mode, with or
without a wait, as often as it likes, and gives up exactly what it is inside of.
A thread that is in no call decides for itself what it does next; a thread that
is in a call is bound to the next action of that call. A `Run` is any
interleaving of the two, in which every world keeps within a given limit.

`Run.induction` is the induction over runs: an invariant has to be kept by a
`Move` of one thread, which is a decision or an action.
-/

namespace Turnstile.Lock

set_option autoImplicit false

/-- Where a thread stands that uses a lock with call points `π`. -/
inductive Stage (π : Type) where
  | outside
  | entering (mode : Mode) (point : π)
  | inside (mode : Mode)
  | leaving (mode : Mode) (point : π)
  /-- A call of the thread broke off. -/
  | broken (fault : Fault)
  deriving DecidableEq, Repr

namespace Usage

/-- Where a thread is that has come to `point` of a call to enter. -/
def afterEntering (kind : Kind) (mode : Mode) (point : kind.Point) : Stage kind.Point :=
  match kind.machine.answer? point with
  | none => .entering mode point
  | some .entered => .inside mode
  | some (.fault fault) => .broken fault
  | some _ => .outside

/-- Where a thread is that has come to `point` of a call to leave. -/
def afterLeaving (kind : Kind) (mode : Mode) (point : kind.Point) : Stage kind.Point :=
  match kind.machine.answer? point with
  | none => .leaving mode point
  | some (.fault fault) => .broken fault
  | some _ => .outside

def act (kind : Kind) (me : ThreadId) (stage : Stage kind.Point) (lock : kind.Shared) :
    Option (Stage kind.Point × kind.Shared) :=
  match stage with
  | .entering mode point =>
    (kind.machine.act me point lock).map fun (point, lock) =>
      (afterEntering kind mode point, lock)
  | .leaving mode point =>
    (kind.machine.act me point lock).map fun (point, lock) =>
      (afterLeaving kind mode point, lock)
  | .outside | .inside _ | .broken _ => none

def machine (kind : Kind) : Machine kind.Shared (Stage kind.Point) Fault where
  act := act kind
  expire _ _ _ := none
  answer?
    | .broken fault => some fault
    | _ => none

/-- What a thread that is in no call may begin. -/
inductive Decision (kind : Kind) : Stage kind.Point → Stage kind.Point → Prop where
  | enter (mode : Mode) : Decision kind .outside (.entering mode (kind.enter mode))
  | tryEnter (mode : Mode) : Decision kind .outside (.entering mode (kind.tryEnter mode))
  | leave (mode : Mode) : Decision kind (.inside mode) (.leaving mode (kind.leave mode))

abbrev Crowd (kind : Kind) := World kind.Shared (Stage kind.Point)

def crowd (kind : Kind) (lock : kind.Shared) (threads : Nat) : Crowd kind :=
  ⟨lock, List.replicate threads .outside⟩

inductive Step (kind : Kind) (world : Crowd kind) : Crowd kind → Prop where
  | act {later : Crowd kind} (me : ThreadId)
      (acted : world.act? (machine kind) me = some later) : Step kind world later
  | decide {old new : Stage kind.Point} (me : ThreadId) (found : world.threads[me]? = some old)
      (decision : Decision kind old new) : Step kind world (world.put me (new, world.shared))

/-- Any number of steps, to worlds that are all `within` a limit. -/
inductive Run (kind : Kind) (within : Crowd kind → Prop) (start : Crowd kind) :
    Crowd kind → Prop where
  | refl : Run kind within start start
  | step {mid last : Crowd kind} : Run kind within start mid → Step kind mid last →
      within last → Run kind within start last

inductive Move (kind : Kind) (me : ThreadId) (old : Stage kind.Point) (lock : kind.Shared) :
    Stage kind.Point → kind.Shared → Prop where
  | decide {new : Stage kind.Point} : Decision kind old new → Move kind me old lock new lock
  | act {new : Stage kind.Point} {changed : kind.Shared} :
      Usage.act kind me old lock = some (new, changed) → Move kind me old lock new changed

variable {kind : Kind} {within : Crowd kind → Prop} {start world later : Crowd kind}

theorem eq_of_entering {me : ThreadId} {mode : Mode} {point later : kind.Point}
    {lock moved changed : kind.Shared} {new : Stage kind.Point}
    (acts : kind.machine.act me point lock = some (later, moved))
    (acted : act kind me (.entering mode point) lock = some (new, changed)) :
    new = afterEntering kind mode later ∧ changed = moved := by
  rw [act, acts] at acted
  cases acted
  exact ⟨rfl, rfl⟩

theorem eq_of_leaving {me : ThreadId} {mode : Mode} {point later : kind.Point}
    {lock moved changed : kind.Shared} {new : Stage kind.Point}
    (acts : kind.machine.act me point lock = some (later, moved))
    (acted : act kind me (.leaving mode point) lock = some (new, changed)) :
    new = afterLeaving kind mode later ∧ changed = moved := by
  rw [act, acts] at acted
  cases acted
  exact ⟨rfl, rfl⟩

theorem Move.entering {me : ThreadId} {mode : Mode} {point : kind.Point} {lock changed : kind.Shared}
    {new : Stage kind.Point} (move : Move kind me (.entering mode point) lock new changed) :
    Usage.act kind me (.entering mode point) lock = some (new, changed) := by
  cases move with
  | decide decision => cases decision
  | act acted => exact acted

theorem Move.leaving {me : ThreadId} {mode : Mode} {point : kind.Point} {lock changed : kind.Shared}
    {new : Stage kind.Point} (move : Move kind me (.leaving mode point) lock new changed) :
    Usage.act kind me (.leaving mode point) lock = some (new, changed) := by
  cases move with
  | decide decision => cases decision
  | act acted => exact acted

theorem Step.is_move (step : Step kind world later) :
    ∃ me old new lock, world.threads[me]? = some old ∧ Move kind me old world.shared new lock ∧
      later = world.put me (new, lock) := by
  cases step with
  | act me acted =>
      rw [World.act?, Option.bind_eq_some_iff] at acted
      obtain ⟨old, found, acted⟩ := acted
      rw [Option.map_eq_some_iff] at acted
      obtain ⟨⟨new, lock⟩, acted, rfl⟩ := acted
      exact ⟨me, old, new, lock, found, .act acted, rfl⟩
  | decide me found decision =>
      exact ⟨me, _, _, world.shared, found, .decide decision, rfl⟩

theorem Move.step {me : ThreadId} {old new : Stage kind.Point} {lock : kind.Shared}
    (move : Move kind me old world.shared new lock) (found : world.threads[me]? = some old) :
    Step kind world (world.put me (new, lock)) := by
  cases move with
  | decide decision => exact .decide me found decision
  | act acted =>
      apply Step.act me
      rw [World.act?, found]
      simp [machine, acted]

theorem Run.induction (holds : Crowd kind → Prop) (run : Run kind within start world)
    (initially : holds start)
    (kept : ∀ (world : Crowd kind) (me : ThreadId) (old new : Stage kind.Point)
      (lock : kind.Shared), holds world → world.threads[me]? = some old →
      Move kind me old world.shared new lock → within (world.put me (new, lock)) →
      holds (world.put me (new, lock))) : holds world := by
  induction run with
  | refl => exact initially
  | step _ step limit ih =>
      obtain ⟨me, old, new, lock, found, move, rfl⟩ := step.is_move
      exact kept _ me old new lock ih found move limit

theorem Run.widen {wider : Crowd kind → Prop} (run : Run kind within start world)
    (wide : ∀ world, within world → wider world) : Run kind wider start world := by
  induction run with
  | refl => exact .refl
  | step _ step limit ih => exact .step ih step (wide _ limit)

/-- Exactly so many steps. -/
inductive Steps (kind : Kind) (start : Crowd kind) : Nat → Crowd kind → Prop where
  | zero : Steps kind start 0 start
  | succ {count : Nat} {mid last : Crowd kind} : Steps kind start count mid →
      Step kind mid last → Steps kind start (count + 1) last

theorem Steps.run {count bound : Nat} (steps : Steps kind start count world) (few : count ≤ bound)
    (fits : ∀ (count : Nat) (world : Crowd kind), count ≤ bound → Steps kind start count world →
      within world) : Run kind within start world := by
  induction steps with
  | zero => exact .refl
  | succ before step ih => exact .step (ih (by omega)) step (fits _ _ few (.succ before step))

theorem act_eq_none_of_quiet (quiet : world.Quiet (machine kind)) {me : ThreadId}
    {stage : Stage kind.Point} (found : world.threads[me]? = some stage) :
    act kind me stage world.shared = none := by
  have still := quiet me
  rw [World.act?, found] at still
  simpa [machine] using still

end Usage

end Turnstile.Lock
