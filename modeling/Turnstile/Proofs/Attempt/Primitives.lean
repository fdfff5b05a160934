import Turnstile.Proofs.Attempt.Event
import Turnstile.Proofs.Attempt.Locks
import Turnstile.Proofs.Attempt.Queue
import Turnstile.Proofs.Attempt.Semaphores

/-!
# What a failed attempt leaves behind, of every primitive

A `Primitive` is a machine with the states it is made in, the points at which its calls
begin, and those of them that are attempts. All primitives of the library are `Provided`.
Whatever calls were made of one of them before, one at a time and rightly or wrongly, an
attempt that fails has changed nothing when it returns.
-/

namespace Turnstile

set_option autoImplicit false

open World (Briefly Inert Session Settles Still Traceless Unnoticed)

structure Primitive where
  Shared : Type
  Point : Type
  Answer : Type
  machine : Machine Shared Point Answer
  /-- The state is one in which the primitive is made. -/
  IsNew : Shared → Prop
  /-- A call begins at the point. -/
  Begins : Point → Prop
  /-- A call that may fail at once, or when its time is up, begins at the point. -/
  Attempts : Point → Prop
  /-- The answer of an attempt that failed. -/
  Fails : Answer → Prop
  /-- The state with the threads it names under other numbers. -/
  rename : (ThreadId → ThreadId) → Shared → Shared

namespace Primitive

/-- The worlds that calls of the primitive lead to, made one at a time. -/
abbrev Reached (primitive : Primitive) (world : World primitive.Shared primitive.Point) : Prop :=
  Session primitive.machine primitive.IsNew primitive.Begins world

/-- What makes the failed attempts of a primitive leave no trace. -/
structure Discreet (primitive : Primitive) : Prop where
  impartial : primitive.machine.Impartial primitive.rename
  nameless : ∀ shared, primitive.IsNew shared → ∀ f, primitive.rename f shared = shared
  inert : ∀ point answer, primitive.machine.answer? point = some answer →
    Inert primitive.machine point
  traceless : ∀ world point, primitive.Reached world → world.Known primitive.rename →
    Still primitive.machine world.threads world.shared → primitive.Attempts point →
    Traceless primitive.machine primitive.Fails world point world.shared

open Permits in
/-- A semaphore over a counter, and the counter itself. -/
def ofBackend (backend : Backend)
    (rename : (ThreadId → ThreadId) → backend.Shared → backend.Shared) : Primitive where
  Shared := backend.Shared
  Point := backend.Point
  Answer := Permits.Answer
  machine := backend.machine
  IsNew shared := ∃ permits, shared = backend.ofPermits permits
  Begins point := (∃ call : SemaphoreCall, point = call.start backend) ∨
    ∃ request, point = backend.start request
  Attempts point := point = SemaphoreCall.tryWait.start backend ∨
    point = SemaphoreCall.waitUntil.start backend
  Fails := Answer.IsRefused
  rename := rename

def counting : Primitive where
  Shared := Counting
  Point := Counting.Point
  Answer := Counting.Answer
  machine := Counting.machine
  IsNew state := ∃ count, state = Counting.ofCount count
  Begins point := ∃ call, point = Counting.start call
  Attempts point := point = Counting.start .tryWait
  Fails := Counting.Answer.IsRefused
  rename := Counting.rename

open Lock in
/-- A lock, entered and left by anybody in any order. -/
def ofLock (kind : Kind) (rename : (ThreadId → ThreadId) → kind.Shared → kind.Shared) :
    Primitive where
  Shared := kind.Shared
  Point := kind.Point
  Answer := Lock.Answer
  machine := kind.machine
  IsNew lock := lock = kind.free
  Begins point := ∃ mode, point = kind.enter mode ∨ point = kind.tryEnter mode ∨
    point = kind.leave mode
  Attempts point := ∃ mode, point = kind.tryEnter mode
  Fails := Answer.IsRefused
  rename := rename

def event : Primitive where
  Shared := Event
  Point := Event.Point
  Answer := Event.Answer
  machine := Event.machine
  IsNew event := ∃ mode signaled, event = Event.ofMode mode signaled
  Begins point := ∃ call, point = Event.start call
  Attempts point := point = Event.start .waitUntil
  Fails := Event.Answer.IsRefused
  rename := Event.rename

def queue (α : Type) : Primitive where
  Shared := Queue α
  Point := Queue.Point α
  Answer := Queue.Answer α
  machine := Queue.machine α
  IsNew := Queue.IsNew
  Begins := Queue.Begins
  Attempts point := (∃ item, point = Queue.start (.push item) ∨
    point = Queue.start (.tryPush item)) ∨ point = Queue.start .pop ∨
    point = Queue.start .tryPop ∨ point = Queue.start .popFor
  Fails := Queue.Answer.IsFailure
  rename := Queue.rename

inductive Provided : Primitive → Prop where
  | parking : Provided (ofBackend .parking Permits.Parking.rename)
  | monitor : Provided (ofBackend .monitor Permits.Monitor.rename)
  | counting : Provided counting
  | exclusive : Provided (ofLock Lock.Exclusive.kind Lock.Exclusive.rename)
  | spinning : Provided (ofLock Lock.Spinning.kind Lock.Spinning.rename)
  | sharing : Provided (ofLock Lock.Sharing.kind Lock.Sharing.rename)
  | event : Provided event
  | queue (α : Type) : Provided (queue α)

theorem discreet_parking : Discreet (ofBackend .parking Permits.Parking.rename) where
  impartial := Permits.Parking.impartial
  nameless := by
    rintro _ ⟨permits, rfl⟩ f
    rfl
  inert := Permits.Parking.inert
  traceless world point _ known still attempt := by
    rcases attempt with rfl | rfl
    · exact Permits.Parking.traceless_tryAcquire still
    · exact Permits.Parking.traceless_acquire still
        (known.outside Permits.Parking.line fun _ _ => rfl)

theorem discreet_monitor : Discreet (ofBackend .monitor Permits.Monitor.rename) where
  impartial := Permits.Monitor.impartial
  nameless := by
    rintro _ ⟨permits, rfl⟩ f
    rfl
  inert := Permits.Monitor.inert
  traceless world point _ known still attempt := by
    rcases attempt with rfl | rfl
    · exact Permits.Monitor.traceless_tryAcquire still
    · exact Permits.Monitor.traceless_acquire still
        (known.outside Permits.Monitor.line fun _ _ => rfl)

theorem discreet_counting : Discreet counting where
  impartial := Counting.impartial
  nameless := by
    rintro _ ⟨count, rfl⟩ f
    rfl
  inert := Counting.inert
  traceless world point _ _ still attempt := by
    obtain rfl := attempt
    exact Counting.traceless_tryWait still

theorem discreet_exclusive : Discreet (ofLock Lock.Exclusive.kind Lock.Exclusive.rename) where
  impartial := Lock.Exclusive.impartial
  nameless := by
    rintro _ rfl f
    rfl
  inert := Lock.Exclusive.inert
  traceless world point _ _ still attempt := by
    obtain ⟨mode, rfl⟩ := attempt
    exact Lock.Exclusive.traceless_tryEnter still

theorem discreet_spinning : Discreet (ofLock Lock.Spinning.kind Lock.Spinning.rename) where
  impartial := Lock.Spinning.impartial
  nameless := by
    rintro _ rfl f
    rfl
  inert := Lock.Spinning.inert
  traceless world point _ _ still attempt := by
    obtain ⟨mode, rfl⟩ := attempt
    exact Lock.Spinning.traceless_tryEnter still

theorem discreet_sharing : Discreet (ofLock Lock.Sharing.kind Lock.Sharing.rename) where
  impartial := Lock.Sharing.impartial
  nameless := by
    rintro _ rfl f
    rfl
  inert := Lock.Sharing.inert
  traceless world point _ _ still attempt := by
    obtain ⟨mode, rfl⟩ := attempt
    cases mode with
    | exclusive => exact Lock.Sharing.traceless_tryEnter_exclusive still
    | shared => exact Lock.Sharing.traceless_tryEnter_shared still

theorem discreet_event : Discreet event where
  impartial := Event.impartial
  nameless := by
    rintro _ ⟨mode, signaled, rfl⟩ f
    rfl
  inert := Event.inert
  traceless world point _ known still attempt := by
    obtain rfl := attempt
    exact Event.traceless_waitUntil still (known.outside Event.line fun _ _ => rfl)

theorem discreet_queue (α : Type) : Discreet (queue α) where
  impartial := Queue.impartial
  nameless := by
    rintro shared ⟨capacity, made⟩ f
    obtain ⟨_, _, rfl⟩ := Queue.eq_of_made made
    rfl
  inert := Queue.inert
  traceless world point session known still attempt := by
    have calm := Queue.calm_of_session session
    have outside : world.threads.length ∉ world.shared.fullSlots.line :=
      known.outside (fun queue => queue.fullSlots.line) fun _ _ => rfl
    rcases attempt with ⟨item, rfl | rfl⟩ | rfl | rfl | rfl
    · exact Queue.traceless_push still calm item
    · exact Queue.traceless_tryPush still calm item
    · exact Queue.traceless_popWait still calm false outside
    · exact Queue.traceless_tryPop still calm
    · exact Queue.traceless_popWait still calm true outside

theorem Provided.discreet {primitive : Primitive} (provided : Provided primitive) :
    primitive.Discreet := by
  cases provided with
  | parking => exact discreet_parking
  | monitor => exact discreet_monitor
  | counting => exact discreet_counting
  | exclusive => exact discreet_exclusive
  | spinning => exact discreet_spinning
  | sharing => exact discreet_sharing
  | event => exact discreet_event
  | queue α => exact discreet_queue α

/-- Of every primitive, in every state that calls made one at a time lead to, misused or not:
an attempt that fails, at once or when its time is up, leaves the whole shared state and
every other thread as it found them, and whatever is done afterwards, in any interleaving,
goes as it would have gone without the attempt, except that later threads have the next
higher number. -/
theorem failed_attempt_leaves_no_trace (primitive : Primitive) (provided : Provided primitive)
    (before last : World primitive.Shared primitive.Point) (point : primitive.Point)
    (answer : primitive.Answer) (reached : primitive.Reached before)
    (attempt : primitive.Attempts point) (briefly : Briefly primitive.machine before point last)
    (answered : last.answer? primitive.machine before.threads.length = some answer)
    (fails : primitive.Fails answer) :
    ∃ returned, primitive.machine.answer? returned = some answer ∧
      Unnoticed primitive.machine primitive.rename before returned last := by
  obtain ⟨impartial, nameless, inert, traceless⟩ := provided.discreet
  have known := reached.known impartial nameless
  have quiet := reached.quiet
  have still : Still primitive.machine before.threads before.shared :=
    fun _ _ found => World.still_of_quiet quiet found
  exact World.unnoticed_of_traceless inert impartial known quiet
    (traceless before point reached known still attempt) briefly answered fails

/-- Somebody has left a shared lock that was free, as a reader. -/
def misused : World Lock.Sharing Lock.Sharing.Point :=
  ⟨{ Lock.Sharing.free with readers := Lock.Sharing.roof + 1 }, [.done (.fault .noReader)]⟩

/-- A writer has come after that, taken the gate, and given it back. -/
def turnedAway : World Lock.Sharing Lock.Sharing.Point :=
  ⟨misused.shared, [.done (.fault .noReader), .done .refused]⟩

private theorem misused_reached :
    (ofLock Lock.Sharing.kind Lock.Sharing.rename).Reached misused := by
  have settles : Settles Lock.Sharing.machine
      (World.spawn ⟨Lock.Sharing.free, []⟩ Lock.Sharing.Point.leaveShared) misused := by
    refine ⟨.single ⟨0, rfl⟩, fun me => ?_⟩
    match me with
    | 0 | _ + 1 => rfl
  exact .call (.fresh rfl) ⟨.shared, .inr (.inr rfl)⟩ settles

private theorem turnedAway_briefly :
    Briefly Lock.Sharing.machine misused (Lock.Sharing.tryEnter .exclusive) turnedAway := by
  refine .rests ⟨((Relation.ReflTransGen.single ⟨1, rfl⟩).tail ⟨1, rfl⟩).tail ⟨1, rfl⟩,
    fun me => ?_⟩
  match me with
  | 0 | 1 | _ + 2 => rfl

/-- Also a lock that has been misused is left as it was. -/
theorem misused_lock_left_alone :
    Briefly Lock.Sharing.machine misused (Lock.Sharing.tryEnter .exclusive) turnedAway ∧
      ∃ returned,
        Unnoticed Lock.Sharing.machine Lock.Sharing.rename misused returned turnedAway := by
  obtain ⟨returned, _, unnoticed⟩ := failed_attempt_leaves_no_trace _ .sharing misused turnedAway
    (Lock.Sharing.tryEnter .exclusive) .refused misused_reached ⟨.exclusive, rfl⟩
    turnedAway_briefly rfl rfl
  exact ⟨turnedAway_briefly, returned, unnoticed⟩

end Primitive

end Turnstile
