import Turnstile.Lock.Basic
import Turnstile.Text.Record

/-!
# A value behind a lock

Whoever enters the lock sees the value of that moment and gets a guard, which is
kept under a name until it is dropped. A new guard of a name that has one takes
its place, and the old one is dropped before the call answers. An exclusive guard
may change the value, a shared one only read it. A guard can also be forgotten:
it is gone, and the lock stays as it was. `release` then opens the lock without a
guard.
-/

namespace Turnstile

set_option autoImplicit false

/-- The value, the lock, and the live guards with their names. -/
structure Guarded (kind : Lock.Kind) (α : Type) where
  lock : kind.Shared
  value : α
  guards : List (String × Lock.Mode)

namespace Guarded

variable {kind : Lock.Kind} {α : Type}

inductive Answer (α : Type) where
  /-- The caller is inside and sees the value. -/
  | entered (seen : α)
  | refused
  | left
  | fault (fault : Fault)

inductive Point (kind : Lock.Kind) (α : Type) where
  | entering (guard : String) (mode : Lock.Mode) (point : kind.Point)
  /-- The caller is inside, saw the value, and gives up the guard that had the name
  before. -/
  | displacing (seen : α) (point : kind.Point)
  | dropping (guard : String) (mode : Lock.Mode)
  | leaving (point : kind.Point)
  | done (answer : Answer α)

def forget (state : Guarded kind α) (guard : String) : Guarded kind α :=
  { state with guards := state.guards.filter (·.1 ≠ guard) }

def mode? (state : Guarded kind α) (guard : String) : Option Lock.Mode :=
  state.guards.lookup guard

/-- A guard is kept under a name, which has no other then. -/
def keep (state : Guarded kind α) (guard : String) (mode : Lock.Mode) : Guarded kind α :=
  { state with guards := (state.forget guard).guards ++ [(guard, mode)] }

/-- A call that stands at `point` of the lock and wants a guard: with the
answer of the lock it gets the guard, or not. -/
def afterEntering (guard : String) (mode : Lock.Mode) (point : kind.Point)
    (state : Guarded kind α) : Point kind α × Guarded kind α :=
  match kind.machine.answer? point with
  | none => (.entering guard mode point, state)
  | some .entered =>
    let next := match state.mode? guard with
      | none => .done (.entered state.value)
      | some former => .displacing state.value (kind.leave former)
    (next, state.keep guard mode)
  | some (.fault fault) => (.done (.fault fault), state)
  | some _ => (.done .refused, state)

/-- A call that is inside and leaves on behalf of the guard before its own. -/
def afterDisplacing (seen : α) (point : kind.Point) : Point kind α :=
  match kind.machine.answer? point with
  | none => .displacing seen point
  | some (.fault fault) => .done (.fault fault)
  | some _ => .done (.entered seen)

def afterLeaving (point : kind.Point) : Point kind α :=
  match kind.machine.answer? point with
  | none => .leaving point
  | some (.fault fault) => .done (.fault fault)
  | some _ => .done .left

def act (me : ThreadId) (point : Point kind α) (state : Guarded kind α) :
    Option (Point kind α × Guarded kind α) :=
  match point with
  | .entering guard mode point =>
    (kind.machine.act me point state.lock).map fun (point, lock) =>
      afterEntering guard mode point { state with lock }
  | .displacing seen point =>
    (kind.machine.act me point state.lock).map fun (point, lock) =>
      (afterDisplacing seen point, { state with lock })
  | .dropping guard mode => some (.leaving (kind.leave mode), state.forget guard)
  | .leaving point =>
    (kind.machine.act me point state.lock).map fun (point, lock) =>
      (afterLeaving point, { state with lock })
  | .done _ => none

def answer? : Point kind α → Option (Answer α)
  | .done answer => some answer
  | _ => none

def machine (kind : Lock.Kind) (α : Type) :
    Machine (Guarded kind α) (Point kind α) (Answer α) :=
  ⟨act, fun _ _ _ => none, answer?⟩

def ofValue (kind : Lock.Kind) (value : α) : Guarded kind α := ⟨kind.free, value, []⟩

def enter (guard : String) (mode : Lock.Mode) : Point kind α :=
  .entering guard mode (kind.enter mode)

def tryEnter (guard : String) (mode : Lock.Mode) : Point kind α :=
  .entering guard mode (kind.tryEnter mode)

/-- Gives a guard of a given mode up and leaves the lock. -/
def drop (guard : String) (mode : Lock.Mode) : Point kind α := .dropping guard mode

/-- Leaves the lock, whoever holds it. -/
def release (mode : Lock.Mode) : Point kind α := .leaving (kind.leave mode)

/-- The value through an exclusive guard becomes `value`. -/
def set (state : Guarded kind α) (value : α) : Guarded kind α := { state with value }

def describe [ToString α] (name : String) (state : Guarded kind α) : String :=
  let shown := if kind.admits .shared state.lock then toString state.value else "<locked>"
  Text.record name [("data", shown)]

end Guarded

end Turnstile
