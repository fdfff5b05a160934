import Turnstile.Guarded
import Turnstile.Lock.Sharing
import Turnstile.Lock.Spinning
import Turnstile.Permits.Backend
import Turnstile.Workload.Basic

/-!
# Workloads on locks and semaphores

Threads enter and leave, and keep a ledger of what they see while they are
inside.
-/

namespace Turnstile.Workload

set_option autoImplicit false

open Turnstile.Lock

/-- A number that each thread reads, and then writes back one greater. -/
structure Tally where
  value : Nat := 0
  /-- What each thread has read. -/
  seen : ThreadId → Nat := fun _ => 0

def Tally.read (me : ThreadId) (tally : Tally) : Tally :=
  { tally with seen := fun other => if other = me then tally.value else tally.seen other }

def Tally.write (me : ThreadId) (tally : Tally) : Tally :=
  { tally with value := tally.seen me + 1 }

/-- Threads that count up together under a lock: the number, and whether the lock
is still held. -/
def countUnder (kind : Kind) (threads rounds : Nat) : Nat × Bool :=
  let thread (me : ThreadId) : List (Order kind.Shared kind.Point Answer Tally) :=
    Workload.rounds rounds fun _ =>
      [plain (kind.enter .exclusive), record (Tally.read me), record (Tally.write me),
        plain (kind.leave .exclusive)]
  let shop := perform kind.machine kind.free {} ((List.range threads).map thread)
  (shop.ledger.value, kind.isHeld shop.object)

/-- Threads that count a value behind a lock up together: the value. -/
def countInside (kind : Kind) (threads rounds : Nat) : Nat :=
  let thread (me : ThreadId) :
      List (Order (Guarded kind Nat) (Guarded.Point kind Nat) (Guarded.Answer Nat) Tally) :=
    Workload.rounds rounds fun _ =>
      [ .call (Guarded.enter (toString me) .exclusive) fun answer tally =>
          match answer with
          | .entered seen => Tally.read me { tally with value := seen }
          | _ => tally,
        .touch fun shop => { shop with object := shop.object.set (shop.ledger.seen me + 1) },
        plain (Guarded.drop (toString me) .exclusive)]
  let shop := perform (Guarded.machine kind Nat) (Guarded.ofValue kind 0) {}
    ((List.range threads).map thread)
  shop.object.value

/-- Who is inside a lock, and what went wrong. -/
structure Presence where
  readers : Nat := 0
  writers : Nat := 0
  writes : Nat := 0
  violations : Nat := 0

namespace Presence

def check (isWrong : Bool) (presence : Presence) : Presence :=
  if isWrong then { presence with violations := presence.violations + 1 } else presence

def enter (presence : Presence) : Mode → Presence
  | .exclusive =>
    let checked := presence.check (0 < presence.readers + presence.writers)
    { checked with writers := presence.writers + 1, writes := presence.writes + 1 }
  | .shared =>
    { presence.check (0 < presence.writers) with readers := presence.readers + 1 }

def leave (presence : Presence) : Mode → Presence
  | .exclusive => { presence with writers := presence.writers - 1 }
  | .shared => { presence with readers := presence.readers - 1 }

end Presence

/-- Readers and writers in a sharing lock, where every fourth round is a write:
the ledger, and whether the lock is still held. -/
def readAndWrite (threads rounds : Nat) : Presence × Bool :=
  let thread (me : ThreadId) : List (Order Sharing Sharing.Point Answer Presence) :=
    Workload.rounds rounds fun round =>
      let mode : Mode := if (me + round) % 4 = 0 then .exclusive else .shared
      [plain (Sharing.enter mode), record (·.enter mode), record (·.leave mode),
        plain (Sharing.leave mode)]
  let shop := perform Sharing.machine Sharing.free {} ((List.range threads).map thread)
  (shop.ledger, shop.object.isHeld)

/-- A pair of numbers behind a sharing lock, both of which are counted up in every
third round and compared in the others: the pair, how often its halves differed,
and whether the lock is still held. -/
def keepPair (threads rounds : Nat) : (Nat × Nat) × Nat × Bool :=
  let thread (me : ThreadId) : List (Order (Guarded Sharing.kind (Nat × Nat))
      (Guarded.Point Sharing.kind (Nat × Nat)) (Guarded.Answer (Nat × Nat)) Nat) :=
    let change (step : Nat × Nat → Nat × Nat) :
        Order (Guarded Sharing.kind (Nat × Nat)) (Guarded.Point Sharing.kind (Nat × Nat))
          (Guarded.Answer (Nat × Nat)) Nat :=
      .touch fun shop => { shop with object := shop.object.set (step shop.object.value) }
    Workload.rounds rounds fun round =>
      if (me + round) % 3 = 0 then
        [plain (Guarded.enter (toString me) .exclusive),
          change fun pair => (pair.1 + 1, pair.2), change fun pair => (pair.1, pair.2 + 1),
          plain (Guarded.drop (toString me) .exclusive)]
      else
        [ .call (Guarded.enter (toString me) .shared) fun answer torn =>
            match answer with
            | .entered seen => if seen.1 = seen.2 then torn else torn + 1
            | _ => torn,
          plain (Guarded.drop (toString me) .shared)]
  let shop := perform (Guarded.machine Sharing.kind (Nat × Nat))
    (Guarded.ofValue Sharing.kind (0, 0)) 0 ((List.range threads).map thread)
  (shop.object.value, shop.ledger, Sharing.isHeld shop.object.lock)

/-- How many threads are inside, and how often that was too many. -/
structure Crowd where
  inside : Nat := 0
  excess : Nat := 0

/-- Threads that are let in by a semaphore: how often too many were inside, and
the permits that are left. -/
def crowd (backend : Permits.Backend) (permits : UInt64) (threads rounds : Nat) : Nat × UInt64 :=
  let thread : List (Order backend.Shared backend.Point Permits.Answer Crowd) :=
    Workload.rounds rounds fun _ =>
      [plain (Permits.SemaphoreCall.wait.start backend),
        record fun crowd =>
          { inside := crowd.inside + 1
            excess :=
              if permits.toNat < crowd.inside + 1 then crowd.excess + 1 else crowd.excess },
        record fun crowd => { crowd with inside := crowd.inside - 1 },
        plain (Permits.SemaphoreCall.post.start backend)]
  let shop := perform backend.machine (backend.ofPermits permits) {}
    (List.replicate threads thread)
  (shop.ledger.excess, backend.count shop.object)

end Turnstile.Workload
