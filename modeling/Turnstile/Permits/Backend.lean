import Turnstile.Permits.Monitor
import Turnstile.Permits.Parking
import Turnstile.Text.Record

/-!
# Interchangeable permit counters

A `Backend` packs a machine for permit counters with the way its requests
begin, so that a semaphore can be kept in either of them. A semaphore adds no
state: each of its calls is one request to the counter, except that posting no
permits at all is no request.
-/

namespace Turnstile.Permits

set_option autoImplicit false

structure Backend where
  name : String
  Shared : Type
  Point : Type
  machine : Machine Shared Point Answer
  start : Request → Point
  /-- A call that returns without a request. -/
  returned : Answer → Point
  ofPermits : UInt64 → Shared
  count : Shared → UInt64

namespace Backend

def parking : Backend where
  name := "futex"
  Shared := Parking
  Point := Parking.Point
  machine := Parking.machine
  start := Parking.start
  returned := .done
  ofPermits := Parking.ofPermits
  count := Parking.count

def monitor : Backend where
  name := "condvar"
  Shared := Monitor
  Point := Monitor.Point
  machine := Monitor.machine
  start := Monitor.start
  returned := .done
  ofPermits := Monitor.ofPermits
  count := Monitor.count

def standard : Backend := parking

/-- The counter of a given name; `default` names the standard one. -/
def ofName? : String → Option Backend
  | "futex" => some parking
  | "condvar" => some monitor
  | "default" => some standard
  | _ => none

end Backend

inductive SemaphoreCall where
  | post
  | postMany (permits : UInt64)
  | wait
  | tryWait
  /-- A wait with a deadline, which is looked at only if there is no permit. -/
  | waitUntil
  deriving DecidableEq, Repr

namespace SemaphoreCall

def start (backend : Backend) : SemaphoreCall → backend.Point
  | post => backend.start (.release 1 .one)
  | postMany permits =>
    if permits = 0 then backend.returned .released else backend.start (.release permits .all)
  | wait => backend.start (.acquire false)
  | tryWait => backend.start .tryAcquire
  | waitUntil => backend.start (.acquire true)

def describe (backend : Backend) (shared : backend.Shared) : String :=
  Text.record "Semaphore"
    [("available", toString (backend.count shared)), ("backend", s!"\"{backend.name}\"")]

end SemaphoreCall

end Turnstile.Permits
