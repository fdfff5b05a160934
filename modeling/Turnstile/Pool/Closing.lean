import Turnstile.Pool.Basic

/-!
# Closing a pool

The queues are closed one after the other. Then the closer waits for the thread
of one worker after the other, and when the last has ended it tells what was
done and takes the pool down.
-/

namespace Turnstile.Pool

set_option autoImplicit false

variable {α : Type}

inductive Closing where
  | begin
  | close (queue : Nat)
  | await (worker : Nat)
  | report
  | dismantle
  | done
  deriving DecidableEq, Repr

namespace Closing

def act (closing : Closing) (pool : Pool α) : Option (Closing × Pool α) :=
  match closing with
  | .begin => some (.close 0, pool.note (.closing pool.fates.length))
  | .close index =>
    match pool.queues[index]? with
    | some queue => some (.close (index + 1), pool.setQueue index queue.close)
    | none => some (.await 0, pool)
  | .await worker =>
    match pool.fates[worker]? with
    | some .alive => none
    | some .left => some (.await (worker + 1), pool)
    | some .died => some (.await (worker + 1), pool.note (.foundDead worker))
    | none => some (.report, pool)
  | .report => some (.dismantle, pool.note (.stopped pool.counters))
  | .dismantle => some (.done, pool.dismantle)
  | .done => none

end Closing

end Turnstile.Pool
