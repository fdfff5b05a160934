import Turnstile.Pool.Calls

/-!
# Owning a pool

The owner of a pool submits tasks, keeps the handles of some of them under names,
and at last gives the pool up, in one of two ways. A *drop* may begin while
others still use the pool, who are refused from then on, and the pool is gone
when the drop is over. A *shutdown* takes the pool away at once, so nobody else
may be using it. Handles outlive the pool. To collect an outcome with a wait that
is not limited uses the handle up.
-/

namespace Turnstile.Pool

set_option autoImplicit false

open Turnstile.Task (Ticket Body)

variable {α : Type}

inductive Phase where
  | open
  | closing
  | gone
  deriving DecidableEq, Repr

structure Owned (α : Type) where
  pool : Pool α
  handles : List (String × Ticket)
  phase : Phase

namespace Owned

def handle? (owned : Owned α) (name : String) : Option Ticket := owned.handles.lookup name

/-- Gives a handle away, to somebody who uses it up. -/
def takeHandle (name : String) (owned : Owned α) : Owned α :=
  { owned with handles := owned.handles.filter (·.1 ≠ name) }

def dropHandle (name : String) (owned : Owned α) : Owned α :=
  { owned.takeHandle name with
    pool :=
      match owned.handle? name with
      | some ticket => owned.pool.heed (.forgo ticket)
      | none => owned.pool }

/-- Keeps a handle, in place of another one of the same name, which is dropped. -/
def keepHandle (name : String) (ticket : Ticket) (owned : Owned α) : Owned α :=
  { owned.dropHandle name with handles := (name, ticket) :: (owned.dropHandle name).handles }

def openGate (gate : String) (owned : Owned α) : Owned α :=
  { owned with pool := owned.pool.heed (.openGate gate) }

inductive Point (α : Type) where
  /-- Uses up a handle. -/
  | join (name : String) (ticket : Ticket)
  /-- Begins to give the pool up. -/
  | close (phase : Phase)
  /-- Does something in the pool; the handle of what is submitted is kept under a
  name, if there is one for it. -/
  | inPool (handle : Option String) (point : Pool.Point α)

/-- What the end of a call changes for the owner. -/
def afterCall (handle : Option String) (owned : Owned α) : Option (Answer α) → Owned α
  | some (.receipt (.accepted ticket)) =>
    match handle with
    | some name => owned.keepHandle name ticket
    | none => owned
  | some .closed => { owned with phase := .gone }
  | _ => owned

def inside (handle : Option String) (owned : Owned α) (moved : Pool.Point α × Pool α) :
    Point α × Owned α :=
  (.inPool handle moved.1, afterCall handle { owned with pool := moved.2 } (answer? moved.1))

def act (me : ThreadId) (point : Point α) (owned : Owned α) : Option (Point α × Owned α) :=
  match point with
  | .join name ticket => some (.inPool none (begin (.wait ticket)), owned.takeHandle name)
  | .close phase => some (.inPool none (begin .close), { owned with phase })
  | .inPool handle point => (Pool.act me point owned.pool).map (inside handle owned)

def expire (me : ThreadId) (point : Point α) (owned : Owned α) : Option (Point α × Owned α) :=
  match point with
  | .inPool handle point => (Pool.expire me point owned.pool).map (inside handle owned)
  | .join _ _ | .close _ => none

def pointAnswer? : Point α → Option (Answer α)
  | .inPool _ point => answer? point
  | .join _ _ | .close _ => none

def machine (α : Type) : Machine (Owned α) (Point α) (Answer α) := ⟨act, expire, pointAnswer?⟩

/-- A pool that has just been opened for its owner. -/
def ofRunning (world : Running α) : World (Owned α) (Point α) :=
  ⟨⟨world.shared, [], .open⟩, world.threads.map (.inPool none)⟩

def Point.isWaitingCall : Point α → Bool
  | .inPool _ (.worker _) => false
  | point => (pointAnswer? point).isNone

/-- What the owner may ask of the pool or of a handle. -/
inductive Request (α : Type) where
  | submit (body : Body α)
  | submitTo (worker : Nat) (body : Body α)
  | submitAs (name : String) (body : Body α)
  | tryJoin (name : String)
  | join (name : String)
  | joinBriefly (name : String)
  | drop
  | shutdown

/-- Why a request is not even tried. -/
inductive Refusal where
  | noHandle
  | noPool
  /-- The pool is being dropped already. -/
  | dropping
  /-- Somebody else is using the pool. -/
  | busy
  deriving DecidableEq, Repr

def Refusal.label : Refusal → String
  | noHandle => "NoHandle"
  | noPool => "NoPool"
  | dropping => "Dropping"
  | busy => "Busy"

/-- The ticket that is kept under a name. -/
def withHandle (owned : Owned α) (name : String) : Except Refusal Ticket :=
  match owned.handle? name with
  | some ticket => .ok ticket
  | none => .error .noHandle

def withPool (owned : Owned α) (point : Point α) : Except Refusal (Point α) :=
  if owned.phase = .gone then .error .noPool else .ok point

/-- Where a request begins. A drop does not begin while calls are waiting if a
worker has died, since they might wait for it for ever; a shutdown does not begin
while any call is waiting. -/
def request (world : World (Owned α) (Point α)) : Request α → Except Refusal (Point α)
  | .submit body => world.shared.withPool (.inPool none (begin (.submit body)))
  | .submitTo worker body =>
    world.shared.withPool (.inPool none (begin (.submitTo worker body)))
  | .submitAs name body => world.shared.withPool (.inPool (some name) (begin (.submit body)))
  | .tryJoin name => do
    let ticket ← world.shared.withHandle name
    .ok (.inPool none (begin (.ask ticket)))
  | .join name => do
    let ticket ← world.shared.withHandle name
    .ok (.join name ticket)
  | .joinBriefly name => do
    let ticket ← world.shared.withHandle name
    .ok (.inPool none (begin (.waitBriefly ticket)))
  | .drop =>
    match world.shared.phase with
    | .gone => .error .noPool
    | .closing => .error .dropping
    | .open =>
      if world.threads.any Point.isWaitingCall ∧ world.shared.pool.fates.contains .died then
        .error .busy
      else .ok (.close .closing)
  | .shutdown =>
    match world.shared.phase with
    | .gone => .error .noPool
    | .closing => .error .busy
    | .open =>
      if world.threads.any Point.isWaitingCall then .error .busy else .ok (.close .gone)

/-- What a handle shows: whether there is something to collect. -/
def delivery (owned : Owned α) (ticket : Ticket) : Task.Delivery α :=
  (owned.pool.deliveries[ticket]?).getD .closed

end Owned

end Turnstile.Pool
