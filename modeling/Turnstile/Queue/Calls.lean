import Turnstile.Queue.Basic

/-!
# The calls of a bounded queue, step by step

Each call of a queue as the sequence of its single actions: operations of the
two semaphores, and critical sections at the ring. Between two actions of a call
any other call may act.
-/

namespace Turnstile.Queue

set_option autoImplicit false

variable {α : Type}

inductive Answer (α : Type) where
  | push (answer : PushAnswer α)
  | pop (answer : PopAnswer α)
  | closed

inductive Point (α : Type) where
  | pushWait (item : α)
  | tryPush (item : α)
  /-- There was no free slot: is the queue closed? -/
  | refuse (item : α)
  | store (item : α)
  | postStored
  | postClosed (item : α)
  | popWait (timed : Bool)
  | tryPop
  | load
  | postLoaded (item : α)
  /-- There was a permit and no item: is the queue closed? -/
  | passOn
  | postNothing
  | close
  | closeFull
  | closeOpen
  | done (answer : Answer α)

def afterStore (item : α) (queue : Queue α) : Stored α → Point α × Queue α
  | .closed => (.postClosed item, queue)
  | .stored queue => (.postStored, queue)
  | .fault fault => (.done (.push (.fault fault)), queue)

def afterLoad (queue : Queue α) : Loaded α → Point α × Queue α
  | .nothing => (.passOn, queue)
  | .loaded item queue => (.postLoaded item, queue)
  | .fault fault => (.done (.pop (.fault fault)), queue)

def act (me : ThreadId) (point : Point α) (queue : Queue α) : Option (Point α × Queue α) :=
  match point with
  | .pushWait item =>
    match queue.openSlots.wait me with
    | .taken openSlots => some (.store item, { queue with openSlots })
    | .joined openSlots => some (.pushWait item, { queue with openSlots })
    | .asleep => none
  | .tryPush item =>
    match queue.openSlots.take? with
    | some openSlots => some (.store item, { queue with openSlots })
    | none => some (.refuse item, queue)
  | .refuse item =>
    some (.done (.push (.refused (if queue.closed then .closed item else .full item))), queue)
  | .store item => some (afterStore item queue (queue.store item))
  | .postStored => some (.done (.push .stored), queue.postFull)
  | .postClosed item => some (.done (.push (.refused (.closed item))), queue.postOpen)
  | .popWait timed =>
    match queue.fullSlots.wait me with
    | .taken fullSlots => some (.load, { queue with fullSlots })
    | .joined fullSlots => some (.popWait timed, { queue with fullSlots })
    | .asleep => none
  | .tryPop =>
    match queue.fullSlots.take? with
    | some fullSlots => some (.load, { queue with fullSlots })
    | none => some (.done (.pop .nothing), queue)
  | .load => some (afterLoad queue queue.load)
  | .postLoaded item => some (.done (.pop (.item item)), queue.postOpen)
  | .passOn =>
    some (if queue.closed then .postNothing else .done (.pop (.fault .permitWithoutItem)), queue)
  | .postNothing => some (.done (.pop .nothing), queue.postFull)
  | .close =>
    if queue.closed then some (.done .closed, queue)
    else some (.closeFull, { queue with closed := true })
  | .closeFull => some (.closeOpen, queue.postFull)
  | .closeOpen => some (.done .closed, queue.postOpen)
  | .done _ => none

/-- A timed pop that ends looks for an item once more. -/
def expire (me : ThreadId) (point : Point α) (queue : Queue α) : Option (Point α × Queue α) :=
  match point with
  | .popWait true =>
    (queue.fullSlots.withdraw? me).map fun fullSlots => (.tryPop, { queue with fullSlots })
  | _ => none

def answer? : Point α → Option (Answer α)
  | .done answer => some answer
  | _ => none

def machine (α : Type) : Machine (Queue α) (Point α) (Answer α) := ⟨act, expire, answer?⟩

inductive Call (α : Type) where
  | push (item : α)
  | tryPush (item : α)
  | pop
  | tryPop
  | popFor
  | close

def start : Call α → Point α
  | .push item => .pushWait item
  | .tryPush item => .tryPush item
  | .pop => .popWait false
  | .tryPop => .tryPop
  | .popFor => .popWait true
  | .close => .close

def Point.inHand? : Point α → Option α
  | .pushWait item | .tryPush item | .refuse item | .store item | .postClosed item
  | .postLoaded item => some item
  | _ => none

/-- The items that go when the queue goes. -/
def dropped (world : World (Queue α) (Point α)) : List α := world.shared.toList

/-- How many items exist: inside the queue or in the hands of a caller. -/
def live (world : World (Queue α) (Point α)) : Nat :=
  world.shared.len + (world.threads.filterMap Point.inHand?).length

end Turnstile.Queue
