import Turnstile.Queue.Calls

/-!
# A bounded list with two lines

What a bounded queue is to its callers: a list of items, a line of callers that wait
for a slot, each with its item, and a line of callers that wait for an item. There are
no permits here. A request says at once what it answers, which callers it releases,
and what is left.
-/

namespace Turnstile.Queue

set_option autoImplicit false

variable {α : Type}

structure Fifo (α : Type) where
  capacity : Nat
  items : List α
  /-- The callers that wait for a slot, with their items, the one waiting longest first. -/
  pushers : List (ThreadId × α)
  /-- The callers that wait for an item, the one waiting longest first. -/
  poppers : List ThreadId
  closed : Bool
  /-- How many calls there were. The next caller has this number. -/
  calls : Nat

inductive Request (α : Type) where
  | call (call : Call α)
  /-- A timed pop whose wait ends before anybody else calls. -/
  | popBriefly

structure Outcome (α : Type) where
  answer : Option (Answer α)
  released : List (ThreadId × Answer α)
  fifo : Fifo α

namespace Fifo

def opened (capacity : Nat) : Fifo α := ⟨capacity, [], [], [], false, 0⟩

def waiting (fifo : Fifo α) : List ThreadId := fifo.pushers.map Prod.fst ++ fifo.poppers

/-- An item comes in: it goes to the popper waiting longest, or to the end of the list. -/
def accept (item : α) (fifo : Fifo α) : Outcome α :=
  match fifo.poppers with
  | popper :: rest =>
    ⟨some (.push .stored), [(popper, .pop (.item item))], { fifo with poppers := rest }⟩
  | [] => ⟨some (.push .stored), [], { fifo with items := fifo.items ++ [item] }⟩

/-- The head of the list goes out, and the item of the pusher waiting longest comes in. -/
def emit (item : α) (rest : List α) (fifo : Fifo α) : Outcome α :=
  match fifo.pushers with
  | (pusher, next) :: more =>
    ⟨some (.pop (.item item)), [(pusher, .push .stored)],
      { fifo with items := rest ++ [next], pushers := more }⟩
  | [] => ⟨some (.pop (.item item)), [], { fifo with items := rest }⟩

def refuse (refusal : Refusal α) (fifo : Fifo α) : Outcome α :=
  ⟨some (.push (.refused refusal)), [], fifo⟩

def push (item : α) (fifo : Fifo α) : Outcome α :=
  if fifo.closed then fifo.refuse (.closed item)
  else if fifo.items.length < fifo.capacity then fifo.accept item
  else ⟨none, [], { fifo with pushers := fifo.pushers ++ [(fifo.calls, item)] }⟩

def tryPush (item : α) (fifo : Fifo α) : Outcome α :=
  if fifo.closed then fifo.refuse (.closed item)
  else if fifo.items.length < fifo.capacity then fifo.accept item
  else fifo.refuse (.full item)

def pop (fifo : Fifo α) : Outcome α :=
  match fifo.items with
  | item :: rest => fifo.emit item rest
  | [] =>
    if fifo.closed then ⟨some (.pop .nothing), [], fifo⟩
    else ⟨none, [], { fifo with poppers := fifo.poppers ++ [fifo.calls] }⟩

def tryPop (fifo : Fifo α) : Outcome α :=
  match fifo.items with
  | item :: rest => fifo.emit item rest
  | [] => ⟨some (.pop .nothing), [], fifo⟩

/-- Everybody who waits, a pusher with its own item and a popper with nothing. -/
def dismissed (fifo : Fifo α) : List (ThreadId × Answer α) :=
  fifo.pushers.map (fun (pusher, item) => (pusher, .push (.refused (.closed item)))) ++
    fifo.poppers.map fun popper => (popper, .pop .nothing)

def close (fifo : Fifo α) : Outcome α :=
  if fifo.closed then ⟨some .closed, [], fifo⟩
  else
    ⟨some .closed, fifo.dismissed, { fifo with closed := true, pushers := [], poppers := [] }⟩

def handle : Request α → Fifo α → Outcome α
  | .call (.push item), fifo => fifo.push item
  | .call (.tryPush item), fifo => fifo.tryPush item
  | .call .pop, fifo | .call .popFor, fifo => fifo.pop
  | .call .tryPop, fifo | .popBriefly, fifo => fifo.tryPop
  | .call .close, fifo => fifo.close

def serve (request : Request α) (fifo : Fifo α) : Outcome α :=
  let outcome := fifo.handle request
  { outcome with fifo := { outcome.fifo with calls := fifo.calls + 1 } }

def serveAll (requests : List (Request α)) (fifo : Fifo α) : Fifo α :=
  requests.foldl (fun fifo request => (fifo.serve request).fifo) fifo

end Fifo

/-- What can be read off a queue between two calls. -/
structure Snapshot (α : Type) where
  len : Nat
  isEmpty : Bool
  isFull : Bool
  closed : Bool
  live : Nat
  dropped : List α

def snapshot (world : World (Queue α) (Point α)) : Snapshot α where
  len := world.shared.len
  isEmpty := world.shared.isEmpty
  isFull := world.shared.isFull
  closed := world.shared.closed
  live := live world
  dropped := dropped world

/-- An item exists in the list or with a caller that waits for a slot, and the items
that go with the queue are those in the list. -/
def Fifo.snapshot (fifo : Fifo α) : Snapshot α where
  len := fifo.items.length
  isEmpty := fifo.items.isEmpty
  isFull := fifo.items.length = fifo.capacity
  closed := fifo.closed
  live := fifo.items.length + fifo.pushers.length
  dropped := fifo.items

end Turnstile.Queue
