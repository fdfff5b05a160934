import Turnstile.Lock.Exclusive

/-!
# A lock that readers share

One signed word counts the readers downwards from `roof`, its greatest value. A
reader lowers it by one to enter and raises it by one to leave. A writer, once
it has passed the gate that lets one writer at a time in, lowers it by the whole
roof: the word is then minus the number of readers inside, every later reader
finds it below one and waits, and the writer knows how many readers it has to
wait for. It adds that number to `departing`, from which every reader that
leaves below the roof takes one away; readers may do so before the writer has
added. Whoever brings `departing` to zero last knows that the last reader is
out, and if that is a reader it wakes the writer.

A writer that leaves adds the roof back. What was missing is the number of
readers that wait, and they are all woken.

The word and `departing` wrap around; the two sums made of values read from them
are checked. A call that breaks off leaves everything it did before.
-/

namespace Turnstile.Lock

set_option autoImplicit false

structure Sharing where
  readers : Int64
  departing : Int64
  gate : Exclusive
  readerWait : Semaphore
  writerWait : Semaphore
  deriving DecidableEq, Repr

namespace Sharing

/-- The value of the word when nobody is inside. -/
def roof : Int64 := Int64.maxValue

inductive Passage where
  /-- To come in as a writer. -/
  | enter
  /-- To come in as a writer without waiting. -/
  | tryEnter
  /-- To open the gate again after an attempt that failed. -/
  | giveBack
  /-- To open the gate at the end. -/
  | leave
  deriving DecidableEq, Repr

inductive Point where
  | enterShared
  | sleepShared
  | readShared
  | exchangeShared (seen : Int64)
  | leaveShared
  | depart
  | wakeWriter
  | gate (passage : Passage) (point : Exclusive.Point)
  | lower
  | publish (inside : Int64)
  | drain
  | claim
  | raise
  | letIn (readers : UInt64)
  | done (answer : Answer)
  deriving DecidableEq, Repr

/-- What an attempt to enter shared does when the word was seen to be `seen`. -/
def afterLook (seen : Int64) : Point :=
  if 1 ≤ seen then .exchangeShared seen else .done .refused

/-- Where a call goes on when the gate has answered it. -/
def afterGate : Passage → Answer → Point
  | _, .fault fault => .done (.fault fault)
  | .enter, _ => .lower
  | .tryEnter, .entered => .claim
  | .tryEnter, _ => .done .refused
  | .giveBack, _ => .done .refused
  | .leave, _ => .done .left

def atGate (passage : Passage) (point : Exclusive.Point) : Point :=
  match Exclusive.answer? point with
  | some answer => afterGate passage answer
  | none => .gate passage point

/-- The checked sum of what had departed and what is to depart, and whether it
leaves anybody to wait for. -/
def afterPublish (departed inside : Int64) : Point :=
  let sum := departed.toInt + inside.toInt
  if Int64.maxValue.toInt < sum ∨ sum < Int64.minValue.toInt then .done (.fault .sumOverflow)
  else if sum = 0 then .done .entered
  else .drain

/-- What a writer finds above its own subtraction, when the word was `seen`:
how many readers are inside, by a checked difference. -/
def afterLower (seen : Int64) : Point :=
  if seen < roof then
    if Int64.maxValue.toInt < roof.toInt - seen.toInt then .done (.fault .differenceOverflow)
    else .publish (roof - seen)
  else .done .entered

def act (me : ThreadId) (point : Point) (lock : Sharing) : Option (Point × Sharing) :=
  match point with
  | .enterShared =>
    some (if lock.readers < 1 then .sleepShared else .done .entered,
      { lock with readers := lock.readers - 1 })
  | .sleepShared =>
    match lock.readerWait.wait me with
    | .taken readerWait => some (.done .entered, { lock with readerWait })
    | .joined readerWait => some (.sleepShared, { lock with readerWait })
    | .asleep => none
  | .readShared => some (afterLook lock.readers, lock)
  | .exchangeShared seen =>
    if lock.readers = seen then some (.done .entered, { lock with readers := seen - 1 })
    else some (afterLook lock.readers, lock)
  | .leaveShared =>
    some (if lock.readers = roof then .done (.fault .noReader)
      else if lock.readers < 0 then .depart
      else .done .left,
      { lock with readers := lock.readers + 1 })
  | .depart =>
    some (if lock.departing = 1 then .wakeWriter else .done .left,
      { lock with departing := lock.departing - 1 })
  | .wakeWriter => some (.done .left, { lock with writerWait := lock.writerWait.post })
  | .gate passage point =>
    (Exclusive.act me point lock.gate).map fun (point, gate) =>
      (atGate passage point, { lock with gate })
  | .lower => some (afterLower lock.readers, { lock with readers := lock.readers - roof })
  | .publish inside =>
    some (afterPublish lock.departing inside, { lock with departing := lock.departing + inside })
  | .drain =>
    match lock.writerWait.wait me with
    | .taken writerWait => some (.done .entered, { lock with writerWait })
    | .joined writerWait => some (.drain, { lock with writerWait })
    | .asleep => none
  | .claim =>
    if lock.readers = roof then some (.done .entered, { lock with readers := 0 })
    else some (.gate .giveBack .leave, lock)
  | .raise =>
    some (if 0 < lock.readers then .done (.fault .noWriter)
      else if lock.readers < 0 then .letIn (-lock.readers).toUInt64
      else .gate .leave .leave,
      { lock with readers := lock.readers + roof })
  | .letIn readers =>
    some (.gate .leave .leave, { lock with readerWait := lock.readerWait.postMany readers })
  | .done _ => none

def answer? : Point → Option Answer
  | .done answer => some answer
  | _ => none

def machine : Machine Sharing Point Answer := ⟨act, fun _ _ _ => none, answer?⟩

def free : Sharing := ⟨roof, 0, .free, .empty, .empty⟩

/-- Somebody is inside, or on the way in. -/
def isHeld (lock : Sharing) : Bool := lock.readers ≠ roof

/-- A writer is inside, or on the way in. -/
def isHeldExclusively (lock : Sharing) : Bool := lock.readers ≤ 0

def describe (lock : Sharing) : String :=
  Text.record "FastSharedMutex"
    [("locked", toString lock.isHeld), ("exclusive", toString lock.isHeldExclusively)]

def enter : Mode → Point
  | .exclusive => .gate .enter .enter
  | .shared => .enterShared

def tryEnter : Mode → Point
  | .exclusive => .gate .tryEnter .tryEnter
  | .shared => .readShared

def leave : Mode → Point
  | .exclusive => .raise
  | .shared => .leaveShared

/-- Whether an attempt to enter would succeed. -/
def admits : Mode → Sharing → Bool
  | .exclusive, lock => !lock.gate.isHeld && lock.readers = roof
  | .shared, lock => 1 ≤ lock.readers

abbrev kind : Kind where
  Shared := Sharing
  Point := Point
  machine := machine
  free := free
  enter := enter
  tryEnter := tryEnter
  leave := leave
  isHeld := isHeld
  admits := admits

end Sharing

end Turnstile.Lock
