import Turnstile.Fault

/-!
# A ring of slots

A fixed number of slots, each holding an item or nothing. Items are put at one
index and taken at another, both walking round the ring. The count of items says
which of the two cases equal indices stand for. Each operation checks what it
relies on, and breaks off if it does not hold.
-/

namespace Turnstile.Queue

set_option autoImplicit false

structure Ring (α : Type) where
  slots : Array (Option α)
  pushIndex : Nat
  popIndex : Nat
  count : Nat
  deriving Repr

namespace Ring

variable {α : Type}

def ofCapacity (capacity : Nat) : Ring α := ⟨Array.replicate capacity none, 0, 0, 0⟩

def capacity (ring : Ring α) : Nat := ring.slots.size

/-- The index after `index`, going round. -/
def after (ring : Ring α) (index : Nat) : Nat := (index + 1) % ring.capacity

def put (item : α) (ring : Ring α) : Except Fault (Ring α) :=
  if ring.count < ring.capacity then
    match ring.slots[ring.pushIndex]? with
    | some none =>
      .ok { ring with
        slots := ring.slots.setIfInBounds ring.pushIndex (some item)
        pushIndex := ring.after ring.pushIndex
        count := ring.count + 1 }
    | _ => .error .slotTaken
  else .error .ringFull

/-- The oldest item and the ring without it; an empty ring has none. -/
def take (ring : Ring α) : Except Fault (Option (α × Ring α)) :=
  if ring.count = 0 then .ok none
  else
    match ring.slots[ring.popIndex]? with
    | some (some item) =>
      .ok (some (item, { ring with
        slots := ring.slots.setIfInBounds ring.popIndex none
        popIndex := ring.after ring.popIndex
        count := ring.count - 1 }))
    | _ => .error .slotVacant

/-- The items in the `count` slots from the pop index on, oldest first. -/
def toList (ring : Ring α) : List α :=
  (List.range ring.count).filterMap fun offset =>
    (ring.slots[(ring.popIndex + offset) % ring.capacity]?).join

end Ring

end Turnstile.Queue
