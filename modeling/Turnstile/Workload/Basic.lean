import Turnstile.Machine

/-!
# Workloads

Threads that each go through a fixed list of orders: to make a call and wait for
its answer, or to touch the ledger that they all share. The ledger is not
guarded by anything but the calls between which it is touched.
-/

namespace Turnstile

set_option autoImplicit false

/-- Two machines side by side, of which a thread uses one or the other. -/
def Machine.beside {σ₁ π₁ ρ₁ σ₂ π₂ ρ₂ : Type} (left : Machine σ₁ π₁ ρ₁)
    (right : Machine σ₂ π₂ ρ₂) : Machine (σ₁ × σ₂) (π₁ ⊕ π₂) (ρ₁ ⊕ ρ₂) where
  act me point shared :=
    match point with
    | .inl point => (left.act me point shared.1).map fun (point, after) =>
        (.inl point, after, shared.2)
    | .inr point => (right.act me point shared.2).map fun (point, after) =>
        (.inr point, shared.1, after)
  expire me point shared :=
    match point with
    | .inl point => (left.expire me point shared.1).map fun (point, after) =>
        (.inl point, after, shared.2)
    | .inr point => (right.expire me point shared.2).map fun (point, after) =>
        (.inr point, shared.1, after)
  answer?
    | .inl point => (left.answer? point).map .inl
    | .inr point => (right.answer? point).map .inr

namespace Workload

variable {σ π ρ κ : Type}

/-- What the threads share: the object that they call, and the ledger. -/
structure Shop (σ κ : Type) where
  object : σ
  ledger : κ

inductive Order (σ π ρ κ : Type) where
  /-- A call, and what is entered in the ledger with its answer. -/
  | call (start : π) (enter : ρ → κ → κ)
  | touch (change : Shop σ κ → Shop σ κ)

/-- A thread: the call it is making, and its other orders. -/
structure Shift (σ π ρ κ : Type) where
  current : Option (π × (ρ → κ → κ))
  orders : List (Order σ π ρ κ)

def act (machine : Machine σ π ρ) (me : ThreadId) (shift : Shift σ π ρ κ) (shop : Shop σ κ) :
    Option (Shift σ π ρ κ × Shop σ κ) :=
  match shift.current with
  | some (point, enter) =>
    match machine.answer? point with
    | some answer =>
      some ({ shift with current := none }, { shop with ledger := enter answer shop.ledger })
    | none =>
      (machine.act me point shop.object).map fun (point, object) =>
        ({ shift with current := some (point, enter) }, { shop with object })
  | none =>
    match shift.orders with
    | [] => none
    | .call start enter :: orders => some (⟨some (start, enter), orders⟩, shop)
    | .touch change :: orders => some (⟨none, orders⟩, change shop)

/-- The threads of a workload. Their waits have no limit. -/
def machine (inner : Machine σ π ρ) : Machine (Shop σ κ) (Shift σ π ρ κ) Unit where
  act := act inner
  expire _ _ _ := none
  answer? shift := if shift.current.isNone && shift.orders.isEmpty then some () else none

/-- The object and the ledger after all threads have done as much as they can. -/
def perform (inner : Machine σ π ρ) (object : σ) (ledger : κ)
    (threads : List (List (Order σ π ρ κ))) : Shop σ κ :=
  let world : World (Shop σ κ) (Shift σ π ρ κ) :=
    ⟨⟨object, ledger⟩, threads.map fun orders => ⟨none, orders⟩⟩
  (world.settle (machine inner)).shared

/-- A call whose answer is not entered anywhere. -/
def plain (start : π) : Order σ π ρ κ := .call start fun _ ledger => ledger

def record (change : κ → κ) : Order σ π ρ κ :=
  .touch fun shop => { shop with ledger := change shop.ledger }

def rounds (count : Nat) (round : Nat → List (Order σ π ρ κ)) : List (Order σ π ρ κ) :=
  (List.range count).flatMap round

end Workload

end Turnstile
