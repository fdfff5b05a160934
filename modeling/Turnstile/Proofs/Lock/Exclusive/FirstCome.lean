import Turnstile.Guarded
import Turnstile.Lock.Exclusive

/-!
# A value behind a lock with one line

What a value behind a lock of one word is to its callers: the value, who holds the lock,
and the callers that wait for it, each with the name that its guard is to have. There is
no word here, no contention and no permit. A request says at once what it is answered,
which caller it lets in, and what is left.

`Request.deed` says what the same request does to the value that is really kept behind
the lock: it is a call of it, or it only looks at a guard.
-/

namespace Turnstile.Lock.Exclusive

set_option autoImplicit false

variable {α : Type}

inductive Holder where
  | nobody
  /-- A guard that can still be dropped. -/
  | guard (name : String)
  /-- A guard that is gone, while the lock stayed as it was. -/
  | forgotten
  deriving DecidableEq, Repr

structure FirstCome (α : Type) where
  value : α
  holder : Holder
  /-- The callers that wait and the names of their guards, the one waiting longest first. -/
  line : List (ThreadId × String)
  /-- How many calls of the lock there were. The next caller has this number. -/
  calls : Nat

inductive Request (α : Type) where
  | lock (guard : String)
  | tryLock (guard : String)
  | get (guard : String)
  | set (guard : String) (value : α)
  | drop (guard : String)
  | forget (guard : String)
  | forceUnlock

inductive Reply (α : Type) where
  | waits
  | answers (answer : Guarded.Answer α)
  | sees (value : α)
  | done
  | noGuard

structure Outcome (α : Type) where
  reply : Reply α
  released : List (ThreadId × Guarded.Answer α)
  desk : FirstCome α

def Holder.guards : Holder → List (String × Mode)
  | guard name => [(name, .exclusive)]
  | nobody | forgotten => []

namespace FirstCome

def opened (value : α) : FirstCome α := ⟨value, .nobody, [], 0⟩

def keep (reply : Reply α) (desk : FirstCome α) : Outcome α := ⟨reply, [], desk⟩

def grant (guard : String) (desk : FirstCome α) : Outcome α :=
  ⟨.answers (.entered desk.value), [], { desk with holder := .guard guard }⟩

/-- The holder leaves, and the caller that waits longest comes in. -/
def release (desk : FirstCome α) : Outcome α :=
  match desk.line with
  | [] => ⟨.answers .left, [], { desk with holder := .nobody }⟩
  | (caller, guard) :: rest =>
    ⟨.answers .left, [(caller, .entered desk.value)],
      { desk with holder := .guard guard, line := rest }⟩

theorem release_of_nil {desk : FirstCome α} (empty : desk.line = []) :
    desk.release = ⟨.answers .left, [], { desk with holder := .nobody }⟩ := by
  rw [release, empty]

theorem release_of_cons {desk : FirstCome α} {caller : ThreadId} {guard : String}
    {rest : List (ThreadId × String)} (lined : desk.line = (caller, guard) :: rest) :
    desk.release = ⟨.answers .left, [(caller, .entered desk.value)],
      { desk with holder := .guard guard, line := rest }⟩ := by
  rw [release, lined]

def handle : Request α → FirstCome α → Outcome α
  | .lock guard, desk =>
    if desk.holder = .nobody then desk.grant guard
    else ⟨.waits, [], { desk with line := desk.line ++ [(desk.calls, guard)] }⟩
  | .tryLock guard, desk =>
    if desk.holder = .nobody then desk.grant guard else desk.keep (.answers .refused)
  | .get guard, desk => desk.keep (if desk.holder = .guard guard then .sees desk.value else .noGuard)
  | .set guard value, desk =>
    if desk.holder = .guard guard then { desk with value }.keep .done else desk.keep .noGuard
  | .drop guard, desk => if desk.holder = .guard guard then desk.release else desk.keep .noGuard
  | .forget guard, desk =>
    if desk.holder = .guard guard then { desk with holder := .forgotten }.keep .done
    else desk.keep .noGuard
  | .forceUnlock, desk => desk.release

/-- Whether a request calls the lock. -/
def isCalled : Request α → FirstCome α → Bool
  | .lock _, _ | .tryLock _, _ | .forceUnlock, _ => true
  | .drop guard, desk => desk.holder = .guard guard
  | .get _, _ | .set _ _, _ | .forget _, _ => false

def serve (request : Request α) (desk : FirstCome α) : Outcome α :=
  let outcome := desk.handle request
  { outcome with desk := { outcome.desk with calls := desk.calls + (desk.isCalled request).toNat } }

def serveAll (requests : List (Request α)) (desk : FirstCome α) : FirstCome α :=
  requests.foldl (fun desk request => (desk.serve request).desk) desk

/-- The lock is forced open only where a forgotten guard holds it. -/
def Allows (desk : FirstCome α) : Request α → Prop
  | .forceUnlock => desk.holder = .forgotten
  | _ => True

/-- The callers wait in the order of their calls, and only while somebody holds the lock. -/
structure Orderly (desk : FirstCome α) : Prop where
  inOrder : (desk.line.map Prod.fst).Pairwise (· < ·)
  earlier : ∀ me ∈ desk.line.map Prod.fst, me < desk.calls
  held : desk.line ≠ [] → desk.holder ≠ .nobody

end FirstCome

/-- A value behind a lock of one word, and its callers. -/
abbrev Behind (α : Type) := World (Guarded kind α) (Guarded.Point kind α)

/-- What a request does to the value: it calls the lock, or it is answered at once. -/
inductive Deed (α : Type) where
  | call (point : Guarded.Point kind α)
  | reply (reply : Reply α) (state : Guarded kind α)

namespace Request

/-- What is done with the guard of a given name. -/
def onGuard (guard : String) (state : Guarded kind α) (deed : Mode → Deed α) : Deed α :=
  match state.mode? guard with
  | some mode => deed mode
  | none => .reply .noGuard state

def deed (state : Guarded kind α) : Request α → Deed α
  | lock guard => .call (Guarded.enter guard .exclusive)
  | tryLock guard => .call (Guarded.tryEnter guard .exclusive)
  | get guard => onGuard guard state fun _ => .reply (.sees state.value) state
  | set guard value => onGuard guard state fun _ => .reply .done (state.set value)
  | drop guard => onGuard guard state fun mode => .call (Guarded.drop guard mode)
  | forget guard => onGuard guard state fun _ => .reply .done (state.forget guard)
  | forceUnlock => .call (Guarded.release .exclusive)

end Request

/-- The reply to a call that has come to rest. -/
def Reply.ofAnswer : Option (Guarded.Answer α) → Reply α
  | none => waits
  | some answer => answers answer

end Turnstile.Lock.Exclusive
