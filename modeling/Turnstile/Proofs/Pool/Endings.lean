import Turnstile.Proofs.Pool.Chronicle

/-!
# How the bodies end

The chronicle has an entry for each body that has come to its end. From then on the job
counts as sent. A panic that the worker survives is with it until the panic is on record,
and the run until it is on record as well; any other one is with the worker until its death
is on record.
-/

namespace Turnstile.Pool

set_option autoImplicit false

open World (total)
open Turnstile.Task (Ticket Payload Result)

variable {α : Type} {me : ThreadId} {pool later : Pool α} {ticket : Ticket} {config : Config}
  {world first last : Running α} {old new : Point α} {history : List (Occurrence α)}

def Occurrence.isEnd (ticket : Ticket) : Occurrence α → Bool
  | .ended _ other _ => other = ticket
  | _ => false

def Occurrence.isPanic (ticket : Ticket) : Occurrence α → Bool
  | .ended _ other (.error _) => other = ticket
  | _ => false

/-- The body of the job of a ticket has thrown what panics again when it is discarded. -/
def Occurrence.isBlast (ticket : Ticket) : Occurrence α → Bool
  | .ended _ other (.error .explosive) => other = ticket
  | _ => false

def ends (ticket : Ticket) (history : List (Occurrence α)) : Nat :=
  history.countP (Occurrence.isEnd ticket)

def panics (ticket : Ticket) (history : List (Occurrence α)) : Nat :=
  history.countP (Occurrence.isPanic ticket)

def blasts (ticket : Ticket) (history : List (Occurrence α)) : Nat :=
  history.countP (Occurrence.isBlast ticket)

/-- The ticket of a job that has panicked, until that is noted. -/
@[simp] def Worker.grieves? : Worker α → Option Ticket
  | .countPanic ticket _ => some ticket
  | _ => none

/-- The ticket of a job that the worker has survived, until the run is noted. -/
@[simp] def Worker.survives? : Worker α → Option Ticket
  | .countPanic ticket _ | .countRun ticket => some ticket
  | _ => none

/-- The ticket of a job that ends the worker's thread, until that is noted. -/
@[simp] def Worker.succumbs? : Worker α → Option Ticket
  | .perish ticket => ticket
  | _ => none

def Point.hand? : Point α → Option (Worker α)
  | .worker hand => some hand
  | .submission _ | .inquiry _ | .closing _ => none

def grieving (ticket : Ticket) (point : Point α) : Nat :=
  isFor ticket (point.hand?.bind Worker.grieves?)

def surviving (ticket : Ticket) (point : Point α) : Nat :=
  isFor ticket (point.hand?.bind Worker.survives?)

def succumbing (ticket : Ticket) (point : Point α) : Nat :=
  isFor ticket (point.hand?.bind Worker.succumbs?)

@[simp] theorem grieving_worker (ticket : Ticket) (hand : Worker α) :
    grieving ticket (.worker hand) = isFor ticket hand.grieves? := rfl

@[simp] theorem surviving_worker (ticket : Ticket) (hand : Worker α) :
    surviving ticket (.worker hand) = isFor ticket hand.survives? := rfl

@[simp] theorem succumbing_worker (ticket : Ticket) (hand : Worker α) :
    succumbing ticket (.worker hand) = isFor ticket hand.succumbs? := rfl

theorem exists_ended (pos : 0 < ends ticket history) :
    ∃ worker ending, .ended worker ticket ending ∈ history := by
  obtain ⟨what, member, ended⟩ := List.countP_pos_iff.mp pos
  unfold Occurrence.isEnd at ended
  split at ended
  · next worker other ending =>
    obtain rfl := of_decide_eq_true ended
    exact ⟨worker, ending, member⟩
  · cases ended

theorem blasts_le_panics (ticket : Ticket) (history : List (Occurrence α)) :
    blasts ticket history ≤ panics ticket history := by
  refine List.countP_mono_left fun what _ blasted => ?_
  unfold Occurrence.isBlast at blasted
  split at blasted
  · exact blasted
  · cases blasted

theorem panics_le_ends (ticket : Ticket) (history : List (Occurrence α)) :
    panics ticket history ≤ ends ticket history := by
  refine List.countP_mono_left fun what _ panicked => ?_
  unfold Occurrence.isPanic at panicked
  split at panicked
  · exact panicked
  · cases panicked

theorem Point.delivers_of_ended {worker : Nat} {ending : Ending α}
    (happens : old.occurs me new = some (.ended worker ticket ending)) :
    old = .worker (.deliver ticket ending) := by
  rcases Point.occurs_cases happens with
    (⟨_, _, _, same⟩ | ⟨_, same⟩ | ⟨_, same⟩) | ⟨_, _, delivers, same⟩ | ⟨_, _, _, _, same⟩
  · cases same
  · cases same
  · cases same
  · cases same
    exact delivers
  · cases same

theorem ends_eq_zero (me : ThreadId) (new : Point α)
    (apart : ∀ ending, old ≠ .worker (.deliver ticket ending)) :
    ends ticket (old.occurs me new).toList = 0 := by
  refine List.countP_eq_zero.mpr fun what member ended => ?_
  unfold Occurrence.isEnd at ended
  split at ended
  · next worker other ending =>
    obtain rfl := of_decide_eq_true ended
    exact apart ending (Point.delivers_of_ended (Option.mem_toList.mp member))
  · cases ended

/-- How a move adds to the ends and to the panics of a job. -/
structure Closure (ticket : Ticket) (pool later : Pool α) (old new : Point α)
    (happens : List (Occurrence α)) : Prop where
  ended : settling ticket new + later.ended ticket =
    settling ticket old + pool.ended ticket + ends ticket happens
  panicked : grieving ticket new + later.mishaps .panicked ticket + blasts ticket happens =
    grieving ticket old + pool.mishaps .panicked ticket + panics ticket happens
  survived : surviving ticket old + pool.times .finished ticket + panics ticket happens ≤
    surviving ticket new + later.times .finished ticket + blasts ticket happens
  succumbed : succumbing ticket old + pool.mishaps .killed ticket + blasts ticket happens ≤
    succumbing ticket new + later.mishaps .killed ticket

theorem aloof_of_settles (ticket : Ticket) (free : old.settles? = none) :
    grieving ticket old = 0 ∧ surviving ticket old = 0 ∧ succumbing ticket old = 0 := by
  cases old with
  | worker hand =>
      cases hand with
      | perish held =>
          obtain rfl : held = none := free
          exact ⟨rfl, rfl, rfl⟩
      | countPanic | countRun => cases free
      | _ => exact ⟨rfl, rfl, rfl⟩
  | submission | inquiry | closing => exact ⟨rfl, rfl, rfl⟩

theorem Deed.closure (deed : Deed me pool old new later)
    (apart : ∀ ending, old ≠ .worker (.deliver ticket ending)) {happens : List (Occurrence α)}
    (unended : ends ticket happens = 0) : Closure ticket pool later old new happens := by
  have unpanicked : panics ticket happens = 0 :=
    Nat.le_zero.mp (unended ▸ panics_le_ends ticket happens)
  have unblasted : blasts ticket happens = 0 :=
    Nat.le_zero.mp (unpanicked ▸ blasts_le_panics ticket happens)
  have ended : settling ticket new + later.ended ticket =
      settling ticket old + pool.ended ticket := by
    rcases deed.sent_cases ticket with same | ⟨ending, same, _⟩
    · exact same
    · exact absurd same (apart ending)
  suffices passed : grieving ticket new + later.mishaps .panicked ticket =
        grieving ticket old + pool.mishaps .panicked ticket ∧
      surviving ticket new + later.times .finished ticket =
        surviving ticket old + pool.times .finished ticket ∧
      succumbing ticket new + later.mishaps .killed ticket =
        succumbing ticket old + pool.mishaps .killed ticket by
    obtain ⟨panicked, survived, succumbed⟩ := passed
    exact ⟨by omega, by omega, by omega, by omega⟩
  cases deed with
  | plain before after plain =>
      obtain ⟨grieves, survives, succumbs⟩ := aloof_of_settles ticket before
      obtain ⟨grievesNew, survivesNew, succumbsNew⟩ := aloof_of_settles ticket after
      rw [grieves, survives, succumbs, grievesNew, survivesNew, succumbsNew, plain.mishaps_eq,
        plain.mishaps_eq, plain.finished_eq]
      exact ⟨rfl, rfl, rfl⟩
  | deliver other ending =>
      have elsewhere : isFor ticket (some other) = 0 := by
        refine if_neg fun same => apart ending ?_
        rw [Option.some.inj same]
      rcases Worker.afterDelivery_cases other (pool.isForgone other) ending with
        after | after | ⟨message, after⟩ <;>
        simp [after, elsewhere]
  | countPanic other message =>
      rw [mishaps_note, mishaps_note, times_note]
      simp only [grieving_worker, surviving_worker, succumbing_worker, Worker.grieves?,
        Worker.survives?, Worker.succumbs?, Note.mishap?, Note.milestone?, isFor_mishap,
        isFor_none, mishaps_count, times_count, if_true, reduceCtorEq, if_false]
      omega
  | countRun other =>
      rw [mishaps_note, mishaps_note, times_note]
      simp only [grieving_worker, surviving_worker, succumbing_worker, Worker.grieves?,
        Worker.survives?, Worker.succumbs?, Note.mishap?, Note.milestone?, isFor_milestone,
        isFor_none, mishaps_count, times_count, if_true]
      omega
  | perish held =>
      rw [mishaps_note, mishaps_note, times_note]
      cases held with
      | none => exact ⟨rfl, rfl, rfl⟩
      | some held =>
          simp only [grieving_worker, surviving_worker, succumbing_worker, Worker.grieves?,
            Worker.survives?, Worker.succumbs?, Note.mishap?, Note.milestone?, isFor_mishap,
            isFor_none, mishaps_setFate, times_setFate, if_true, reduceCtorEq, if_false]
          omega
  | collect => exact ⟨rfl, rfl, rfl⟩
  | dismantle =>
      rw [mishaps_dismantle, mishaps_dismantle, times, countP_dismantle fun _ => rfl]
      exact ⟨rfl, rfl, rfl⟩

section Ended

variable (me : ThreadId) (ticket : Ticket)

theorem panics_ok (result : Result α) : panics ticket [.ended me ticket (.ok result)] = 0 := rfl

theorem panics_error (payload : Payload) :
    panics ticket [(.ended me ticket (.error payload) : Occurrence α)] = 1 := by
  simp [panics, Occurrence.isPanic]

theorem blasts_ok (result : Result α) : blasts ticket [.ended me ticket (.ok result)] = 0 := rfl

theorem blasts_explosive :
    blasts ticket [(.ended me ticket (.error .explosive) : Occurrence α)] = 1 := by
  simp [blasts, Occurrence.isBlast]

theorem blasts_of_calm {payload : Payload} (calm : payload ≠ .explosive) :
    blasts ticket [(.ended me ticket (.error payload) : Occurrence α)] = 0 := by
  cases payload with
  | explosive => exact absurd rfl calm
  | _ => rfl

end Ended

/-- With the outcome of a job its body has ended: the worker survives that, or it perishes. -/
theorem closure_of_deliver (pool : Pool α) (ending : Ending α) :
    Closure ticket pool (pool.setDelivery ticket (.ready (Worker.outcome ending)))
      (.worker (.deliver ticket ending))
      (.worker (Worker.afterDelivery ticket (pool.isForgone ticket) ending))
      [.ended me ticket ending] := by
  have ended : settling ticket
        (.worker (Worker.afterDelivery ticket (pool.isForgone ticket) ending)) +
      pool.ended ticket = 0 + pool.ended ticket + ends ticket [.ended me ticket ending] := by
    rw [settling_afterDelivery]
    simp [ends, Occurrence.isEnd, Nat.add_comm]
  have one : isFor ticket (some ticket) = 1 := if_pos rfl
  cases bursting : Worker.bursts (pool.isForgone ticket) ending with
  | true =>
      rw [Worker.afterDelivery_of_bursts bursting] at ended ⊢
      cases ending with
      | ok result =>
          refine ⟨ended, ?_, ?_, ?_⟩ <;> simp [panics_ok, blasts_ok]
      | error payload =>
          obtain rfl : payload = .explosive := of_decide_eq_true bursting
          refine ⟨ended, ?_, ?_, ?_⟩ <;> simp [panics_error, blasts_explosive, one, Nat.add_comm]
  | false =>
      rcases Worker.afterDelivery_of_calm ticket bursting with
        ⟨result, rfl, after⟩ | ⟨payload, rfl, after⟩
      · rw [after] at ended ⊢
        refine ⟨ended, ?_, ?_, ?_⟩ <;> simp [panics_ok, blasts_ok]
      · have unblasted := blasts_of_calm (α := α) me ticket (of_decide_eq_false bursting)
        rw [after] at ended ⊢
        refine ⟨ended, ?_, ?_, ?_⟩ <;> simp [panics_error, unblasted, one, Nat.add_comm]

theorem Point.closure_of_move
    (moved : act me old pool = some (new, later) ∨ expire me old pool = some (new, later)) :
    Closure ticket pool later old new (old.occurs me new).toList := by
  by_cases delivers : ∃ ending, old = .worker (.deliver ticket ending)
  · obtain ⟨ending, rfl⟩ := delivers
    rcases moved with acted | expired
    · cases acted
      exact closure_of_deliver pool ending
    · cases expired
  · have apart : ∀ ending, old ≠ .worker (.deliver ticket ending) :=
      fun ending same => delivers ⟨ending, same⟩
    exact (deed_of_move moved).closure apart (ends_eq_zero me new apart)

/-- What has ended, and what has panicked, is with a worker that has still to note it, or it
is on record. -/
structure Closed (ticket : Ticket) (world : Running α) (history : List (Occurrence α)) : Prop where
  ended : ends ticket history = sent ticket world
  panicked : panics ticket history = blasts ticket history +
    total (grieving ticket) world.threads + world.shared.mishaps .panicked ticket
  survived : panics ticket history ≤ blasts ticket history +
    total (surviving ticket) world.threads + world.shared.times .finished ticket
  succumbed : blasts ticket history ≤
    total (succumbing ticket) world.threads + world.shared.mishaps .killed ticket

theorem Closed.ends_eq (closed : Closed ticket world history) :
    ends ticket history = total (settling ticket) world.threads +
      world.shared.times .finished ticket + world.shared.mishaps .killed ticket :=
  closed.ended.trans (Nat.add_assoc _ _ _).symm

theorem Closed.start (opened : Pool.start config = .ok first) (ticket : Ticket) :
    Closed ticket first [] := by
  refine ⟨(sent_start opened ticket).symm, ?_, Nat.zero_le _, Nat.zero_le _⟩
  unfold Pool.start at opened
  split at opened
  · cases opened
  · split at opened <;> cases opened
    rw [World.total_replicate]
    rfl

theorem Closed.put (closed : Closed ticket world history) {happens : List (Occurrence α)}
    (found : world.threads[me]? = some old)
    (closure : Closure ticket world.shared later old new happens) :
    Closed ticket (world.put me (new, later)) (happens ++ history) := by
  obtain ⟨ended, panicked, survived, succumbed⟩ := closed
  have settles : sent ticket (world.put me (new, later)) + _ + _ = _ := sent_put found ticket
  have grieves := World.total_set (grieving ticket) found new
  have survives := World.total_set (surviving ticket) found new
  have succumbs := World.total_set (succumbing ticket) found new
  have moreEnds : ends ticket (happens ++ history) = ends ticket happens + ends ticket history :=
    List.countP_append
  have morePanics : panics ticket (happens ++ history) =
      panics ticket happens + panics ticket history := List.countP_append
  have moreBlasts : blasts ticket (happens ++ history) =
      blasts ticket happens + blasts ticket history := List.countP_append
  have endedMore := closure.ended
  have panickedMore := closure.panicked
  have survivedMore := closure.survived
  have succumbedMore := closure.succumbed
  refine ⟨by omega, ?_, ?_, ?_⟩
  all_goals
    simp only [World.put]
    omega

theorem Closed.of_chronicle (opened : Pool.start config = .ok first)
    (chronicle : Chronicle first last history) (ticket : Ticket) : Closed ticket last history := by
  induction chronicle with
  | refl => exact .start opened ticket
  | @move world history me old new later before found moved ih =>
      exact ih.put found (Point.closure_of_move moved)
  | call before made ih =>
      obtain ⟨ended, panicked, survived, succumbed⟩ := ih
      obtain ⟨grieves, survives, succumbs⟩ : grieving ticket (begin made : Point α) = 0 ∧ _ ∧ _ :=
        aloof_of_settles ticket (by cases made <;> rfl)
      refine ⟨?_, ?_, ?_, ?_⟩
      · rw [sent_call]
        exact ended
      · rw [World.spawn, World.total_append, grieves]
        exact panicked
      · rw [World.spawn, World.total_append, survives]
        exact survived
      · rw [World.spawn, World.total_append, succumbs]
        exact succumbed
  | heed before signal ih => exact ⟨ih.ended, ih.panicked, ih.survived, ih.succumbed⟩

end Turnstile.Pool
